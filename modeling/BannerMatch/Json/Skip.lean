import BannerMatch.Json.Numbers
import BannerMatch.Json.Strings

/-!
# Values that do not matter

`skipValue` passes over a value of any kind, however deep.
-/

namespace BannerMatch.Json

/-- Passes over a value other than a list or an object, from its first character. -/
def skipScalar (c : Char) (rest : List Char) : Except Fault (List Char) :=
  if c = '"' then skipString rest
  else if c = 'n' then readWord ['u', 'l', 'l'] rest
  else if c = 't' then readWord ['r', 'u', 'e'] rest
  else if c = 'f' then readWord ['a', 'l', 's', 'e'] rest
  else if c = '-' ∨ c.isDigit then skipNumber (c :: rest)
  else .error .malformed

/-- Passes over the name of a member and the colon. -/
def skipName (cs : List Char) : Except Fault (List Char) :=
  match skipBlank cs with
  | '"' :: rest => (skipString rest).bind readColon
  | rest => .error (unexpected rest)

mutual

/-- Passes over a value; `fuel` bounds the steps. -/
def skipFrom : Nat → List Char → Except Fault (List Char)
  | 0, _ => .error .truncated
  | fuel + 1, cs =>
      match skipBlank cs with
      | [] => .error .truncated
      | '[' :: rest => match skipBlank rest with
          | [] => .error .truncated
          | ']' :: rest => .ok rest
          | rest => skipItems fuel rest
      | '\x7b' :: rest => match skipBlank rest with
          | [] => .error .truncated
          | '\x7d' :: rest => .ok rest
          | rest => skipMembers fuel rest
      | c :: rest => skipScalar c rest

/-- Passes over the items of a list that is not empty. -/
def skipItems : Nat → List Char → Except Fault (List Char)
  | 0, _ => .error .truncated
  | fuel + 1, cs =>
      match skipFrom fuel cs with
      | .error f => .error f
      | .ok rest => match skipBlank rest with
          | ',' :: rest => skipItems fuel rest
          | ']' :: rest => .ok rest
          | rest => .error (unexpected rest)

/-- Passes over the members of an object that is not empty. -/
def skipMembers : Nat → List Char → Except Fault (List Char)
  | 0, _ => .error .truncated
  | fuel + 1, cs =>
      match (skipName cs).bind (skipFrom fuel) with
      | .error f => .error f
      | .ok rest => match skipBlank rest with
          | ',' :: rest => skipMembers fuel rest
          | '\x7d' :: rest => .ok rest
          | rest => .error (unexpected rest)

end

/-- Passes over a value. -/
def skipValue (cs : List Char) : Except Fault (List Char) := skipFrom (2 * cs.length + 2) cs

end BannerMatch.Json
