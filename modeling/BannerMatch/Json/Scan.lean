import BannerMatch.Json.Fault

/-!
# First steps of reading JSON

Readers take the characters that are left, and give what they read with the characters after it, or
the first fault.
-/

namespace BannerMatch.Json

/-- White space between the parts of a text. -/
def isBlank (c : Char) : Bool := c == ' ' || c == '\n' || c == '\t' || c == '\r'

/-- Drops white space. -/
def skipBlank (cs : List Char) : List Char := cs.dropWhile isBlank

/-- Reads the rest of a fixed word. -/
def readWord : List Char → List Char → Except Fault (List Char)
  | [], cs => .ok cs
  | _ :: _, [] => .error .truncated
  | w :: ws, c :: cs => if c = w then readWord ws cs else .error .malformed

/-- The fault of a text that does not go on as it must. -/
def unexpected (cs : List Char) : Fault := if cs.isEmpty then .truncated else .malformed

/-- Reads the colon after the name of a member. -/
def readColon (cs : List Char) : Except Fault (List Char) :=
  match skipBlank cs with
  | ':' :: rest => .ok rest
  | rest => .error (unexpected rest)

end BannerMatch.Json
