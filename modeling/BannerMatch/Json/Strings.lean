import BannerMatch.Json.Scan
import BannerMatch.Text.Utf8

/-!
# Strings

`readString` reads a string after its opening quotation mark. Code points beyond four hexadecimal
digits are written as two escapes, a leading and a trailing surrogate; a surrogate without its
partner is a fault.

`skipString` passes over a string whose characters do not matter. It does not look at partners.
-/

namespace BannerMatch.Json

/-- The value of a hexadecimal digit. -/
def hexValue? (c : Char) : Option Nat :=
  if '0' ≤ c ∧ c ≤ '9' then some (c.toNat - 48)
  else if 'a' ≤ c ∧ c ≤ 'f' then some (c.toNat - 87)
  else if 'A' ≤ c ∧ c ≤ 'F' then some (c.toNat - 55)
  else none

/-- Reads four hexadecimal digits. -/
def readHex (cs : List Char) : Except Fault (Nat × List Char) :=
  if Text.byteLength (cs.take 4) < 4 then .error .truncated
  else match cs with
    | a :: b :: c :: d :: rest =>
        match hexValue? a, hexValue? b, hexValue? c, hexValue? d with
        | some w, some x, some y, some z => .ok (((16 * w + x) * 16 + y) * 16 + z, rest)
        | _, _, _, _ => .error .malformed
    | _ => .error .malformed

/-- Reads the escape of the trailing surrogate that belongs to a leading one. -/
def readTrailing (leading : Nat) (cs : List Char) : Except Fault (Char × List Char) :=
  match cs with
  | [] => .error .truncated
  | ['\\'] => .error .truncated
  | '\\' :: 'u' :: rest =>
      match readHex rest with
      | .error f => .error f
      | .ok (n, rest) =>
          if 0xDC00 ≤ n ∧ n ≤ 0xDFFF then
            .ok (Char.ofNat (0x10000 + (leading - 0xD800) * 0x400 + (n - 0xDC00)), rest)
          else .error .malformed
  | _ => .error .malformed

/-- The control characters and signs with a letter of their own. -/
def shortEscape? (c : Char) : Option Char :=
  if c = '"' ∨ c = '\\' ∨ c = '/' then some c
  else if c = 'b' then some '\x08'
  else if c = 'f' then some '\x0c'
  else if c = 'n' then some '\n'
  else if c = 'r' then some '\r'
  else if c = 't' then some '\t'
  else none

/-- Reads what follows a backslash. -/
def readEscape : List Char → Except Fault (Char × List Char)
  | [] => .error .truncated
  | c :: rest =>
      if c = 'u' then
        match readHex rest with
        | .error f => .error f
        | .ok (n, rest) =>
            if 0xD800 ≤ n ∧ n ≤ 0xDBFF then readTrailing n rest
            else if 0xDC00 ≤ n ∧ n ≤ 0xDFFF then .error .malformed
            else .ok (Char.ofNat n, rest)
      else match shortEscape? c with
        | some e => .ok (e, rest)
        | none => .error .malformed

/-- Reads at most `fuel` characters of a string. -/
def readChars : Nat → List Char → Except Fault (List Char × List Char)
  | _, [] => .error .truncated
  | 0, _ => .error .truncated
  | fuel + 1, c :: rest =>
      if c = '"' then .ok ([], rest)
      else if c = '\\' then
        match readEscape rest with
        | .error f => .error f
        | .ok (e, rest) => (readChars fuel rest).map fun p => (e :: p.1, p.2)
      else if c.toNat < 0x20 then .error .malformed
      else (readChars fuel rest).map fun p => (c :: p.1, p.2)

/-- Reads a string after its opening quotation mark. -/
def readString (cs : List Char) : Except Fault (List Char × List Char) := readChars cs.length cs

/-- Passes over what follows a backslash. -/
def skipEscape : List Char → Except Fault (List Char)
  | [] => .error .truncated
  | c :: rest =>
      if c = 'u' then (readHex rest).map Prod.snd
      else if (shortEscape? c).isSome then .ok rest
      else .error .malformed

/-- Passes over at most `fuel` characters of a string. -/
def skipChars : Nat → List Char → Except Fault (List Char)
  | _, [] => .error .truncated
  | 0, _ => .error .truncated
  | fuel + 1, c :: rest =>
      if c = '"' then .ok rest
      else if c = '\\' then
        match skipEscape rest with
        | .error f => .error f
        | .ok rest => skipChars fuel rest
      else if c.toNat < 0x20 then .error .malformed
      else skipChars fuel rest

/-- Passes over a string after its opening quotation mark. -/
def skipString (cs : List Char) : Except Fault (List Char) := skipChars cs.length cs

end BannerMatch.Json
