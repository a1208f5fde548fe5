import BannerMatch.Pattern.Escape

/-!
# Escapes in probe files

Probe files write control characters and bytes as escapes. `unescape` replaces the escapes `\r`,
`\n`, `\t`, `\0`, `\\` and `\x` with two hexadecimal digits by what they stand for, and leaves all
others to the pattern. A character that came from `\\` or `\x` never acts as a pattern sign.
-/

namespace BannerMatch.Probe

open BannerMatch.Pattern

/-- An upper-case hexadecimal digit. -/
def upperHexDigit (n : Nat) : Char := if n < 10 then Char.ofNat (48 + n) else Char.ofNat (55 + n)

/-- A pattern for the character with the code `n` below `256`. -/
def literalPattern (n : Nat) : List Char :=
  if n < 0x80 then
    let c := Char.ofNat n
    if isMeta c then ['\\', c] else [c]
  else ['\\', 'x', upperHexDigit (n / 16), upperHexDigit (n % 16)]

/-- The number that two hexadecimal digits spell. -/
def hexPair? (a b : Char) : Option Nat :=
  match hexDigit? a, hexDigit? b with
  | some m, some n => some (16 * m + n)
  | _, _ => none

/-- The pattern that is written with escapes. -/
def unescape : List Char → List Char
  | [] => []
  | '\\' :: 'r' :: rest => '\r' :: unescape rest
  | '\\' :: 'n' :: rest => '\n' :: unescape rest
  | '\\' :: 't' :: rest => '\t' :: unescape rest
  | '\\' :: '0' :: rest => '\x00' :: unescape rest
  | '\\' :: '\\' :: rest => literalPattern 0x5C ++ unescape rest
  | '\\' :: 'x' :: a :: b :: rest =>
      match hexPair? a b with
      | some n => literalPattern n ++ unescape rest
      | none => '\\' :: 'x' :: unescape (a :: b :: rest)
  | c :: rest => c :: unescape rest

end BannerMatch.Probe
