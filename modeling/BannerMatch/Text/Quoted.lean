import BannerMatch.Unicode.Additions

/-!
# Quoted text

The quoted form shows a text in one line: control characters, marks and characters without a glyph
are written as escapes, and so are the backslash and the quotation mark in use.
-/

namespace BannerMatch.Text

/-- Lower-case hexadecimal digits of a number. -/
def hex (n : Nat) : List Char := Nat.toDigits 16 n

/-- A character by its code point, `\u` with the number in braces. -/
def codeEscape (c : Char) : List Char := ['\\', 'u', '{'] ++ hex c.toNat ++ ['}']

/-- A character inside quotation marks `mark`. -/
def quotedChar (mark c : Char) : List Char :=
  if c = '\x00' then ['\\', '0']
  else if c = '\t' then ['\\', 't']
  else if c = '\r' then ['\\', 'r']
  else if c = '\n' then ['\\', 'n']
  else if c = '\\' then ['\\', '\\']
  else if c = mark then ['\\', mark]
  else if c.toNat < 0x7F ∧ 0x20 ≤ c.toNat then [c]
  else if Unicode.shown.contains c then [c]
  else codeEscape c

/-- A text in quotation marks. -/
def quoted (mark : Char) (cs : List Char) : List Char :=
  mark :: cs.flatMap (quotedChar mark) ++ [mark]

end BannerMatch.Text
