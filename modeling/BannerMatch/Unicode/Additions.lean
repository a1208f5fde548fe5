import BannerMatch.Unicode.Property

/-!
# Additions of version 17

The sets that patterns name are those of version 16 of the standard. Where single characters are
judged, in the names of groups and in quoted text, the characters of version 17 count as well.

* `addedCharacters`, `addedMarks`, `addedAlphabetic` and `addedNumerals` are what version 17 added.
* `nameLetter` and `nameNumeral` are what names are made of.
* `shown` are the characters that quoted text shows as they are.
-/

namespace BannerMatch.Unicode

/-- The characters that version 17 added. -/
def addedCharacters : CodeSet := .ofRows
  ["88F C5C CDC 1ACF-1ADD 1AE0-1AEB 20C1 2B96 A7CE-A7CF A7D2 A7D4 A7F1 FBC3-FBD2 FD90-FD91",
    "FDC8-FDCE 10940-10959 10EC5-10EC7 10ED0-10ED8 10EFA-10EFB 11B60-11B67 11DB0-11DDB",
    "11DE0-11DE9 16EA0-16EB8 16EBB-16ED3 16FF2-16FF6 187F8-187FF 18D09-18D1E 18D80-18DF2",
    "1CCFA-1CCFC 1CEBA-1CED0 1CEE0-1CEF0 1E6C0-1E6DE 1E6E0-1E6F5 1E6FE-1E6FF 1F6D8 1F777-1F77A",
    "1F8D0-1F8D8 1FA54-1FA57 1FA8A 1FA8E 1FAC8 1FACD 1FAEA 1FAEF 1FBFA 2B73A-2B73F 2CEA2-2CEAD",
    "323B0-33479"]

/-- The added characters that extend the grapheme before them. -/
def addedMarks : CodeSet := .ofRows
  ["1ACF-1ADD 1AE0-1AEB 10EFA-10EFB 11B60 11B62-11B64 11B66 1E6E3 1E6E6 1E6EE-1E6EF 1E6F5"]

/-- The added letters and what is used like a letter. -/
def addedAlphabetic : CodeSet := .ofRows
  ["88F C5C CDC A7CE-A7CF A7D2 A7D4 A7F1 10940-10959 10EC5-10EC7 10EFA-10EFB 11B60-11B67",
    "11DB0-11DDB 16EA0-16EB8 16EBB-16ED3 16FF2-16FF6 187F8-187FF 18D09-18D1E 18D80-18DF2",
    "1E6C0-1E6DE 1E6E0-1E6F5 1E6FE-1E6FF 2B73A-2B73F 2CEA2-2CEAD 323B0-33479"]

/-- The added digits and numerals. -/
def addedNumerals : CodeSet := .ofRows ["11DE0-11DE9 16FF4-16FF6"]

/-- What is used like a letter in names. -/
def nameLetter : CodeSet := alphabetic.union addedAlphabetic

/-- What is used like a numeral in names. -/
def nameNumeral : CodeSet := (categories ["Nd", "Nl", "No"]).union addedNumerals

/-- Characters without a glyph of their own: controls, format and private characters, unassigned
code points, fillers, and separators except the blank. -/
def glyphless : CodeSet :=
  ((categories ["Cc", "Cf", "Co", "Cn", "Zl", "Zp", "Zs"]).diff
    ((CodeSet.single 0x20).union addedCharacters)).union defaultIgnorable

/-- Marks that extend the grapheme before them. The half-width sound marks, which are letters, stand
for themselves. -/
def combining : CodeSet := (graphemeExtend.union addedMarks).diff (categories ["Lm"])

/-- The characters that can be shown anywhere in a text. -/
def shown : CodeSet := (glyphless.union combining).compl

end BannerMatch.Unicode
