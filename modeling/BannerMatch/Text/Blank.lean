import BannerMatch.Unicode.CodeSet

/-!
# White space

White space is the property `White_Space` of the Unicode standard.

* `trim` drops white space at both ends of a text.
* `splitWord` separates the first word of a text from what follows the white space after it.
* `words` lists the maximal runs of other characters.
-/

namespace BannerMatch.Text

/-- The white space characters. -/
def blanks : CodeSet :=
  ⟨[(0x9, 0xD), (0x20, 0x20), (0x85, 0x85), (0xA0, 0xA0), (0x1680, 0x1680), (0x2000, 0x200A),
    (0x2028, 0x2029), (0x202F, 0x202F), (0x205F, 0x205F), (0x3000, 0x3000)]⟩

/-- Whether a character is white space. -/
def isBlank (c : Char) : Bool := blanks.contains c

/-- Drops white space at the start. -/
def trimStart (cs : List Char) : List Char := cs.dropWhile isBlank

/-- Drops white space at the end. -/
def trimEnd (cs : List Char) : List Char := (cs.reverse.dropWhile isBlank).reverse

/-- Drops white space at both ends. -/
def trim (cs : List Char) : List Char := trimEnd (trimStart cs)

/-- Whether a text holds white space only. -/
def isAllBlank (s : String) : Bool := (trim s.toList).isEmpty

/-- The characters before the first white space, and those from there on. -/
def untilBlank (cs : List Char) : List Char × List Char :=
  (cs.takeWhile fun c => !isBlank c, cs.dropWhile fun c => !isBlank c)

/-- The first word of a text, and the text after the white space that follows it. -/
def splitWord (cs : List Char) : List Char × List Char :=
  let parts := untilBlank (trimStart cs)
  (parts.1, trimStart parts.2)

/-- The words of a text; `word` holds the characters, last first, of the word being read. -/
def wordsFrom (word : List Char) : List Char → List (List Char)
  | [] => if word.isEmpty then [] else [word.reverse]
  | c :: rest =>
      if isBlank c then
        if word.isEmpty then wordsFrom [] rest else word.reverse :: wordsFrom [] rest
      else wordsFrom (c :: word) rest

/-- The maximal runs of characters that are not white space. -/
def words (cs : List Char) : List (List Char) := wordsFrom [] cs

end BannerMatch.Text
