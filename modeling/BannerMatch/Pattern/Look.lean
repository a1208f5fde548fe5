import BannerMatch.Pattern.Expr
import BannerMatch.Unicode.Property

/-!
# When an assertion holds

An assertion looks at the character before a place in the text and at the one after it. There is
none before the first place and none after the last.
-/

namespace BannerMatch.Pattern

/-- Whether a character belongs to words. -/
def isWord (ascii : Bool) (c : Char) : Bool :=
  if ascii then c.isAlphanum || c == '_'
  else if c.toNat < 128 then c.isAlphanum || c == '_'
  else Unicode.word.contains c

/-- Whether there is a character and it belongs to words. -/
def wordAt (ascii : Bool) (c : Option Char) : Bool := c.any (isWord ascii)

/-- Whether the assertion holds between `before` and `after`. -/
def Look.holds (l : Look) (before after : Option Char) : Bool :=
  match l with
  | .start => before.isNone
  | .stop => after.isNone
  | .lineStart => before.isNone || before == some '\n'
  | .lineStop => after.isNone || after == some '\n'
  | .crlfStart =>
      before.isNone || before == some '\n' || (before == some '\r' && after != some '\n')
  | .crlfStop =>
      after.isNone || after == some '\r' || (after == some '\n' && before != some '\r')
  | .word ascii => wordAt ascii before != wordAt ascii after
  | .notWord ascii => wordAt ascii before == wordAt ascii after
  | .wordStart ascii => !wordAt ascii before && wordAt ascii after
  | .wordEnd ascii => wordAt ascii before && !wordAt ascii after
  | .wordStartHalf ascii => !wordAt ascii before
  | .wordEndHalf ascii => !wordAt ascii after

end BannerMatch.Pattern
