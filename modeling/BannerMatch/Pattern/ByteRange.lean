import BannerMatch.Text.Utf8
import BannerMatch.Unicode.CodeSet

/-!
# Sets as byte sequences

The encodings of the characters of a set, as sequences of byte ranges: a sequence stands for all
encodings that have a byte of the first range, then one of the second, and so on.

A range of characters is cut where the number of bytes changes (`cutAt`) and then into blocks in
which the later bytes take all values (`alignTo`), so that the bytes at its ends bound the others.
The sequences come in the order of the characters.
-/

namespace BannerMatch

/-- A range of bytes, both ends included. -/
abbrev ByteRange := Nat × Nat

namespace CodeSet

/-- Cuts a range before the code point `n`. -/
def cutAt (n : Nat) (r : Nat × Nat) : List (Nat × Nat) :=
  if r.1 < n ∧ n ≤ r.2 then [(r.1, n - 1), (n, r.2)] else [r]

/-- Cuts a range at the first and at the last multiple of `block` inside, unless it lies in one
block. -/
def alignTo (block : Nat) (r : Nat × Nat) : List (Nat × Nat) :=
  if r.1 / block = r.2 / block then [r]
  else
    let low := (r.1 + block - 1) / block * block
    let high := (r.2 + 1) / block * block
    (if r.1 < low then [(r.1, low - 1)] else []) ++
      (if low < high then [(low, high - 1)] else []) ++
      (if high ≤ r.2 then [(high, r.2)] else [])

/-- The byte ranges of a block of characters, by its first and its last one. -/
def byteRanges (r : Nat × Nat) : List ByteRange :=
  if r.2 < 0x80 then [r]
  else ((Text.encodeCode r.1).map UInt8.toNat).zip ((Text.encodeCode r.2).map UInt8.toNat)

/-- The byte sequences of a range of characters. -/
def rangeSequences (r : Nat × Nat) : List (List ByteRange) :=
  let cut := (((cutAt 0x80 r).flatMap (cutAt 0x800)).flatMap (cutAt 0x10000))
  cut.flatMap fun r =>
    if r.2 < 0x80 then [[r]]
    else (((alignTo 0x40 r).flatMap (alignTo 0x1000)).flatMap (alignTo 0x40000)).map byteRanges

/-- The byte sequences of a set. -/
def byteSequences (s : CodeSet) : List (List ByteRange) :=
  s.characters.ranges.flatMap rangeSequences

end CodeSet

end BannerMatch
