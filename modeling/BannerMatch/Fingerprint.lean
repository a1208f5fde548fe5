import BannerMatch.Text.Utf8

/-!
# Fingerprints of texts

A fingerprint has 128 bits: two SipHash-1-3 values of the text under different seeds, with the key
zero. What is hashed is the seed as eight bytes, least first, the UTF-8 bytes of the text, and one
byte `0xFF`.
-/

namespace BannerMatch

/-- A fingerprint of a text. -/
abbrev Fingerprint := BitVec 128

namespace SipHash

/-- The four words of the hash state. -/
structure State where
  a : UInt64
  b : UInt64
  c : UInt64
  d : UInt64
deriving DecidableEq, Repr

/-- The state for the key zero. -/
def initial : State :=
  ⟨0x736f6d6570736575, 0x646f72616e646f6d, 0x6c7967656e657261, 0x7465646279746573⟩

/-- Rotates a word to the left. -/
def rotate (x : UInt64) (n : UInt64) : UInt64 := (x <<< n) ||| (x >>> (64 - n))

/-- Mixes the state once. -/
def State.round (s : State) : State :=
  let a := s.a + s.b
  let b := rotate s.b 13 ^^^ a
  let a := rotate a 32
  let c := s.c + s.d
  let d := rotate s.d 16 ^^^ c
  let a := a + d
  let d := rotate d 21 ^^^ a
  let c := c + b
  let b := rotate b 17 ^^^ c
  ⟨a, b, rotate c 32, d⟩

/-- Takes in a word of the message. -/
def State.absorb (s : State) (word : UInt64) : State :=
  let mixed := State.round { s with d := s.d ^^^ word }
  { mixed with a := mixed.a ^^^ word }

/-- The hash value after the last word. -/
def State.finish (s : State) : UInt64 :=
  let t := (State.round { s with c := s.c ^^^ 0xff }).round.round
  t.a ^^^ t.b ^^^ t.c ^^^ t.d

/-- The word of up to eight bytes, least first. -/
def word (bytes : List UInt8) : UInt64 :=
  bytes.foldr (fun b w => (w <<< 8) ||| b.toUInt64) 0

/-- Takes in whole words, then the rest with the length of the message modulo `256` on top. -/
def absorbAll (length : Nat) (s : State) : List UInt8 → State
  | b₀ :: b₁ :: b₂ :: b₃ :: b₄ :: b₅ :: b₆ :: b₇ :: rest =>
      absorbAll length (s.absorb (word [b₀, b₁, b₂, b₃, b₄, b₅, b₆, b₇])) rest
  | rest => s.absorb (word rest ||| (length.toUInt8.toUInt64 <<< 56))

/-- The hash value of a message. -/
def hash (message : List UInt8) : UInt64 := (absorbAll message.length initial message).finish

end SipHash

namespace Fingerprint

/-- The bytes of a word, least first. -/
def wordBytes (w : UInt64) : List UInt8 :=
  (List.range 8).map fun i => (w >>> (8 * i).toUInt64).toUInt8

/-- The hash value of a text under a seed. -/
def half (seed : UInt64) (text : String) : UInt64 :=
  SipHash.hash (wordBytes seed ++ Text.encode text.toList ++ [0xff])

/-- The fingerprint of a text. -/
def ofText (text : String) : Fingerprint :=
  (half 0x243f6a8885a308d3 text).toBitVec ++ (half 0x13198a2e03707344 text).toBitVec

end Fingerprint

end BannerMatch
