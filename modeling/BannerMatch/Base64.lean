/-!
# Base64

The standard alphabet with padding. `decode?` accepts exactly the canonical encodings: groups of
four digits, padding only at the end, and no bits set that the padding drops.
-/

namespace BannerMatch.Base64

/-- The sign `=`, which fills up the last group. -/
def pad : UInt8 := 0x3D

/-- The byte of a digit. -/
def digit (n : Nat) : UInt8 :=
  if n < 26 then (n + 65).toUInt8
  else if n < 52 then (n + 71).toUInt8
  else if n < 62 then (n - 4).toUInt8
  else if n = 62 then 0x2B else 0x2F

/-- The value of a digit. -/
def value? (b : UInt8) : Option Nat :=
  let n := b.toNat
  if 65 ≤ n ∧ n ≤ 90 then some (n - 65)
  else if 97 ≤ n ∧ n ≤ 122 then some (n - 71)
  else if 48 ≤ n ∧ n ≤ 57 then some (n + 4)
  else if n = 0x2B then some 62
  else if n = 0x2F then some 63
  else none

/-- Writes bytes in groups of three as groups of four digits. -/
def encode : List UInt8 → List UInt8
  | [] => []
  | [a] => [digit (a.toNat / 4), digit (a.toNat % 4 * 16), pad, pad]
  | [a, b] =>
      [digit (a.toNat / 4), digit (a.toNat % 4 * 16 + b.toNat / 16), digit (b.toNat % 16 * 4), pad]
  | a :: b :: c :: rest =>
      digit (a.toNat / 4) :: digit (a.toNat % 4 * 16 + b.toNat / 16) ::
        digit (b.toNat % 16 * 4 + c.toNat / 64) :: digit (c.toNat % 64) :: encode rest

/-- The bytes of a whole group. -/
def group? (a b c d : UInt8) : Option (List UInt8) := do
  let w ← value? a
  let x ← value? b
  let y ← value? c
  let z ← value? d
  return [(w * 4 + x / 16).toUInt8, (x % 16 * 16 + y / 4).toUInt8, (y % 4 * 64 + z).toUInt8]

/-- The bytes of the last group, which may be filled up. -/
def lastGroup? (a b c d : UInt8) : Option (List UInt8) :=
  if d = pad then
    if c = pad then do
      let w ← value? a
      let x ← value? b
      if x % 16 = 0 then some [(w * 4 + x / 16).toUInt8] else none
    else do
      let w ← value? a
      let x ← value? b
      let y ← value? c
      if y % 4 = 0 then some [(w * 4 + x / 16).toUInt8, (x % 16 * 16 + y / 4).toUInt8] else none
  else group? a b c d

/-- The bytes that an encoding stands for. -/
def decode? : List UInt8 → Option (List UInt8)
  | [] => some []
  | [a, b, c, d] => lastGroup? a b c d
  | a :: b :: c :: d :: rest => do
      let first ← group? a b c d
      let others ← decode? rest
      return first ++ others
  | _ => none

end BannerMatch.Base64
