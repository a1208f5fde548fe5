/-!
# Numbers with 53 significant bits

`Binary.ofRatio` is the number with 53 significant bits that is nearest to a quotient; of two
nearest ones it is the one with an even significand.
-/

namespace BannerMatch

/-- The natural number nearest to a quotient; of two nearest ones the even one. -/
def roundDiv (num den : Nat) : Nat :=
  let q := num / den
  let r := num % den
  if 2 * r < den then q
  else if den < 2 * r then q + 1
  else if q % 2 = 0 then q else q + 1

/-- The number `significand * 2 ^ exponent`. -/
structure Binary where
  significand : Nat
  exponent : Int
deriving DecidableEq, Repr

namespace Binary

/-- A quotient of natural numbers times a power of two, as numerator and denominator. -/
def scale (num den : Nat) (exponent : Int) : Nat × Nat :=
  match exponent with
  | .ofNat e => (num * Nat.pow 2 e, den)
  | .negSucc e => (num, den * Nat.pow 2 (e + 1))

/-- The least significand that uses all 53 bits. -/
def leastSignificand : Nat := Nat.pow 2 52

/-- The nearest number to a quotient. -/
def ofRatio (num den : Nat) : Binary :=
  let high : Int := num.log2 - den.log2 - 52
  let scaled := scale num den (-high)
  let exponent := if scaled.1 / scaled.2 < leastSignificand then high - 1 else high
  let final := scale num den (-exponent)
  ⟨roundDiv final.1 final.2, exponent⟩

/-- The numerator and denominator of a number. -/
def ratio (b : Binary) : Nat × Nat := scale b.significand 1 b.exponent

/-- The nearest number to a natural number, which is a natural number again. -/
def roundNat (n : Nat) : Nat :=
  let r := (ofRatio n 1).ratio
  r.1 / r.2

/-- The products from here on are not below any number that is taken for finite. -/
def infinity : Nat := Nat.pow 2 1024 - Nat.pow 2 970

end Binary

end BannerMatch
