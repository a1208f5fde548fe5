import BannerMatch.Number.Binary

/-!
# Decimal texts of numbers

* `Decimal.shortest?` finds the decimal with the fewest digits among those that lie nearer to a
  number than to its neighbours; of several it takes the one nearest to the number.
* `Decimal.text` writes it with at least one place, and with an exponent if it is very small or
  very large.
* `Binary.fixed` writes a number with a given number of places.
-/

namespace BannerMatch

/-- The number `digits * 10 ^ exponent`. -/
structure Decimal where
  digits : Nat
  exponent : Int
deriving DecidableEq, Repr

namespace Decimal

/-- The numerator and denominator of a decimal. -/
def ratio (d : Decimal) : Nat × Nat :=
  match d.exponent with
  | .ofNat e => (d.digits * Nat.pow 10 e, 1)
  | .negSucc e => (d.digits, Nat.pow 10 (e + 1))

/-- Whether a quotient is below another one, or not above it if `orEqual`. -/
def isBelow (orEqual : Bool) (a b : Nat × Nat) : Bool :=
  a.1 * b.2 < b.1 * a.2 || (orEqual && a.1 * b.2 == b.1 * a.2)

/-- Whether a decimal reads back as a number. -/
def readsBack (b : Binary) (d : Decimal) : Bool :=
  let closed := b.significand % 2 = 0
  let gap := if b.significand = Binary.leastSignificand then 1 else 2
  let low := Binary.scale (4 * b.significand - gap) 4 b.exponent
  let high := Binary.scale (4 * b.significand + 2) 4 b.exponent
  isBelow closed low d.ratio && isBelow closed d.ratio high

/-- Whether a number lies nearer to the lower one of two decimals. -/
def isNearerLow (b : Binary) (low high : Decimal) : Bool :=
  let v := b.ratio
  let l := low.ratio
  let h := high.ratio
  isBelow true (v.1 * l.2 - l.1 * v.2, v.2 * l.2) (h.1 * v.2 - v.1 * h.2, v.2 * h.2)

/-- The decimals with a given exponent at and above a number. -/
def neighbours (b : Binary) (exponent : Int) : Decimal × Decimal :=
  let v := b.ratio
  let low := match exponent with
    | .ofNat e => v.1 / (v.2 * Nat.pow 10 e)
    | .negSucc e => v.1 * Nat.pow 10 (e + 1) / v.2
  (⟨low, exponent⟩, ⟨low + 1, exponent⟩)

/-- The better one of the two decimals with a given exponent, if one reads back. -/
def onGrid? (b : Binary) (exponent : Int) : Option Decimal :=
  let n := neighbours b exponent
  match readsBack b n.1, readsBack b n.2 with
  | true, true => some (if isNearerLow b n.1 n.2 then n.1 else n.2)
  | true, false => some n.1
  | false, true => some n.2
  | false, false => none

/-- The first grid that has a decimal, from an exponent downwards. -/
def search? (b : Binary) : Nat → Int → Option Decimal
  | 0, _ => none
  | fuel + 1, exponent =>
      match onGrid? b exponent with
      | some d => if d.digits = 0 then search? b fuel (exponent - 1) else some d
      | none => search? b fuel (exponent - 1)

/-- The shortest decimal of a number other than zero. -/
def shortest? (b : Binary) : Option Decimal :=
  let v := b.ratio
  search? b 800 (Nat.toDigits 10 (v.1 / v.2)).length

/-- Digits with a point after the first `n` of them. -/
def pointed (digits : List Char) (n : Nat) : List Char :=
  digits.take n ++ '.' :: digits.drop n

/-- The text of a decimal. -/
def text (d : Decimal) : List Char :=
  let digits := Nat.toDigits 10 d.digits
  let point : Int := digits.length + d.exponent
  if 0 ≤ d.exponent ∧ point ≤ 16 then
    digits ++ List.replicate d.exponent.toNat '0' ++ ['.', '0']
  else if 0 < point ∧ point ≤ 16 then pointed digits point.toNat
  else if -5 < point ∧ point ≤ 0 then
    ['0', '.'] ++ List.replicate (-point).toNat '0' ++ digits
  else
    (if digits.length = 1 then digits else pointed digits 1) ++ 'e' :: (toString (point - 1)).toList

end Decimal

namespace Binary

/-- The shortest text that reads back as a number. -/
def shortest (b : Binary) : String :=
  if b.significand = 0 then "0.0"
  else match Decimal.shortest? b with
    | some d => String.ofList d.text
    | none => "0.0"

/-- A number with the given number of places. -/
def fixed (b : Binary) (places : Nat) : String :=
  let v := b.ratio
  let digits := Nat.toDigits 10 (roundDiv (v.1 * Nat.pow 10 places) v.2)
  let padded := List.replicate (places + 1 - digits.length) '0' ++ digits
  String.ofList (Decimal.pointed padded (padded.length - places))

end Binary

end BannerMatch
