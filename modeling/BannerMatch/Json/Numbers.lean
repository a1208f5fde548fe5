import BannerMatch.Json.Scan
import BannerMatch.Number.Binary

/-!
# Numbers

A number has digits, perhaps a fraction and perhaps an exponent. `readNumber` keeps its value if it
is a natural number below `2 ^ 64`; other numbers are read but have no value here, and those that
are too large for a floating-point number are faults. `skipNumber` only looks at the form.

The size of a number that is not natural is judged by its first digits: those that fit into 64
bits, times a power of ten.
-/

namespace BannerMatch.Json

/-- The parts of a number. -/
structure NumberParts where
  negative : Bool
  /-- The digits before the point. -/
  whole : List Nat
  /-- The digits after the point. -/
  fraction : List Nat
  /-- Whether there is a point or an exponent. -/
  isDecimal : Bool
  exponent : Int
deriving DecidableEq, Repr

/-- The value of a digit. -/
def digitValue (c : Char) : Nat := c.toNat - 48

/-- The digits at the start of a text. -/
def leadingDigits (cs : List Char) : List Nat := (cs.takeWhile Char.isDigit).map digitValue

/-- What follows the digits at the start of a text. -/
def afterDigits (cs : List Char) : List Char := cs.dropWhile Char.isDigit

/-- The number that digits spell. -/
def ofDigits (ds : List Nat) : Nat := ds.foldl (fun n d => 10 * n + d) 0

/-- Reads the digits before the point: one zero, or digits of which the first is not zero. -/
def readWhole (cs : List Char) : Except Fault (List Nat × List Char) :=
  match cs with
  | [] => .error .truncated
  | c :: rest =>
      if c = '0' then
        if (rest.head?.any Char.isDigit) then .error .malformed else .ok ([0], rest)
      else if c.isDigit then .ok (leadingDigits cs, afterDigits cs)
      else .error .malformed

/-- Reads digits of which there must be one at least. -/
def readDigits (cs : List Char) : Except Fault (List Nat × List Char) :=
  if (leadingDigits cs).isEmpty then .error (unexpected cs)
  else .ok (leadingDigits cs, afterDigits cs)

/-- Reads the digits after the point, if there is a point. -/
def readFraction : List Char → Except Fault (Option (List Nat) × List Char)
  | '.' :: rest => (readDigits rest).map fun p => (some p.1, p.2)
  | cs => .ok (none, cs)

/-- Reads the sign and the digits of an exponent. -/
def readSigned : List Char → Except Fault (Int × List Char)
  | '-' :: rest => (readDigits rest).map fun p => (-(ofDigits p.1 : Int), p.2)
  | '+' :: rest => (readDigits rest).map fun p => ((ofDigits p.1 : Int), p.2)
  | cs => (readDigits cs).map fun p => ((ofDigits p.1 : Int), p.2)

/-- Reads the exponent, if there is one. -/
def readExponent : List Char → Except Fault (Option Int × List Char)
  | 'e' :: rest => (readSigned rest).map fun p => (some p.1, p.2)
  | 'E' :: rest => (readSigned rest).map fun p => (some p.1, p.2)
  | cs => .ok (none, cs)

/-- Reads the parts of a number after its sign. -/
def readUnsigned (negative : Bool) (cs : List Char) : Except Fault (NumberParts × List Char) :=
  match readWhole cs with
  | .error f => .error f
  | .ok (whole, rest) => match readFraction rest with
    | .error f => .error f
    | .ok (fraction, rest) => match readExponent rest with
      | .error f => .error f
      | .ok (exponent, rest) =>
          .ok (⟨negative, whole, fraction.getD [], fraction.isSome || exponent.isSome,
            exponent.getD 0⟩, rest)

/-- Reads the parts of a number. -/
def readParts : List Char → Except Fault (NumberParts × List Char)
  | '-' :: rest => readUnsigned true rest
  | cs => readUnsigned false cs

/-- Whole numbers have values below this bound. -/
def wholeBound : Nat := 0x10000000000000000

/-- Takes in digits as long as the number stays below the bound; gives the number and how many
digits are left. -/
def takeIn (n : Nat) : List Nat → Nat × Nat
  | [] => (n, 0)
  | d :: rest =>
      if 10 * n + d < wholeBound then takeIn (10 * n + d) rest else (n, rest.length + 1)

/-- The natural number that the parts stand for. -/
def NumberParts.natural? (p : NumberParts) : Option Nat :=
  let n := ofDigits p.whole
  if p.negative || p.isDecimal || wholeBound ≤ n then none else some n

/-- Whether the number is too large for a floating-point number. -/
def NumberParts.isTooLarge (p : NumberParts) : Bool :=
  let whole := takeIn 0 p.whole
  let all := takeIn whole.1 p.fraction
  let exponent : Int := whole.2 - (p.fraction.length - all.2 : Nat) + p.exponent
  if all.1 = 0 then false
  else if 308 < exponent then true
  else if 0 ≤ exponent then
    decide (Binary.infinity ≤
      Binary.roundNat all.1 * Binary.roundNat (Nat.pow 10 exponent.toNat))
  else false

/-- Reads a number; gives its value if it is a natural number. -/
def readNumber (cs : List Char) : Except Fault (Option Nat × List Char) :=
  match readParts cs with
  | .error f => .error f
  | .ok (parts, rest) =>
      if parts.isTooLarge then .error .malformed else .ok (parts.natural?, rest)

/-- Passes over a number. Here a number that ends too early is malformed. -/
def skipNumber (cs : List Char) : Except Fault (List Char) :=
  match readParts cs with
  | .error _ => .error .malformed
  | .ok (_, rest) => .ok rest

end BannerMatch.Json
