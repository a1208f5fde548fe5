/-!
# UTF-8

* `encode` writes characters as bytes.
* `decode` reads bytes byte by byte and puts the replacement character for every maximal part that
  is the start of no encoding; `decode?` refuses such bytes instead.

The reader knows after each byte which continuation bytes may follow. A byte that may not follow
ends the broken character and is read again as the first byte of the next one, so a line feed
always stands for itself.
-/

namespace BannerMatch.Text

/-- The character that stands for broken input. -/
def replacement : Char := '\uFFFD'

/-- The bytes of a code point. -/
def encodeCode (n : Nat) : List UInt8 :=
  if n < 0x80 then [n.toUInt8]
  else if n < 0x800 then [(0xC0 + n / 0x40).toUInt8, (0x80 + n % 0x40).toUInt8]
  else if n < 0x10000 then
    [(0xE0 + n / 0x1000).toUInt8, (0x80 + n / 0x40 % 0x40).toUInt8, (0x80 + n % 0x40).toUInt8]
  else
    [(0xF0 + n / 0x40000).toUInt8, (0x80 + n / 0x1000 % 0x40).toUInt8,
      (0x80 + n / 0x40 % 0x40).toUInt8, (0x80 + n % 0x40).toUInt8]

/-- The bytes of a text. -/
def encode (cs : List Char) : List UInt8 := cs.flatMap fun c => encodeCode c.toNat

/-- The number of bytes of a text. -/
def byteLength (cs : List Char) : Nat := cs.foldr (fun c n => c.utf8Size + n) 0

/-- A character whose first bytes have been read: the value so far, the number of bytes to come,
and the bounds of the next one. -/
structure Partial where
  value : Nat
  missing : Nat
  low : Nat := 0x80
  high : Nat := 0xBF
deriving DecidableEq, Repr

/-- What one byte gives: a character, a character to be continued, or nothing that is valid. -/
inductive ByteStep
  | char (c : Char)
  | more (p : Partial)
  | broken

/-- Reads the first byte of a character. -/
def firstByte (b : Nat) : ByteStep :=
  if b < 0x80 then .char (Char.ofNat b)
  else if b < 0xC2 then .broken
  else if b < 0xE0 then .more ⟨b - 0xC0, 1, 0x80, 0xBF⟩
  else if b = 0xE0 then .more ⟨0, 2, 0xA0, 0xBF⟩
  else if b = 0xED then .more ⟨0xD, 2, 0x80, 0x9F⟩
  else if b < 0xF0 then .more ⟨b - 0xE0, 2, 0x80, 0xBF⟩
  else if b = 0xF0 then .more ⟨0, 3, 0x90, 0xBF⟩
  else if b < 0xF4 then .more ⟨b - 0xF0, 3, 0x80, 0xBF⟩
  else if b = 0xF4 then .more ⟨4, 3, 0x80, 0x8F⟩
  else .broken

/-- Reads a further byte of a character. -/
def Partial.byte (p : Partial) (b : Nat) : ByteStep :=
  if p.low ≤ b ∧ b ≤ p.high then
    let value := p.value * 0x40 + (b - 0x80)
    if p.missing ≤ 1 then .char (Char.ofNat value) else .more ⟨value, p.missing - 1, 0x80, 0xBF⟩
  else .broken

/-- Reads bytes after the start `pending` of a character, if one has been read. -/
def decodeFrom (pending : Option Partial) : List UInt8 → List Char
  | [] => if pending.isSome then [replacement] else []
  | b :: rest =>
      let fresh (before : List Char) : List Char :=
        match firstByte b.toNat with
        | .char c => before ++ c :: decodeFrom none rest
        | .more p => before ++ decodeFrom (some p) rest
        | .broken => before ++ replacement :: decodeFrom none rest
      match pending with
      | none => fresh []
      | some p =>
          match p.byte b.toNat with
          | .char c => c :: decodeFrom none rest
          | .more q => decodeFrom (some q) rest
          | .broken => fresh [replacement]

/-- The text of the bytes, with replacement characters for what is broken. -/
def decode (bytes : List UInt8) : List Char := decodeFrom none bytes

/-- Reads bytes strictly after the start `pending` of a character. -/
def decodeStrict (pending : Option Partial) : List UInt8 → Option (List Char)
  | [] => if pending.isSome then none else some []
  | b :: rest =>
      match (match pending with | none => firstByte b.toNat | some p => p.byte b.toNat) with
      | .char c => (decodeStrict none rest).map (c :: ·)
      | .more p => decodeStrict (some p) rest
      | .broken => none

/-- The text of the bytes, if they are its encoding. -/
def decode? (bytes : List UInt8) : Option (List Char) := decodeStrict none bytes

end BannerMatch.Text
