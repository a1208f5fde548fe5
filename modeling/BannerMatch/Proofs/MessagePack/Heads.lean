import BannerMatch.MessagePack.Reader
import BannerMatch.MessagePack.Writer
import BannerMatch.Proofs.Text.Utf8
import Mathlib.Tactic

/-!
# Reading written heads back

The heads of texts, lists and maps are read back for every length below `2 ^ 32`; the numbers in
them are, by `ofBytes_bigEndian`.
-/

namespace BannerMatch.MessagePack

/-! ### Numbers in bytes -/

/-- Bytes are split off in front of others. -/
theorem takeBytes_append (bs rest : List UInt8) :
    takeBytes bs.length (bs ++ rest) = some (bs, rest) := by
  simp [takeBytes]

theorem length_bigEndian (count n : Nat) : (bigEndian count n).length = count := by
  induction count generalizing n with
  | zero => rfl
  | succ count ih => rw [bigEndian, List.length_append, ih, List.length_singleton]

theorem ofBytes_append_singleton (bs : List UInt8) (b : UInt8) :
    ofBytes (bs ++ [b]) = 256 * ofBytes bs + b.toNat := by
  simp [ofBytes]

/-- A number that fits into the bytes is read from them. -/
theorem ofBytes_bigEndian {count n : Nat} (hn : n < 256 ^ count) :
    ofBytes (bigEndian count n) = n := by
  induction count generalizing n with
  | zero =>
    rw [Nat.pow_zero, Nat.lt_one_iff] at hn
    rw [hn]
    rfl
  | succ count ih =>
    have hdiv : n / 256 < 256 ^ count := by
      rw [Nat.div_lt_iff_lt_mul (by decide), ← Nat.pow_succ]
      exact hn
    have hlow : n.toUInt8.toNat = n % 256 := by simp
    rw [bigEndian, ofBytes_append_singleton, ih hdiv, hlow]
    exact Nat.div_add_mod n 256

/-- A head that has its number in the bytes after the first one. -/
theorem readHead_counted {b : UInt8} {head : Nat → Head} {count n : Nat}
    (hb : ∀ bs, readHead (b :: bs) = readCounted head count bs) (hn : n < 256 ^ count)
    (rest : List UInt8) :
    readHead (b :: bigEndian count n ++ rest) = some (head n, rest) := by
  have htake := takeBytes_append (bigEndian count n) rest
  rw [length_bigEndian] at htake
  rw [List.cons_append, hb, readCounted, readNumber, htake]
  simp [ofBytes_bigEndian hn]

/-! ### Heads -/

theorem readHead_textHead {length : Nat} (h : length < 2 ^ 32) (rest : List UInt8) :
    readHead (textHead length ++ rest) = some (.text length, rest) := by
  unfold textHead
  -- a short length is part of the first byte, a longer one stands in one, two or four bytes
  split
  · simp only [List.singleton_append, readHead, Text.toNat_toUInt8 (n := 0xA0 + length) (by omega)]
    rw [if_neg (by omega), if_neg (by omega), if_neg (by omega), if_pos (by omega),
      Nat.add_sub_cancel_left]
  split
  · exact readHead_counted (fun bs => by simp [readHead]) (by omega) rest
  split
  · exact readHead_counted (fun bs => by simp [readHead]) (by omega) rest
  · exact readHead_counted (fun bs => by simp [readHead]) (by omega) rest

theorem readHead_listHead {length : Nat} (h : length < 2 ^ 32) (rest : List UInt8) :
    readHead (listHead length ++ rest) = some (.list length, rest) := by
  unfold listHead
  -- lists and maps have no head with a length of one byte
  split
  · simp only [List.singleton_append, readHead, Text.toNat_toUInt8 (n := 0x90 + length) (by omega)]
    rw [if_neg (by omega), if_neg (by omega), if_pos (by omega), Nat.add_sub_cancel_left]
  split
  · exact readHead_counted (fun bs => by simp [readHead]) (by omega) rest
  · exact readHead_counted (fun bs => by simp [readHead]) (by omega) rest

theorem readHead_mapHead {length : Nat} (h : length < 2 ^ 32) (rest : List UInt8) :
    readHead (mapHead length ++ rest) = some (.map length, rest) := by
  unfold mapHead
  split
  · simp only [List.singleton_append, readHead, Text.toNat_toUInt8 (n := 0x80 + length) (by omega)]
    rw [if_neg (by omega), if_pos (by omega), Nat.add_sub_cancel_left]
  split
  · exact readHead_counted (fun bs => by simp [readHead]) (by omega) rest
  · exact readHead_counted (fun bs => by simp [readHead]) (by omega) rest

/-- A number below `256`. -/
theorem readHead_writeByte (n : UInt8) (rest : List UInt8) :
    readHead (writeByte n ++ rest) = some (.natural n.toNat, rest) := by
  unfold writeByte
  split
  · rename_i hshort
    have hn : n.toNat < 0x80 := hshort
    rw [List.singleton_append, readHead, if_pos hn]
  · have hbytes : bigEndian 1 n.toNat = [n] := by simp [bigEndian]
    have h : readHead (0xCC :: bigEndian 1 n.toNat ++ rest) = some (.natural n.toNat, rest) :=
      readHead_counted (fun bs => by simp [readHead]) n.toNat_lt rest
    rwa [hbytes] at h

end BannerMatch.MessagePack
