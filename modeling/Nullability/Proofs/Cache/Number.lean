import Mathlib.Tactic
import Nullability.Cache.Message.Reader

/-!
# Numbers as bytes

Both orders of the bytes of a number: writing a number that fits and reading it again gives the
number. The low byte first is the order of the header of a cache file, the high byte first that of
messages.
-/

namespace Nullability.Cache

@[simp]
lemma length_littleEndian (count n : Nat) : (littleEndian count n).length = count := by
  induction count generalizing n with
  | zero => rfl
  | succ count ih => rw [littleEndian, List.length_cons, ih]

/-- What reading finds of a number is what fits into the bytes. -/
lemma ofLittleEndian_littleEndian (count n : Nat) :
    ofLittleEndian (littleEndian count n) = n % 256 ^ count := by
  induction count generalizing n with
  | zero => rw [littleEndian, ofLittleEndian, Nat.pow_zero, Nat.mod_one]
  | succ count ih =>
    have hlow : n % 2 ^ 8 = n % 256 := rfl
    rw [littleEndian, ofLittleEndian, ih, UInt8.toNat_ofNat', hlow, pow_succ', Nat.mod_mul]

lemma ofLittleEndian_littleEndian_of_lt {count n : Nat} (h : n < 256 ^ count) :
    ofLittleEndian (littleEndian count n) = n := by
  rw [ofLittleEndian_littleEndian, Nat.mod_eq_of_lt h]

lemma ofLittleEndian_lt (bytes : List UInt8) : ofLittleEndian bytes < 256 ^ bytes.length := by
  induction bytes with
  | nil => exact Nat.zero_lt_one
  | cons b rest ih =>
    have hb : b.toNat < 256 := b.toNat_lt
    rw [ofLittleEndian, List.length_cons, pow_succ]
    omega

/-- Some bytes are those of the number that they stand for. -/
lemma littleEndian_ofLittleEndian {count : Nat} {bytes : List UInt8} (h : bytes.length = count) :
    littleEndian count (ofLittleEndian bytes) = bytes := by
  subst h
  induction bytes with
  | nil => rfl
  | cons b rest ih =>
    have hb : b.toNat < 256 := b.toNat_lt
    have hlow : UInt8.ofNat (b.toNat + 256 * ofLittleEndian rest) = b := by
      apply UInt8.toNat_inj.1
      rw [UInt8.toNat_ofNat']
      omega
    have hhigh : (b.toNat + 256 * ofLittleEndian rest) / 256 = ofLittleEndian rest := by omega
    rw [ofLittleEndian, List.length_cons, littleEndian, hlow, hhigh, ih]

namespace Message

@[simp]
lemma length_bigEndian (count n : Nat) : (bigEndian count n).length = count := by
  rw [bigEndian, List.length_reverse, length_littleEndian]

/-- The two orders read the same number from bytes and from their reverse. -/
lemma ofBigEndian_reverse (bytes : List UInt8) :
    ofBigEndian bytes.reverse = ofLittleEndian bytes := by
  rw [ofBigEndian, List.foldl_reverse]
  induction bytes with
  | nil => rfl
  | cons b rest ih => rw [List.foldr_cons, ih, ofLittleEndian, Nat.add_comm]

lemma ofBigEndian_bigEndian {count n : Nat} (h : n < 256 ^ count) :
    ofBigEndian (bigEndian count n) = n := by
  rw [bigEndian, ofBigEndian_reverse, ofLittleEndian_littleEndian_of_lt h]

/-! ## Taking bytes -/

lemma take?_append {bytes : List UInt8} {count : Nat} (h : bytes.length = count)
    (rest : List UInt8) : take? count (bytes ++ rest) = .ok (bytes, rest) := by
  subst h
  simp [take?]

lemma takeNat_append (count : Nat) {n : Nat} (h : n < 256 ^ count) (rest : List UInt8) :
    takeNat count (bigEndian count n ++ rest) = .ok (n, rest) := by
  rw [takeNat, take?_append (length_bigEndian count n)]
  show Except.ok (ofBigEndian (bigEndian count n), rest) = _
  rw [ofBigEndian_bigEndian h]

/-- What comes after a number is done with the number that was written. -/
lemma takeNat_append_bind {β : Type} (count : Nat) {n : Nat} (h : n < 256 ^ count) (rest : List UInt8)
    (next : Nat × List UInt8 → Except ReadFault β) :
    (takeNat count (bigEndian count n ++ rest) >>= next) = next (n, rest) := by
  rw [takeNat_append count h]
  rfl

/-- A negative integer is written as what it lacks to the next power of 256. -/
lemma takeInt_append (count : Nat) {m : Nat} {n : Int} (hfits : m < 256 ^ count)
    (hsign : twoTo (8 * count - 1) ≤ m) (hn : (m : Int) = n + twoTo (8 * count))
    (rest : List UInt8) : takeInt count (bigEndian count m ++ rest) = .ok (.int n, rest) := by
  have hsigned : signed count m = n := by
    rw [signed, if_neg (Nat.not_lt.2 hsign), hn]
    exact add_sub_cancel_right n _
  rw [takeInt, takeNat_append count hfits]
  show Except.ok (Message.int (signed count m), rest) = _
  rw [hsigned]

end Message

end Nullability.Cache
