import Mathlib.Data.List.Forall2
import Mathlib.Data.Nat.Digits.Lemmas
import Nullability.Text.Digits

/-!
# Numerals

The runs of ten decimal digits do not overlap, so a character has at most one value
(`decimalValue?_eq_some`). A numeral is a run of decimal digits of any scripts, leading zeros
included, and it writes the number that has their values in positions of ten (`isNumeral_iff`). The
numbers that are written here, in ASCII digits and without leading zeros, are numerals of themselves
(`isNumeral_toString`).
-/

namespace Nullability.Text

variable {c : Char} {cs : List Char} {s : String} {value n : Nat} {values : List Nat}

/-- Whether a character is a decimal digit of some script, with a value. -/
def IsDigit (c : Char) (value : Nat) : Prop :=
  ∃ first ∈ decimalZeros, c.toNat = first + value ∧ value < 10

/-- Whether a text is a run of decimal digits that write a number, the highest position first. -/
def IsNumeral (s : String) (n : Nat) : Prop :=
  ∃ values : List Nat, values ≠ [] ∧ List.Forall₂ IsDigit s.toList values ∧
    n = Nat.ofDigits 10 values.reverse

/-! ## Digits -/

/-- The digits of two scripts are apart. -/
lemma apart_of_mem_decimalZeros {a b : Nat} (ha : a ∈ decimalZeros) (hb : b ∈ decimalZeros) :
    a = b ∨ a + 10 ≤ b ∨ b + 10 ≤ a := by
  have hall : ∀ a ∈ decimalZeros, ∀ b ∈ decimalZeros, a = b ∨ a + 10 ≤ b ∨ b + 10 ≤ a := by
    decide +kernel
  exact hall a ha b hb

lemma decimalValue?_eq_some : decimalValue? c = some value ↔ IsDigit c value := by
  rw [decimalValue?, Option.map_eq_some_iff]
  constructor
  · rintro ⟨first, hfind, rfl⟩
    have hrange := List.find?_some hfind
    rw [Bool.and_eq_true, decide_eq_true_iff, decide_eq_true_iff] at hrange
    exact ⟨first, List.mem_of_find?_eq_some hfind, by omega, by omega⟩
  · rintro ⟨first, hfirst, hc, hvalue⟩
    have hsome : (decimalZeros.find?
        (fun first => first ≤ c.toNat && c.toNat < first + 10)).isSome = true := by
      rw [List.find?_isSome]
      refine ⟨first, hfirst, ?_⟩
      rw [Bool.and_eq_true, decide_eq_true_iff, decide_eq_true_iff]
      omega
    obtain ⟨found, hfind⟩ := Option.isSome_iff_exists.1 hsome
    have hrange := List.find?_some hfind
    rw [Bool.and_eq_true, decide_eq_true_iff, decide_eq_true_iff] at hrange
    -- Runs are apart, so that the one that is found is the one that was there.
    have hapart := apart_of_mem_decimalZeros (List.mem_of_find?_eq_some hfind) hfirst
    exact ⟨found, hfind, by omega⟩

lemma isDecimal_iff : isDecimal c = true ↔ ∃ value, IsDigit c value := by
  simp only [isDecimal, Option.isSome_iff_exists, decimalValue?_eq_some]

/-- A digit has the value that its number is made with. -/
lemma isDigit_getD (h : isDecimal c = true) : IsDigit c ((decimalValue? c).getD 0) := by
  obtain ⟨value, hvalue⟩ := isDecimal_iff.1 h
  rwa [decimalValue?_eq_some.2 hvalue]

/-- The ASCII digits follow their zero. -/
lemma isDigit_of_ascii (h : c.isDigit = true) : IsDigit c (c.toNat - '0'.toNat) := by
  rw [Char.isDigit_iff_toNat] at h
  have hzero : '0'.toNat = 0x30 := rfl
  have hnine : '9'.toNat = 0x39 := rfl
  exact ⟨0x30, List.mem_cons_self, by omega, by omega⟩

/-! ## Numerals -/

/-- The number of a run of digits has their values in positions of ten. -/
lemma decimalNumber_eq_ofDigits (h : List.Forall₂ IsDigit cs values) :
    decimalNumber cs = Nat.ofDigits 10 values.reverse := by
  have hfold : ∀ start : Nat, cs.foldl (fun n c => 10 * n + (decimalValue? c).getD 0) start =
      values.foldl (fun n value => value + 10 * n) start := by
    induction h with
    | nil => exact fun _ => rfl
    | @cons c value cs values hc _ ih =>
      intro start
      rw [List.foldl_cons, List.foldl_cons, decimalValue?_eq_some.2 hc, Option.getD_some,
        Nat.add_comm, ih]
  rw [decimalNumber, hfold, Nat.ofDigits_eq_foldr, List.foldr_reverse]
  rfl

/-- Numerals are the texts of at least one character that consist of digits. -/
lemma isNumeral_iff : IsNumeral s n ↔ s.toList ≠ [] ∧ (∀ c ∈ s.toList, isDecimal c = true) ∧
    decimalNumber s.toList = n := by
  constructor
  · rintro ⟨values, hne, hdigits, rfl⟩
    refine ⟨?_, ?_, decimalNumber_eq_ofDigits hdigits⟩
    · intro hnil
      rw [hnil, List.forall₂_nil_left_iff] at hdigits
      exact hne hdigits
    · have hboth := hdigits.imp (fun c value hc => And.intro (isDecimal_iff.2 ⟨value, hc⟩) hc)
      exact ((List.forall₂_and_left _ _).1 hboth).1
  · rintro ⟨hne, hdigits, rfl⟩
    have hvalues : List.Forall₂ IsDigit s.toList
        (s.toList.map (fun c => (decimalValue? c).getD 0)) := by
      rw [List.forall₂_map_right_iff, List.forall₂_same]
      exact fun c hc => isDigit_getD (hdigits c hc)
    refine ⟨_, ?_, hvalues, decimalNumber_eq_ofDigits hvalues⟩
    exact mt List.map_eq_nil_iff.1 hne

lemma IsNumeral.not_mem (h : IsNumeral s n) (hc : isDecimal c = false) : c ∉ s.toList := by
  intro hmem
  rw [(isNumeral_iff.1 h).2.1 c hmem] at hc
  cases hc

/-- In ASCII digits a number is read as usual. -/
lemma decimalNumber_of_ascii (h : ∀ c ∈ cs, c.isDigit = true) :
    decimalNumber cs = Nat.ofDigitChars 10 cs 0 := by
  rw [decimalNumber, Nat.ofDigitChars_eq_foldl]
  refine List.foldl_ext _ _ 0 fun n c hc => ?_
  rw [decimalValue?_eq_some.2 (isDigit_of_ascii (h c hc)), Option.getD_some]

lemma isNumeral_toString (n : Nat) : IsNumeral (toString n) n := by
  rw [Nat.toString_eq_repr, isNumeral_iff, Nat.toList_repr]
  have hascii : ∀ c ∈ Nat.toDigits 10 n, c.isDigit = true :=
    fun c hc => Nat.isDigit_of_mem_toDigits (by decide) (by decide) hc
  refine ⟨Nat.toDigits_ne_nil, ?_, ?_⟩
  · exact fun c hc => isDecimal_iff.2 ⟨_, isDigit_of_ascii (hascii c hc)⟩
  · rw [decimalNumber_of_ascii hascii, Nat.ofDigitChars_ten_toDigits]

/-- A number is written in as many characters as it has digits, and zero in one. -/
lemma length_toString_le_iff {k : Nat} (hk : 0 < k) :
    (toString n).length ≤ k ↔ (Nat.digits 10 n).length ≤ k := by
  rw [Nat.toString_eq_repr, Nat.length_repr_le_iff hk, Nat.digits_length_le_iff (by decide)]

end Nullability.Text
