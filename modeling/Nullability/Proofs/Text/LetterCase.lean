import Mathlib
import Nullability.Text.LetterCase

/-!
# Small letters

No letter outside ASCII has a plain ASCII letter as its small letter, but for the Kelvin sign, which
has a k. So a text whose small letters are plain is made of plain letters, and it is the same text
if it consists of small letters already.
-/

namespace Nullability.Text

/-- Whether a character is in ASCII and the small letter of no character that is not. -/
def IsPlain (d : Char) : Prop :=
  0 < d.toNat ∧ d.toNat < 128 ∧ d ≠ 'k'

instance (d : Char) : Decidable (IsPlain d) :=
  inferInstanceAs (Decidable (0 < d.toNat ∧ d.toNat < 128 ∧ d ≠ 'k'))

/-- The small letters of capitals outside ASCII are not in ASCII either, but for one. -/
lemma small_of_mem_capitalRanges {range : Nat × Nat × Nat × Int} (h : range ∈ capitalRanges) :
    128 ≤ range.1 + range.2.2.2 ∨ range.1 = range.2.1 ∧ range.1 + range.2.2.2 = 107 := by
  have hall : ∀ range ∈ capitalRanges.toList,
      128 ≤ range.1 + range.2.2.2 ∨ range.1 = range.2.1 ∧ range.1 + range.2.2.2 = 107 := by
    decide +kernel
  exact hall range (Array.mem_toList_iff.2 h)

lemma toNat_ofNat_cases (n : Nat) : (Char.ofNat n).toNat = n ∨ (Char.ofNat n).toNat = 0 := by
  rw [Char.ofNat]
  split
  · exact .inl rfl
  · exact .inr rfl

/-- Where the small letters of a character come from. -/
lemma lowerChar_cases (c : Char) :
    (c.toNat < 128 ∧ lowerChar c = [c.toLower]) ∨ lowerChar c = ['i', '\u0307'] ∨
      (128 ≤ c.toNat ∧ lowerChar c = [c]) ∨
      ∃ d, lowerChar c = [d] ∧ (128 ≤ d.toNat ∨ d = 'k' ∨ d.toNat = 0) := by
  rw [lowerChar]
  split
  · rename_i hc
    exact .inl ⟨hc, rfl⟩
  · rename_i hc
    split
    · exact .inr (.inl rfl)
    · split
      · rename_i first last step distance hfind
        have hmem := Array.mem_of_find?_eq_some hfind
        have hrange := Array.find?_some hfind
        simp only [Bool.and_eq_true, decide_eq_true_eq] at hrange
        have hsmall := small_of_mem_capitalRanges hmem
        dsimp only at hsmall
        refine .inr (.inr (.inr ⟨_, rfl, ?_⟩))
        obtain hcode | hcode := toNat_ofNat_cases (c.toNat + distance).toNat
        · obtain hlarge | ⟨hone, hk⟩ := hsmall
          · left
            omega
          · right
            left
            rw [← Char.ofNat_toNat (Char.ofNat _), hcode]
            have hcodeK : (c.toNat + distance).toNat = 107 := by omega
            rw [hcodeK]
        · exact .inr (.inr hcode)
      · exact .inr (.inr (.inl ⟨not_lt.1 hc, rfl⟩))

lemma lowerChar_of_ascii {c : Char} (h : c.toNat < 128) : lowerChar c = [c.toLower] :=
  if_pos h

lemma ascii_of_toLower {c : Char} (h : c.toLower.toNat < 128) : c.toNat < 128 := by
  rw [Char.toLower] at h
  split at h
  · rename_i hcapital
    have hlast : c.toNat ≤ 'Z'.toNat := UInt32.le_iff_toNat_le.1 hcapital.2
    exact Nat.lt_of_le_of_lt hlast (by decide)
  · exact h

/-- A character is in ASCII if its small letters are plain. -/
lemma ascii_of_lowerChar {c : Char} (h : ∀ d ∈ lowerChar c, IsPlain d) : c.toNat < 128 := by
  obtain ⟨hc, -⟩ | hdotted | ⟨-, hsame⟩ | ⟨d, hd, hcases⟩ := lowerChar_cases c
  · exact hc
  · rw [hdotted] at h
    exact absurd (h '\u0307' (by simp)) (by decide)
  · exact (h c (by simp [hsame])).2.1
  · obtain ⟨hpos, hascii, hk⟩ := h d (by simp [hd])
    obtain hlarge | rfl | hzero := hcases
    · omega
    · exact absurd rfl hk
    · omega

lemma toLower_toLower {c : Char} (h : c.toNat < 128) : c.toLower.toLower = c.toLower := by
  have hall : ∀ n < 128, (Char.ofNat n).toLower.toLower = (Char.ofNat n).toLower := by
    decide +kernel
  have hc := hall c.toNat h
  rwa [Char.ofNat_toNat] at hc

/-- An ASCII character that is a small letter of some character is its own small letter. -/
lemma toLower_of_mem_lowerChar {c d : Char} (h : d ∈ lowerChar c) (hd : d.toNat < 128) :
    d.toLower = d := by
  obtain ⟨hc, hone⟩ | hdotted | ⟨hlarge, hsame⟩ | ⟨e, he, hcases⟩ := lowerChar_cases c
  · rw [hone, List.mem_singleton] at h
    rw [h, toLower_toLower hc]
  · rw [hdotted] at h
    simp only [List.mem_cons, List.not_mem_nil, or_false] at h
    obtain rfl | rfl := h
    · rfl
    · exact absurd hd (by decide)
  · rw [hsame, List.mem_singleton] at h
    rw [h] at hd
    omega
  · rw [he, List.mem_singleton] at h
    subst h
    obtain hlarge | rfl | hzero := hcases
    · omega
    · rfl
    · rw [← Char.ofNat_toNat d, hzero]
      rfl

/-- A text whose small letters are plain ones is made of plain letters. -/
lemma lower_eq_iff {s t : String} (ht : ∀ d ∈ t.toList, IsPlain d) :
    lower s = t ↔ s.toList.map Char.toLower = t.toList := by
  have hplain : (∀ c ∈ s.toList, c.toNat < 128) →
      s.toList.flatMap lowerChar = s.toList.map Char.toLower := by
    intro hascii
    rw [List.map_eq_flatMap]
    exact List.flatMap_congr fun c hc => lowerChar_of_ascii (hascii c hc)
  constructor
  · rintro rfl
    rw [lower, String.toList_ofList] at ht ⊢
    refine (hplain fun c hc => ascii_of_lowerChar fun d hd => ?_).symm
    exact ht d (List.mem_flatMap.2 ⟨c, hc, hd⟩)
  · intro h
    rw [lower, hplain, h, String.ofList_toList]
    intro c hc
    have hmem : c.toLower ∈ t.toList := by
      rw [← h]
      exact List.mem_map_of_mem hc
    exact ascii_of_toLower (ht _ hmem).2.1

/-- Whether all characters of a text are small letters of some characters. -/
def IsSmall (s : String) : Prop :=
  ∀ d ∈ s.toList, ∃ c, d ∈ lowerChar c

lemma isSmall_lower (s : String) : IsSmall (lower s) := by
  intro d hd
  rw [lower, String.toList_ofList] at hd
  obtain ⟨c, -, hc⟩ := List.mem_flatMap.1 hd
  exact ⟨c, hc⟩

/-- A text of small letters that agrees with a plain text up to letter case is that text. -/
lemma IsSmall.eq_of_lower_eq {s t : String} (hsmall : IsSmall s) (ht : ∀ d ∈ t.toList, IsPlain d)
    (h : lower s = t) : s = t := by
  have hmap := (lower_eq_iff ht).1 h
  have hsame : s.toList.map Char.toLower = s.toList.map id := by
    refine List.map_congr_left fun d hd => ?_
    obtain ⟨c, hc⟩ := hsmall d hd
    have hplain : IsPlain d.toLower := ht _ (hmap ▸ List.mem_map_of_mem hd)
    exact toLower_of_mem_lowerChar hc (ascii_of_toLower hplain.2.1)
  rw [hsame, List.map_id] at hmap
  exact String.toList_inj.1 hmap

end Nullability.Text
