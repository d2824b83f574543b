import Nullability.Proofs.Cache.Format.Grammar

/-!
# What messages start with

Bytes start with a piece of the format, with the head of a list or with that of a map, or they are
refused at once, whatever may be opened (`Format.opening_or_refused`). Most first bytes are marks
behind which a number of bytes has to come before anything else.
-/

namespace Nullability.Cache.Message.Format

variable {n : Nat} {head : List UInt8}

/-- What some bytes start with, if it is in the format. -/
inductive Opening : List UInt8 → Prop where
  | piece {bytes : List UInt8} {v : Message} (h : Piece bytes v) (rest : List UInt8) :
    Opening (bytes ++ rest)
  | list {head : List UInt8} {n : Nat} (h : ListHead head n) (rest : List UInt8) :
    Opening (head ++ rest)
  | map {head : List UInt8} {n : Nat} (h : MapHead head n) (rest : List UInt8) :
    Opening (head ++ rest)

/-- Bytes that are refused at once, whatever may be opened. -/
def Refused (input : List UInt8) : Prop :=
  ∀ size fuel depth, takeValue size fuel depth input = .error .malformed

lemma refused_of_succ {input : List UInt8}
    (h : ∀ size fuel depth, takeValue size (fuel + 1) depth input = .error .malformed) : Refused input := by
  intro size fuel depth
  cases fuel with
  | zero => rw [takeValue]
  | succ fuel => exact h size fuel depth

lemma exists_taken (count : Nat) (input : List UInt8) :
    (∃ taken rest, taken.length = count ∧ input = taken ++ rest) ∨
      take? count input = .error .malformed := by
  by_cases h : (input.take count).length < count
  · right
    rw [take?]
    exact if_pos h
  · left
    refine ⟨input.take count, input.drop count, ?_, (List.take_append_drop count input).symm⟩
    rw [List.length_take] at h ⊢
    omega

lemma opening_of_textHead (h : TextHead head n) (rest : List UInt8) :
    Opening (head ++ rest) ∨ Refused (head ++ rest) := by
  rcases exists_taken n rest with ⟨content, more, rfl, rfl⟩ | hfew
  · cases hs : Text.ofUtf8? content with
    | some s =>
      rw [← List.append_assoc]
      exact .inl (.piece (.text h hs) more)
    | none =>
      refine .inr (refused_of_succ fun size fuel depth => ?_)
      rw [takeValue_textHead h, takeText, take?_append rfl]
      simp [bind, Except.bind, hs]
  · refine .inr (refused_of_succ fun size fuel depth => ?_)
    rw [takeValue_textHead h, takeText, hfew]
    rfl

lemma opening_of_bytesHead (h : Sized bytesMarks head n) (rest : List UInt8) :
    Opening (head ++ rest) ∨ Refused (head ++ rest) := by
  rcases exists_taken n rest with ⟨content, more, rfl, rfl⟩ | hfew
  · rw [← List.append_assoc]
    exact .inl (.piece (.bytes h) more)
  · refine .inr (refused_of_succ fun size fuel depth => ?_)
    rw [takeValue_bytesHead h, takeBytes, hfew]
    rfl

lemma opening_of_extensionHead (h : ExtensionHead head n) (rest : List UInt8) :
    Opening (head ++ rest) ∨ Refused (head ++ rest) := by
  cases rest with
  | nil =>
    refine .inr (refused_of_succ fun size fuel depth => ?_)
    rw [takeValue_extensionHead h]
    rfl
  | cons type rest =>
    rcases exists_taken n rest with ⟨content, more, rfl, rfl⟩ | hfew
    · by_cases htype : signed 1 type.toNat = -1
      · cases hv : timestampOf content with
        | ok v =>
          have hopening := Opening.piece (.timestamp h htype hv) more
          rw [List.append_assoc] at hopening
          exact .inl hopening
        | error fault =>
          obtain rfl : fault = .malformed := malformed_of_timestampOf hv
          refine .inr (refused_of_succ fun size fuel depth => ?_)
          rw [takeValue_extensionHead h]
          exact (takeExtension_append type content more).trans (by rw [if_pos htype, hv]; rfl)
      · by_cases hbelow : signed 1 type.toNat < 0
        · refine .inr (refused_of_succ fun size fuel depth => ?_)
          rw [takeValue_extensionHead h]
          exact (takeExtension_append type content more).trans (by rw [if_neg htype, if_pos hbelow])
        · have hopening := Opening.piece (.extension h (Int.not_lt.1 hbelow)) more
          rw [List.append_assoc] at hopening
          exact .inl hopening
    · refine .inr (refused_of_succ fun size fuel depth => ?_)
      rw [takeValue_extensionHead h, takeExtension, takeNat_one]
      change (take? n rest >>= _) = _
      rw [hfew]
      rfl

/-- The marks behind which some bytes have to come before anything else. -/
def countedMarks : List (UInt8 × Nat) :=
  textMarks ++ bytesMarks ++ listMarks ++ mapMarks ++ extensionMarks ++ naturalMarks ++
    integerMarks ++ [(0xca, 4), (0xcb, 8)]

lemma counted_or_refused {mark : UInt8} {count : Nat} (h : (mark, count) ∈ countedMarks)
    (input : List UInt8) :
    (∃ digits rest, digits.length = count ∧ input = digits ++ rest) ∨ Refused (mark :: input) := by
  rcases exists_taken count input with hdigits | hfew
  · exact .inl hdigits
  · have htake : takeNat count input = .error .malformed := by
      rw [takeNat, hfew]
      rfl
    refine .inr (refused_of_succ fun size fuel depth => ?_)
    fin_cases h
    all_goals simp [takeValue, takeInt, htake, bind, Except.bind]

lemma mark_cases {m : Nat} (hleast : 0xc0 ≤ m) (hmost : m < 0xe0) :
    UInt8.ofNat m ∈ [0xc0, 0xc1, 0xc2, 0xc3] ∨ UInt8.ofNat m ∈ fixedMarks.map Prod.fst ∨
      UInt8.ofNat m ∈ countedMarks.map Prod.fst := by
  interval_cases m <;> decide

lemma opening_of_counted {mark : UInt8} {count : Nat} (h : (mark, count) ∈ countedMarks)
    (input : List UInt8) : Opening (mark :: input) ∨ Refused (mark :: input) := by
  rcases counted_or_refused h input with ⟨digits, rest, rfl, rfl⟩ | hrefused
  · simp only [countedMarks, List.mem_append] at h
    rcases h with ((((((h | h) | h) | h) | h) | h) | h) | h
    · exact opening_of_textHead (.sized (.mark h)) rest
    · exact opening_of_bytesHead (.mark h) rest
    · exact .inl (.list (.sized (.mark h)) rest)
    · exact .inl (.map (.sized (.mark h)) rest)
    · exact opening_of_extensionHead (.sized (.mark h)) rest
    · exact .inl (.piece (.natural h) rest)
    · exact .inl (.piece (.integer h) rest)
    · simp only [List.mem_cons, Prod.mk.injEq, List.not_mem_nil, or_false] at h
      rcases h with ⟨rfl, h⟩ | ⟨rfl, h⟩
      · exact .inl (.piece (.single h) rest)
      · exact .inl (.piece (.double h) rest)
  · exact .inr hrefused

/-- Bytes start with something that is in the format, or they are refused. -/
lemma opening_or_refused (input : List UInt8) : Opening input ∨ Refused input := by
  cases input with
  | nil => exact .inr (refused_of_succ fun size fuel depth => by simp [takeValue])
  | cons mark rest =>
    have hmark : UInt8.ofNat mark.toNat = mark := UInt8.ofNat_toNat
    have hlimit : mark.toNat < 256 := mark.toNat_lt
    generalize mark.toNat = m at hmark hlimit
    subst hmark
    rcases Nat.lt_or_ge m 0x80 with hm | h80
    · exact .inl (.piece (.small hm) rest)
    rcases Nat.lt_or_ge m 0x90 with hm | h90
    · obtain ⟨n, rfl⟩ := Nat.exists_eq_add_of_le h80
      exact .inl (.map (.short (by omega)) rest)
    rcases Nat.lt_or_ge m 0xa0 with hm | ha0
    · obtain ⟨n, rfl⟩ := Nat.exists_eq_add_of_le h90
      exact .inl (.list (.short (by omega)) rest)
    rcases Nat.lt_or_ge m 0xc0 with hm | hc0
    · obtain ⟨n, rfl⟩ := Nat.exists_eq_add_of_le ha0
      exact opening_of_textHead (.short (by omega)) rest
    rcases Nat.lt_or_ge m 0xe0 with hm | he0
    · rcases mark_cases hc0 hm with hplain | hfixed | hcounted
      · simp only [List.mem_cons, List.not_mem_nil, or_false] at hplain
        rcases hplain with hplain | hplain | hplain | hplain
        · rw [hplain]
          exact .inl (.piece .nil rest)
        · rw [hplain]
          exact .inr (refused_of_succ fun size fuel depth => by simp [takeValue])
        · rw [hplain]
          exact .inl (.piece (.bool false) rest)
        · rw [hplain]
          exact .inl (.piece (.bool true) rest)
      · obtain ⟨⟨_, n⟩, hmem, rfl⟩ := List.mem_map.1 hfixed
        exact opening_of_extensionHead (.fixed hmem) rest
      · obtain ⟨⟨_, count⟩, hmem, hfirst⟩ := List.mem_map.1 hcounted
        rw [← hfirst]
        exact opening_of_counted hmem rest
    · obtain ⟨n, rfl⟩ := Nat.exists_eq_add_of_le he0
      exact .inl (.piece (.negative (by omega)) rest)

end Nullability.Cache.Message.Format
