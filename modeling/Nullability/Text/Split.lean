/-!
# Splitting and joining texts

A text is cut at every occurrence of a separator, so that joining the parts again gives the text.
-/

namespace Nullability.Text

/-- The parts of a list of characters between occurrences of a separator; there is at least one. -/
def splitChars (separator : Char) : List Char → List (List Char)
  | [] => [[]]
  | c :: rest =>
    match splitChars separator rest with
    | [] => [[c]]
    | part :: parts => if c = separator then [] :: part :: parts else (c :: part) :: parts

/-- Parts with a separator between them. -/
def joinChars (separator : Char) : List (List Char) → List Char
  | [] => []
  | [part] => part
  | part :: parts => part ++ separator :: joinChars separator parts

/-- The parts of a text between occurrences of a separator. -/
def split (separator : Char) (s : String) : List String :=
  (splitChars separator s.toList).map String.ofList

/-- Texts with a separator between them. -/
def join (separator : Char) (parts : List String) : String :=
  String.ofList (joinChars separator (parts.map String.toList))

theorem joinChars_splitChars (separator : Char) (cs : List Char) :
    joinChars separator (splitChars separator cs) = cs := by
  induction cs with
  | nil => rfl
  | cons c rest ih =>
    rw [splitChars]
    split
    · rename_i h
      rw [h] at ih
      simp only [joinChars] at ih ⊢
      rw [ih]
    · rename_i part parts h
      rw [h] at ih
      by_cases hc : c = separator
      · rw [if_pos hc, joinChars, ih, hc]
        · rfl
        · simp
      · rw [if_neg hc]
        cases parts with
        | nil => simpa [joinChars] using ih
        | cons next more => simpa [joinChars] using ih

/-- There is at least one part. -/
theorem exists_splitChars (separator : Char) (cs : List Char) :
    ∃ part parts, splitChars separator cs = part :: parts := by
  cases cs with
  | nil => exact ⟨[], [], rfl⟩
  | cons c rest =>
    rw [splitChars]
    split
    · exact ⟨[c], [], rfl⟩
    · split
      · exact ⟨[], _, rfl⟩
      · exact ⟨_, _, rfl⟩

/-- A separator ends a part. -/
theorem splitChars_separator (separator : Char) (rest : List Char) :
    splitChars separator (separator :: rest) = [] :: splitChars separator rest := by
  obtain ⟨part, parts, h⟩ := exists_splitChars separator rest
  simp [splitChars, h]

/-- Any other character belongs to the first part. -/
theorem splitChars_of_ne {separator c : Char} {rest part : List Char} {parts : List (List Char)}
    (hc : c ≠ separator) (h : splitChars separator rest = part :: parts) :
    splitChars separator (c :: rest) = (c :: part) :: parts := by
  simp [splitChars, h, hc]

/-- The parts on both sides of a separator are found apart from each other. -/
theorem splitChars_append (separator : Char) (before after : List Char) :
    splitChars separator (before ++ separator :: after) =
      splitChars separator before ++ splitChars separator after := by
  induction before with
  | nil => exact splitChars_separator separator after
  | cons c rest ih =>
    by_cases hc : c = separator
    · rw [hc, List.cons_append, splitChars_separator, splitChars_separator, ih, List.cons_append]
    · obtain ⟨part, parts, h⟩ := exists_splitChars separator rest
      rw [h, List.cons_append] at ih
      rw [List.cons_append, splitChars_of_ne hc ih, splitChars_of_ne hc h, List.cons_append]

/-- A text without the separator is a part by itself. -/
theorem splitChars_of_not_mem {separator : Char} {cs : List Char} (h : separator ∉ cs) :
    splitChars separator cs = [cs] := by
  induction cs with
  | nil => rfl
  | cons c rest ih =>
    rw [List.mem_cons, not_or] at h
    exact splitChars_of_ne (fun e => h.1 e.symm) (ih h.2)

/-- No part contains the separator. -/
theorem not_mem_of_mem_splitChars {separator : Char} {cs part : List Char}
    (h : part ∈ splitChars separator cs) : separator ∉ part := by
  induction cs generalizing part with
  | nil =>
    rw [splitChars, List.mem_singleton] at h
    rw [h]
    exact List.not_mem_nil
  | cons c rest ih =>
    obtain ⟨first, parts, hrest⟩ := exists_splitChars separator rest
    by_cases hc : c = separator
    · rw [hc, splitChars_separator, List.mem_cons] at h
      cases h with
      | inl h => rw [h]; exact List.not_mem_nil
      | inr h => exact ih h
    · rw [splitChars_of_ne hc hrest, List.mem_cons] at h
      cases h with
      | inl h =>
        have hfirst : separator ∉ first := ih (by rw [hrest]; exact List.mem_cons_self)
        rw [h, List.mem_cons, not_or]
        exact ⟨fun e => hc e.symm, hfirst⟩
      | inr h => exact ih (by rw [hrest]; exact List.mem_cons_of_mem _ h)

/-- Parts without the separator are found again where they were joined. -/
theorem splitChars_joinChars {separator : Char} {parts : List (List Char)} (hne : parts ≠ [])
    (h : ∀ part ∈ parts, separator ∉ part) :
    splitChars separator (joinChars separator parts) = parts := by
  induction parts with
  | nil => exact absurd rfl hne
  | cons part rest ih =>
    have hpart : separator ∉ part := h part List.mem_cons_self
    cases rest with
    | nil => exact splitChars_of_not_mem hpart
    | cons next more =>
      have hrest := ih (List.cons_ne_nil next more) (fun p hp => h p (List.mem_cons_of_mem part hp))
      rw [joinChars, splitChars_append, splitChars_of_not_mem hpart, hrest, List.singleton_append]
      intro e
      cases e

/-- The parts of a text are joined to the text. -/
theorem join_split (separator : Char) (s : String) : join separator (split separator s) = s := by
  have hparts : (split separator s).map String.toList = splitChars separator s.toList := by
    simp [split, Function.comp_def]
  rw [join, hparts, joinChars_splitChars, String.ofList_toList]

/-- The parts on both sides of a separator are found apart from each other. -/
theorem split_append (separator : Char) (before after : String) :
    split separator (before ++ String.singleton separator ++ after) =
      split separator before ++ split separator after := by
  simp only [split, String.toList_append, String.toList_singleton, List.append_assoc,
    List.singleton_append, splitChars_append, List.map_append]

/-- No part contains the separator. -/
theorem not_mem_of_mem_split {separator : Char} {s part : String} (h : part ∈ split separator s) :
    separator ∉ part.toList := by
  rw [split, List.mem_map] at h
  obtain ⟨cs, hcs, rfl⟩ := h
  rw [String.toList_ofList]
  exact not_mem_of_mem_splitChars hcs

/-- Parts without the separator are found again where they were joined. -/
theorem split_join {separator : Char} {parts : List String} (hne : parts ≠ [])
    (h : ∀ part ∈ parts, separator ∉ part.toList) :
    split separator (join separator parts) = parts := by
  have hparts : splitChars separator (joinChars separator (parts.map String.toList)) =
      parts.map String.toList := by
    apply splitChars_joinChars
    · simpa using hne
    · intro cs hcs
      obtain ⟨part, hpart, rfl⟩ := List.mem_map.1 hcs
      exact h part hpart
  rw [split, join, String.toList_ofList, hparts, List.map_map]
  simp [Function.comp_def]

end Nullability.Text
