/-!
# Sorting

Lists are sorted by inserting their items one by one, the last one first. Items of which neither
comes before the other stay in their order.
-/

namespace Nullability

universe u

variable {α : Type u}

/-- Puts an item in front of the first one that it comes no later than. -/
def insertBy (le : α → α → Bool) (a : α) : List α → List α
  | [] => [a]
  | b :: rest => if le a b then a :: b :: rest else b :: insertBy le a rest

/-- The items of a list in order. -/
def sortBy (le : α → α → Bool) (items : List α) : List α :=
  items.foldr (insertBy le) []

theorem mem_insertBy {le : α → α → Bool} {a b : α} {items : List α} :
    b ∈ insertBy le a items ↔ b = a ∨ b ∈ items := by
  induction items with
  | nil => simp [insertBy]
  | cons c rest ih =>
    rw [insertBy]
    split
    · simp
    · simp only [List.mem_cons, ih]
      exact or_left_comm

theorem mem_sortBy {le : α → α → Bool} {a : α} {items : List α} :
    a ∈ sortBy le items ↔ a ∈ items := by
  induction items with
  | nil => simp [sortBy]
  | cons b rest ih =>
    change a ∈ insertBy le b (sortBy le rest) ↔ _
    rw [mem_insertBy, ih, List.mem_cons]

section Order

variable {le : α → α → Bool} (trans : ∀ a b c, le a b → le b c → le a c)
  (total : ∀ a b, le a b || le b a)

include trans

/-- Items can be left out before or after one is inserted. -/
theorem filter_insertBy {p : α → Bool} {a : α} {items : List α}
    (h : items.Pairwise (fun a b => le a b)) :
    (insertBy le a items).filter p =
      if p a then insertBy le a (items.filter p) else items.filter p := by
  induction items with
  | nil => by_cases hp : p a <;> simp [insertBy, hp]
  | cons b rest ih =>
    obtain ⟨hb, hrest⟩ := List.pairwise_cons.1 h
    rw [insertBy]
    by_cases hab : le a b = true
    · have hfront : insertBy le a ((b :: rest).filter p) = a :: (b :: rest).filter p := by
        cases hfilter : (b :: rest).filter p with
        | nil => rfl
        | cons c more =>
          have hc : c ∈ b :: rest := (List.mem_filter.1 (hfilter ▸ List.mem_cons_self)).1
          have hac : le a c = true := by
            cases List.mem_cons.1 hc with
            | inl hc => exact hc ▸ hab
            | inr hc => exact trans a b c hab (hb c hc)
          rw [insertBy, if_pos hac]
      rw [if_pos hab, hfront, List.filter_cons]
    · rw [if_neg hab]
      by_cases hp : p b = true
      · rw [List.filter_cons_of_pos hp, List.filter_cons_of_pos hp, ih hrest, insertBy, if_neg hab]
        split <;> rfl
      · rw [List.filter_cons_of_neg hp, List.filter_cons_of_neg hp, ih hrest]

include total

theorem pairwise_insertBy {a : α} {items : List α} (h : items.Pairwise (fun a b => le a b)) :
    (insertBy le a items).Pairwise (fun a b => le a b) := by
  induction items with
  | nil => simp [insertBy]
  | cons b rest ih =>
    obtain ⟨hb, hrest⟩ := List.pairwise_cons.1 h
    rw [insertBy]
    split
    · rename_i hab
      refine List.pairwise_cons.2 ⟨?_, h⟩
      intro c hc
      cases List.mem_cons.1 hc with
      | inl hc => exact hc ▸ hab
      | inr hc => exact trans a b c hab (hb c hc)
    · rename_i hab
      refine List.pairwise_cons.2 ⟨?_, ih hrest⟩
      intro c hc
      cases mem_insertBy.1 hc with
      | inl hc =>
        have hba := total a b
        rw [Bool.or_eq_true] at hba
        exact hc ▸ hba.resolve_left hab
      | inr hc => exact hb c hc

theorem pairwise_sortBy (items : List α) : (sortBy le items).Pairwise (fun a b => le a b) := by
  induction items with
  | nil => exact List.Pairwise.nil
  | cons a rest ih => exact pairwise_insertBy trans total ih

/-- Items can be left out before or after sorting. -/
theorem filter_sortBy (p : α → Bool) (items : List α) :
    (sortBy le items).filter p = sortBy le (items.filter p) := by
  induction items with
  | nil => rfl
  | cons a rest ih =>
    change (insertBy le a (sortBy le rest)).filter p = _
    rw [filter_insertBy trans (pairwise_sortBy trans total rest), ih, List.filter_cons]
    split <;> rfl

end Order

end Nullability
