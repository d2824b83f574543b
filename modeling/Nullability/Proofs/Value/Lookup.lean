import Nullability.Proofs.Value.Key

/-!
# Looking keys up

What is found in a list of pairs under a key. It depends on the class of the key only, and what is
stored under one key leaves what is found under another one.
-/

namespace Nullability.Value

section Pairs

variable {α : Type}

@[simp]
theorem lookup?_nil (key : Value) : lookup? key ([] : List (Value × α)) = none := rfl

theorem lookup?_cons (key k : Value) (a : α) (rest : List (Value × α)) :
    lookup? key ((k, a) :: rest) = if k.sameKey key then some a else lookup? key rest := by
  rw [lookup?, List.find?_cons]
  cases k.sameKey key <;> rfl

@[simp]
theorem lookup?_text_cons (name other : String) (a : α) (rest : List (Value × α)) :
    lookup? (.text name) ((.text other, a) :: rest) =
      if other = name then some a else lookup? (.text name) rest := by
  rw [lookup?_cons]
  simp only [sameKey_text_iff, text.injEq]

/-- Nothing is found under a text that is no key. -/
theorem lookup?_eq_none {name : String} {entries : List (Value × α)}
    (h : .text name ∉ entries.map Prod.fst) : lookup? (.text name) entries = none := by
  rw [lookup?, Option.map_eq_none_iff, List.find?_eq_none]
  intro entry hmem hsame
  exact h ((sameKey_text_iff _ _).1 hsame ▸ List.mem_map_of_mem hmem)

/-- The same is found under values that are the same key. -/
theorem lookup?_congr {key other : Value} (h : key.sameKey other = true)
    (entries : List (Value × α)) : lookup? key entries = lookup? other entries := by
  simp only [lookup?, sameKey_congr_right h]

theorem lookup?_eq_none_iff {key : Value} {entries : List (Value × α)} :
    lookup? key entries = none ↔ ∀ k ∈ entries.map Prod.fst, k.sameKey key = false := by
  simp [lookup?]

/-- What is found under a key once something was stored. -/
theorem lookup?_store (other key : Value) (a : α) (entries : List (Value × α)) :
    lookup? other (store key a entries) =
      if key.sameKey other then some a else lookup? other entries := by
  induction entries with
  | nil => rw [store, lookup?_cons]
  | cons entry rest ih =>
    obtain ⟨k, b⟩ := entry
    rw [store]
    split
    · rename_i hsame
      rw [lookup?_cons, lookup?_cons, sameKey_congr_left hsame]
      split <;> rfl
    · rename_i hother
      rw [lookup?_cons, lookup?_cons, ih]
      split
      · rename_i hk
        have hkey : ¬ key.sameKey other = true := fun h =>
          hother (by rw [sameKey_congr_right h, hk])
        rw [if_neg hkey]
      · rfl

end Pairs

end Nullability.Value
