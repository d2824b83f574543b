import Mathlib.Tactic
import Nullability.Proofs.Value.Lookup
import Nullability.Value.Merge

/-!
# What is under a key of merged mappings

A list of pairs in which no key comes twice can be laid over another one pair by pair, and no pair
is in the way of another one. So what is under a key afterwards depends only on what was under it
in the two lists: a value of the upper one, unless there is none, and a value that is no mapping
comes through as it is.
-/

namespace Nullability.Value

section Distinct

variable {α : Type}

/-- Whether no key comes twice in some pairs. -/
def DistinctKeys (entries : List (Value × α)) : Prop :=
  (entries.map Prod.fst).Pairwise (fun k l => k.sameKey l = false)

instance (entries : List (Value × α)) : Decidable (DistinctKeys entries) :=
  inferInstanceAs (Decidable (List.Pairwise _ _))

/-- Storing leaves all keys as they are, or puts a new one behind them. -/
lemma keys_store (key : Value) (a : α) (entries : List (Value × α)) :
    (store key a entries).map Prod.fst = entries.map Prod.fst ∨
      (∀ k ∈ entries.map Prod.fst, k.sameKey key = false) ∧
        (store key a entries).map Prod.fst = entries.map Prod.fst ++ [key] := by
  induction entries with
  | nil => exact .inr ⟨by simp, rfl⟩
  | cons entry rest ih =>
    obtain ⟨k, b⟩ := entry
    rw [store]
    split
    · exact .inl rfl
    · rename_i hother
      rw [List.map_cons, List.map_cons]
      obtain hkeys | ⟨hnew, hkeys⟩ := ih
      · exact .inl (congrArg _ hkeys)
      · refine .inr ⟨List.forall_mem_cons.2 ⟨Bool.eq_false_iff.2 hother, hnew⟩, ?_⟩
        rw [hkeys, List.cons_append]

lemma distinctKeys_nil : DistinctKeys ([] : List (Value × α)) := .nil

lemma distinctKeys_store {key : Value} {a : α} {entries : List (Value × α)}
    (h : DistinctKeys entries) : DistinctKeys (store key a entries) := by
  obtain hkeys | ⟨hnew, hkeys⟩ := keys_store key a entries
  · rw [DistinctKeys, hkeys]
    exact h
  · rw [DistinctKeys, hkeys, List.pairwise_append]
    refine ⟨h, List.pairwise_singleton _ _, fun k hk l hl => ?_⟩
    rw [List.mem_singleton.1 hl]
    exact hnew k hk

lemma distinctKeys_foldl_store {γ : Type} (key : γ → Value) (a : γ → α) (items : List γ)
    {entries : List (Value × α)} (h : DistinctKeys entries) :
    DistinctKeys (items.foldl (fun done item => store (key item) (a item) done) entries) := by
  induction items generalizing entries with
  | nil => exact h
  | cons item rest ih => exact ih (distinctKeys_store h)

/-- A key that stands before other pairs is not among them. -/
lemma lookup?_eq_none_of_distinctKeys_cons {key : Value} {a : α} {rest : List (Value × α)}
    (h : DistinctKeys ((key, a) :: rest)) : lookup? key rest = none :=
  lookup?_eq_none_iff.2 fun k hk => (sameKey_comm k key).trans ((List.pairwise_cons.1 h).1 k hk)

/-- A pair that is stored is new or was there before. -/
lemma mem_store {key : Value} {a : α} {entries : List (Value × α)} {entry : Value × α}
    (h : entry ∈ store key a entries) : entry.2 = a ∨ entry ∈ entries := by
  induction entries with
  | nil =>
    rw [List.mem_singleton.1 h]
    exact .inl rfl
  | cons first rest ih =>
    obtain ⟨k, b⟩ := first
    rw [store] at h
    split at h
    · obtain rfl | hrest := List.mem_cons.1 h
      · exact .inl rfl
      · exact .inr (List.mem_cons_of_mem _ hrest)
    · obtain rfl | hrest := List.mem_cons.1 h
      · exact .inr List.mem_cons_self
      · exact (ih hrest).imp_right (List.mem_cons_of_mem _)

/-- What stands in a list that was filled pair by pair was stored or was there before. -/
lemma mem_foldl_store {γ : Type} {key : γ → Value} {a : γ → α} {items : List γ}
    {entries : List (Value × α)} {entry : Value × α}
    (h : entry ∈ items.foldl (fun done item => store (key item) (a item) done) entries) :
    (∃ item ∈ items, entry.2 = a item) ∨ entry ∈ entries := by
  induction items generalizing entries with
  | nil => exact .inr h
  | cons item rest ih =>
    obtain ⟨found, hfound, hentry⟩ | hbefore := ih h
    · exact .inl ⟨found, List.mem_cons_of_mem _ hfound, hentry⟩
    · exact (mem_store hbefore).imp_left fun hentry => ⟨item, List.mem_cons_self, hentry⟩

lemma exists_mem_of_lookup? {key : Value} {a : α} {entries : List (Value × α)}
    (h : lookup? key entries = some a) : ∃ entry ∈ entries, entry.2 = a := by
  obtain ⟨entry, hfind, rfl⟩ := Option.map_eq_some_iff.1 h
  exact ⟨entry, List.mem_of_find?_eq_some hfind, rfl⟩

end Distinct

/-! ## Merging -/

/-- Whether a value is a mapping. -/
def isMapping : Value → Bool
  | .mapping _ => true
  | _ => false

lemma isMapping_iff {v : Value} : v.isMapping = true ↔ ∃ entries, v = .mapping entries := by
  cases v <;> simp [isMapping]

/-- A value comes through as it is, or it is a mapping and so is the result. -/
lemma mergeUnder_eq_or (lower : Option Value) (v : Value) :
    mergeUnder lower v = v ∨ (v.isMapping = true ∧ (mergeUnder lower v).isMapping = true) := by
  cases v with
  | mapping entries =>
    right
    rw [mergeUnder.eq_def]
    rcases lower with _ | under
    · exact ⟨rfl, rfl⟩
    · cases under <;> exact ⟨rfl, rfl⟩
  | _ => exact .inl rfl

lemma mergeUnder_none (v : Value) : mergeUnder none v = v := by
  cases v <;> rfl

/-- What is under a key once some pairs are laid over other ones. -/
lemma lookup?_mergeEntries {key : Value} {lower upper : List (Value × Value)}
    (h : DistinctKeys upper) : lookup? key (mergeEntries lower upper) =
      ((lookup? key upper).map (mergeUnder (lookup? key lower))).or (lookup? key lower) := by
  induction upper generalizing lower with
  | nil => rfl
  | cons entry rest ih =>
    obtain ⟨first, v⟩ := entry
    rw [mergeEntries, ih (List.Pairwise.of_cons h), lookup?_cons]
    by_cases hkey : first.sameKey key = true
    · have hrest : lookup? key rest = none :=
        lookup?_congr hkey rest ▸ lookup?_eq_none_of_distinctKeys_cons h
      rw [hrest, lookup?_store, if_pos hkey, if_pos hkey, ← lookup?_congr hkey lower]
      rfl
    · rw [lookup?_store, if_neg hkey, if_neg hkey]

end Nullability.Value
