/-!
# Ordered maps

A finite map that remembers the order in which its keys came. Storing under a known key replaces
the value and keeps the key's place; a new key goes to the end. The view is `entries`, the list of
key and value pairs, in which no key occurs twice; every operation is described by what it does to
that list or to `get?`.
-/

namespace Nullability

universe u v w

namespace Pairs

variable {κ : Type u} {α : Type v} {β : Type w}

/-- The keys of a list of pairs, in order. -/
def keys (entries : List (κ × α)) : List κ :=
  entries.map Prod.fst

theorem nodup_keys_filter {entries : List (κ × α)} {p : κ × α → Bool}
    (h : (keys entries).Nodup) : (keys (entries.filter p)).Nodup :=
  List.Nodup.sublist (List.Sublist.map Prod.fst List.filter_sublist) h

variable [DecidableEq κ]

/-- The value of the first pair with the key. -/
def get? (key : κ) : List (κ × α) → Option α
  | [] => none
  | (k, v) :: rest => if k = key then some v else get? key rest

/-- Replaces the value of the first pair with the key, or adds a pair at the end. -/
def insert (key : κ) (value : α) : List (κ × α) → List (κ × α)
  | [] => [(key, value)]
  | (k, v) :: rest => if k = key then (k, value) :: rest else (k, v) :: insert key value rest

/-- Drops every pair with the key. -/
def erase (key : κ) (entries : List (κ × α)) : List (κ × α) :=
  entries.filter (fun entry => entry.1 ≠ key)

theorem keys_insert_of_mem {key : κ} {value : α} {entries : List (κ × α)}
    (h : key ∈ keys entries) : keys (insert key value entries) = keys entries := by
  induction entries with
  | nil => simp [keys] at h
  | cons entry rest ih =>
    obtain ⟨k', v'⟩ := entry
    by_cases hk : k' = key
    · simp [insert, keys, hk]
    · have : key ∈ keys rest := by
        simp only [keys, List.map_cons, List.mem_cons] at h
        exact h.resolve_left (fun e => hk e.symm)
      simpa [insert, keys, hk] using ih this

theorem insert_of_not_mem {key : κ} {value : α} {entries : List (κ × α)}
    (h : key ∉ keys entries) : insert key value entries = entries ++ [(key, value)] := by
  induction entries with
  | nil => rfl
  | cons entry rest ih =>
    obtain ⟨k', v'⟩ := entry
    simp only [keys, List.map_cons, List.mem_cons, not_or] at h
    have hk : k' ≠ key := fun e => h.1 e.symm
    simp [insert, hk, ih h.2]

theorem nodup_keys_insert {key : κ} {value : α} {entries : List (κ × α)}
    (h : (keys entries).Nodup) : (keys (insert key value entries)).Nodup := by
  by_cases hm : key ∈ keys entries
  · rw [keys_insert_of_mem hm]; exact h
  · rw [insert_of_not_mem hm]
    simp only [keys, List.map_append, List.map_cons, List.map_nil] at *
    exact List.nodup_append.2 ⟨h, by simp, by
      intro a ha b hb
      simp only [List.mem_singleton] at hb
      exact fun e => hm (hb ▸ e ▸ ha)⟩

theorem get?_insert {key k : κ} {value : α} {entries : List (κ × α)} :
    get? k (insert key value entries) = if key = k then some value else get? k entries := by
  induction entries with
  | nil => simp [insert, get?]
  | cons entry rest ih =>
    obtain ⟨k', v'⟩ := entry
    by_cases h : k' = key <;> by_cases hk : key = k <;> simp_all [insert, get?]

theorem get?_eq_none_iff {k : κ} {entries : List (κ × α)} :
    get? k entries = none ↔ k ∉ keys entries := by
  induction entries with
  | nil => simp [get?, keys]
  | cons entry rest ih =>
    obtain ⟨k', v'⟩ := entry
    by_cases h : k' = k
    · simp [get?, keys, h]
    · have : k ≠ k' := fun e => h e.symm
      simpa [get?, keys, h, this] using ih

theorem get?_erase {key k : κ} {entries : List (κ × α)} :
    get? k (erase key entries) = if key = k then none else get? k entries := by
  induction entries with
  | nil => simp [erase, get?]
  | cons entry rest ih =>
    obtain ⟨k', v'⟩ := entry
    by_cases h : k' = key <;> by_cases hk : key = k <;> simp_all [erase, get?]

theorem mem_of_get? {key : κ} {value : α} {entries : List (κ × α)}
    (h : get? key entries = some value) : (key, value) ∈ entries := by
  induction entries with
  | nil => cases h
  | cons entry rest ih =>
    obtain ⟨k, v⟩ := entry
    rw [get?] at h
    split at h
    · rename_i hk
      rw [hk, Option.some.inj h]
      exact List.mem_cons_self
    · exact List.mem_cons_of_mem _ (ih h)

theorem get?_of_mem {key : κ} {value : α} {entries : List (κ × α)}
    (hnodup : (keys entries).Nodup) (h : (key, value) ∈ entries) :
    get? key entries = some value := by
  induction entries with
  | nil => cases h
  | cons entry rest ih =>
    obtain ⟨k, v⟩ := entry
    rw [keys, List.map_cons, List.nodup_cons] at hnodup
    cases List.mem_cons.1 h with
    | inl hentry =>
      obtain ⟨rfl, rfl⟩ := Prod.mk.inj hentry
      exact if_pos rfl
    | inr hrest =>
      have hne : k ≠ key := by
        intro e
        rw [e] at hnodup
        exact hnodup.1 (List.mem_map.2 ⟨(key, value), hrest, rfl⟩)
      rw [get?, if_neg hne]
      exact ih hnodup.2 hrest

theorem perm_erase {key : κ} {value : α} {entries : List (κ × α)}
    (hnodup : (keys entries).Nodup) (h : get? key entries = some value) :
    entries.Perm ((key, value) :: erase key entries) := by
  induction entries with
  | nil => cases h
  | cons entry rest ih =>
    obtain ⟨k, v⟩ := entry
    rw [keys, List.map_cons, List.nodup_cons] at hnodup
    rw [get?] at h
    split at h
    · rename_i hk
      subst hk
      obtain rfl := Option.some.inj h
      have hrest : erase k ((k, v) :: rest) = rest := by
        rw [erase, List.filter_cons_of_neg (by simp), List.filter_eq_self]
        intro entry hmem
        exact decide_eq_true (fun e => hnodup.1 (List.mem_map.2 ⟨entry, hmem, e⟩))
      rw [hrest]
    · rename_i hk
      have hperm := (ih hnodup.2 h).cons (k, v)
      have herase : erase key ((k, v) :: rest) = (k, v) :: erase key rest := by
        simp [erase, hk]
      rw [herase]
      exact hperm.trans (List.Perm.swap _ _ _)

/-- An entry that a filter rejects can be stored without the filter's noticing. -/
theorem filter_insert_of_neg {key : κ} {value : α} {entries : List (κ × α)} {p : κ → Bool}
    (h : p key = false) : (insert key value entries).filter (fun entry => p entry.1) =
      entries.filter (fun entry => p entry.1) := by
  induction entries with
  | nil => simp [insert, h]
  | cons entry rest ih =>
    obtain ⟨k, v⟩ := entry
    by_cases hk : k = key
    · simp [insert, hk, h]
    · simp [insert, hk, List.filter_cons, ih]

/-- An entry that a filter rejects can be dropped without the filter's noticing. -/
theorem filter_erase_of_neg {key : κ} {entries : List (κ × α)} {p : κ → Bool}
    (h : p key = false) : (erase key entries).filter (fun entry => p entry.1) =
      entries.filter (fun entry => p entry.1) := by
  rw [erase, List.filter_filter]
  apply List.filter_congr
  intro entry _
  by_cases hk : entry.1 = key
  · simp [hk, h]
  · simp [hk]

/-- What a filter lets through can be looked up in what is left. -/
theorem get?_filter {k : κ} {entries : List (κ × α)} {p : κ → Bool} (h : p k = true) :
    get? k (entries.filter (fun entry => p entry.1)) = get? k entries := by
  induction entries with
  | nil => rfl
  | cons entry rest ih =>
    obtain ⟨k', v⟩ := entry
    by_cases hk : k' = k
    · simp [get?, hk, h]
    · by_cases hp : p k' = true
      · simp [get?, hk, hp, ih]
      · simp [get?, hk, hp, ih]

theorem insert_insert {key : κ} {value value' : α} {entries : List (κ × α)} :
    insert key value' (insert key value entries) = insert key value' entries := by
  induction entries with
  | nil => simp [insert]
  | cons entry rest ih =>
    obtain ⟨k', v'⟩ := entry
    by_cases h : k' = key
    · simp [insert, h]
    · simp [insert, h, ih]

theorem insert_of_get?_eq_some {key : κ} {value : α} {entries : List (κ × α)}
    (h : get? key entries = some value) : insert key value entries = entries := by
  induction entries with
  | nil => simp [get?] at h
  | cons entry rest ih =>
    obtain ⟨k', v'⟩ := entry
    by_cases hk : k' = key
    · rw [get?, if_pos hk] at h
      rw [insert, if_pos hk, Option.some.inj h]
    · rw [get?, if_neg hk] at h
      rw [insert, if_neg hk, ih h]

end Pairs

/-- A finite map that keeps its keys in the order of their first insertion. -/
structure OrderedMap (κ : Type u) (α : Type v) where
  /-- The pairs, oldest key first. -/
  entries : List (κ × α)
  /-- No key occurs twice. -/
  nodup_keys : (Pairs.keys entries).Nodup
  deriving DecidableEq

namespace OrderedMap

variable {κ : Type u} {α : Type v} {β : Type w}

/-- The map without entries. -/
def empty : OrderedMap κ α :=
  ⟨[], List.nodup_nil⟩

instance : Inhabited (OrderedMap κ α) := ⟨empty⟩

/-- The keys, oldest first. -/
def keys (m : OrderedMap κ α) : List κ :=
  Pairs.keys m.entries

/-- The number of keys. -/
def size (m : OrderedMap κ α) : Nat :=
  m.entries.length

/-- Whether the map has no entry. -/
def isEmpty (m : OrderedMap κ α) : Bool :=
  m.entries.isEmpty

@[ext]
theorem ext {m n : OrderedMap κ α} (h : m.entries = n.entries) : m = n := by
  cases m; cases n; simp_all

/-- Keeps the entries that satisfy a test. -/
def filter (p : κ → α → Bool) (m : OrderedMap κ α) : OrderedMap κ α :=
  ⟨m.entries.filter (fun entry => p entry.1 entry.2), Pairs.nodup_keys_filter m.nodup_keys⟩

/-- The newest entry and the map without it. -/
def popLast? (m : OrderedMap κ α) : Option ((κ × α) × OrderedMap κ α) :=
  match m.entries.getLast? with
  | none => none
  | some entry => some (entry, ⟨m.entries.dropLast, by
      have h := m.nodup_keys
      exact List.Nodup.sublist (List.Sublist.map Prod.fst (List.dropLast_sublist _)) h⟩)

theorem entries_eq_nil_of_popLast? {m : OrderedMap κ α} (h : m.popLast? = none) :
    m.entries = [] := by
  rw [popLast?] at h
  split at h
  · rename_i hnone
    exact List.getLast?_eq_none_iff.1 hnone
  · cases h

theorem entries_of_popLast? {m rest : OrderedMap κ α} {entry : κ × α}
    (h : m.popLast? = some (entry, rest)) : m.entries = rest.entries ++ [entry] := by
  rw [popLast?] at h
  split at h
  · cases h
  · rename_i last hlast
    obtain ⟨rfl, rfl⟩ := Prod.mk.inj (Option.some.inj h)
    obtain ⟨older, holder⟩ := List.getLast?_eq_some_iff.1 hlast
    show m.entries = m.entries.dropLast ++ [last]
    rw [holder, List.dropLast_concat]

variable [DecidableEq κ]

/-- The value stored under a key. -/
def get? (m : OrderedMap κ α) (key : κ) : Option α :=
  Pairs.get? key m.entries

/-- Whether a key has a value. -/
def contains (m : OrderedMap κ α) (key : κ) : Bool :=
  (m.get? key).isSome

/-- Stores a value: in place under a known key, at the end under a new one. -/
def insert (m : OrderedMap κ α) (key : κ) (value : α) : OrderedMap κ α :=
  ⟨Pairs.insert key value m.entries, Pairs.nodup_keys_insert m.nodup_keys⟩

/-- Removes a key. -/
def erase (m : OrderedMap κ α) (key : κ) : OrderedMap κ α :=
  ⟨Pairs.erase key m.entries, Pairs.nodup_keys_filter m.nodup_keys⟩

/-- Inserts pairs one after the other: the last value of a key wins, at its first place. -/
def ofList (entries : List (κ × α)) : OrderedMap κ α :=
  entries.foldl (fun m entry => m.insert entry.1 entry.2) empty

@[simp]
theorem get?_empty (key : κ) : (empty : OrderedMap κ α).get? key = none := rfl

@[simp]
theorem get?_insert (m : OrderedMap κ α) (key k : κ) (value : α) :
    (m.insert key value).get? k = if key = k then some value else m.get? k :=
  Pairs.get?_insert

@[simp]
theorem get?_erase (m : OrderedMap κ α) (key k : κ) :
    (m.erase key).get? k = if key = k then none else m.get? k :=
  Pairs.get?_erase

/-- The entries are the keys with what is stored under them. -/
theorem mem_entries_iff (m : OrderedMap κ α) (key : κ) (value : α) :
    (key, value) ∈ m.entries ↔ m.get? key = some value :=
  ⟨Pairs.get?_of_mem m.nodup_keys, Pairs.mem_of_get?⟩

/-- The last value stored under a key counts. -/
@[simp]
theorem insert_insert (m : OrderedMap κ α) (key : κ) (value value' : α) :
    (m.insert key value).insert key value' = m.insert key value' :=
  ext Pairs.insert_insert

/-- What is stored under a known key can be taken out and put first. -/
theorem entries_perm_erase {m : OrderedMap κ α} {key : κ} {value : α}
    (h : m.get? key = some value) : m.entries.Perm ((key, value) :: (m.erase key).entries) :=
  Pairs.perm_erase m.nodup_keys h

theorem entries_insert_of_get?_eq_none {m : OrderedMap κ α} {key : κ} {value : α}
    (h : m.get? key = none) : (m.insert key value).entries = m.entries ++ [(key, value)] :=
  Pairs.insert_of_not_mem (Pairs.get?_eq_none_iff.1 h)

/-- Storing the value that a key has changes nothing. -/
theorem insert_of_get?_eq_some {m : OrderedMap κ α} {key : κ} {value : α}
    (h : m.get? key = some value) : m.insert key value = m :=
  ext (Pairs.insert_of_get?_eq_some h)

/-- Pairs with new keys are put at the end, as they are. -/
theorem entries_foldl_insert {m : OrderedMap κ α} {entries : List (κ × α)}
    (h : (Pairs.keys (m.entries ++ entries)).Nodup) :
    (entries.foldl (fun m entry => m.insert entry.1 entry.2) m).entries =
      m.entries ++ entries := by
  induction entries generalizing m with
  | nil => simp
  | cons entry rest ih =>
    have hnew : entry.1 ∉ Pairs.keys m.entries := by
      intro hmem
      rw [Pairs.keys, List.map_append] at h
      exact (List.nodup_append.1 h).2.2 _ hmem _ List.mem_cons_self rfl
    have hinsert : (m.insert entry.1 entry.2).entries = m.entries ++ [entry] :=
      Pairs.insert_of_not_mem hnew
    rw [List.foldl_cons, ih (by simpa [hinsert] using h), hinsert, List.append_assoc]
    rfl

/-- A map is made of its entries. -/
@[simp]
theorem ofList_entries (m : OrderedMap κ α) : ofList m.entries = m := by
  have hkeys : (Pairs.keys ((empty : OrderedMap κ α).entries ++ m.entries)).Nodup := m.nodup_keys
  exact ext (entries_foldl_insert hkeys)

theorem get?_eq_none_iff (m : OrderedMap κ α) (k : κ) : m.get? k = none ↔ k ∉ m.keys :=
  Pairs.get?_eq_none_iff

theorem keys_insert (m : OrderedMap κ α) (key : κ) (value : α) :
    (m.insert key value).keys = if key ∈ m.keys then m.keys else m.keys ++ [key] := by
  by_cases h : key ∈ m.keys
  · rw [if_pos h]; exact Pairs.keys_insert_of_mem h
  · rw [if_neg h]
    show Pairs.keys (Pairs.insert key value m.entries) = _
    rw [Pairs.insert_of_not_mem h]
    simp [Pairs.keys, keys]

/-- Under repeated insertion the new keys follow the old ones in order of first occurrence. -/
theorem keys_foldl_insert {γ : Type w} (key : γ → κ) (value : OrderedMap κ α → γ → α)
    (xs : List γ) (m : OrderedMap κ α) :
    (xs.foldl (fun m x => m.insert (key x) (value m x)) m).keys =
      m.keys ++ ((xs.map key).filter (fun k => k ∉ m.keys)).eraseDups := by
  induction xs generalizing m with
  | nil => simp
  | cons x xs ih =>
    rw [List.foldl_cons, ih, keys_insert, List.map_cons]
    by_cases h : key x ∈ m.keys
    · rw [if_pos h, List.filter_cons_of_neg (by simpa using h)]
    · have hfilter : (xs.map key).filter (fun k => k ∉ m.keys ++ [key x]) =
          ((xs.map key).filter (fun k => k ∉ m.keys)).filter (fun k => !k == key x) := by
        rw [List.filter_filter]
        apply List.filter_congr
        intro k _
        by_cases hk : k = key x
        · simp [hk]
        · simp [hk, beq_false_of_ne hk]
      rw [if_neg h, List.filter_cons_of_pos (by simpa using h), List.eraseDups_cons, hfilter,
        List.append_assoc, List.singleton_append]

/-- A key that was given the same value throughout has this value, any other one its old value. -/
theorem get?_foldl_insert_const (value : α) (names : List κ) (m : OrderedMap κ α) (k : κ) :
    (names.foldl (fun m name => m.insert name value) m).get? k =
      if k ∈ names then some value else m.get? k := by
  induction names generalizing m with
  | nil => simp
  | cons name names ih =>
    rw [List.foldl_cons, ih, get?_insert]
    by_cases hname : name = k
    · simp [hname]
    · have hk : k ≠ name := fun e => hname e.symm
      simp [hname, hk]

end OrderedMap

end Nullability
