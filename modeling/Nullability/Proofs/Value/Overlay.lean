import Nullability.Proofs.Value.Merge

/-!
# Mappings laid over one another

What stands in merged mappings, at any depth, is told by paths of keys: a path that leads to a value
in the upper mapping leads to it, or to a mapping laid over another one, and a path that leads
nowhere there leads where it led in the lower mapping, unless a value that is no mapping is in the
way (`laidOver_mergeEntries`).
-/

namespace Nullability.Value

/-! ## Paths -/

/-- What a path of keys leads to. -/
def at? : List Value → Value → Option Value
  | [], v => some v
  | key :: path, .mapping entries => (lookup? key entries).bind (at? path)
  | _ :: _, _ => none

/-- The pairs of a mapping; any other value, or none, has none. -/
def entriesOf : Option Value → List (Value × Value)
  | some (.mapping entries) => entries
  | _ => []

/-- The keys of the mapping that a path leads to. -/
def keysAt (path : List Value) (v : Value) : List Value :=
  (entriesOf (at? path v)).map Prod.fst

mutual

/-- Whether no key comes twice in a mapping, nor in the mappings inside it. -/
def isTidy : Value → Bool
  | .mapping entries => decide (DistinctKeys entries) && areTidy entries
  | _ => true

/-- Whether the values of some pairs are tidy. -/
def areTidy : List (Value × Value) → Bool
  | [] => true
  | (_, v) :: rest => isTidy v && areTidy rest

end

section Paths

variable {key v : Value} {entries : List (Value × Value)}

lemma at?_cons (key : Value) (path : List Value) (v : Value) :
    at? (key :: path) v = (lookup? key (entriesOf (some v))).bind (at? path) := by
  cases v <;> rfl

lemma at?_append (front path : List Value) (v : Value) :
    at? (front ++ path) v = (at? front v).bind (at? path) := by
  induction front generalizing v with
  | nil => rfl
  | cons key front ih =>
    rw [List.cons_append, at?_cons, at?_cons, Option.bind_assoc]
    exact congrArg _ (funext ih)

/-- No path leads through a value that is no mapping. -/
lemma at?_cons_of_not_isMapping (h : v.isMapping = false) (key : Value) (path : List Value) :
    at? (key :: path) v = none := by
  cases v with
  | mapping entries => cases h
  | _ => rfl

lemma areTidy_iff : areTidy entries = true ↔ ∀ entry ∈ entries, entry.2.isTidy = true := by
  induction entries with
  | nil => simp [areTidy]
  | cons entry rest ih => simp [areTidy, ih]

lemma isTidy_mapping_iff : (mapping entries).isTidy = true ↔
    DistinctKeys entries ∧ ∀ entry ∈ entries, entry.2.isTidy = true := by
  rw [isTidy, Bool.and_eq_true, decide_eq_true_iff, areTidy_iff]

lemma isTidy_of_lookup? (h : (mapping entries).isTidy = true) (hv : lookup? key entries = some v) :
    v.isTidy = true := by
  obtain ⟨entry, hmem, rfl⟩ := exists_mem_of_lookup? hv
  exact (isTidy_mapping_iff.1 h).2 entry hmem

end Paths

/-! ## Laying over nothing and over itself -/

section Entries

variable {α : Type} {key : Value} {a : α} {entries : List (Value × α)}

lemma store_of_lookup?_eq_none (h : lookup? key entries = none) (a : α) :
    store key a entries = entries ++ [(key, a)] := by
  induction entries with
  | nil => rfl
  | cons entry rest ih =>
    obtain ⟨k, b⟩ := entry
    rw [lookup?_cons] at h
    split at h
    · cases h
    · rename_i hother
      rw [store, if_neg hother, ih h, List.cons_append]

/-- Storing what stands there changes nothing. -/
lemma store_of_lookup?_eq_some (h : lookup? key entries = some a) :
    store key a entries = entries := by
  induction entries with
  | nil => cases h
  | cons entry rest ih =>
    obtain ⟨k, b⟩ := entry
    rw [lookup?_cons] at h
    rw [store]
    split at h
    · rename_i hsame
      rw [if_pos hsame, Option.some.inj h]
    · rename_i hother
      rw [if_neg hother, ih h]

lemma lookup?_of_mem_of_distinctKeys (h : DistinctKeys entries) (hmem : (key, a) ∈ entries) :
    lookup? key entries = some a := by
  induction entries with
  | nil => cases hmem
  | cons entry rest ih =>
    obtain ⟨k, b⟩ := entry
    obtain ⟨hfirst, hrest⟩ := List.pairwise_cons.1 h
    rw [lookup?_cons]
    obtain heq | hmem := List.mem_cons.1 hmem
    · cases heq
      rw [if_pos (sameKey_refl key)]
    · have hother : k.sameKey key = false := hfirst key (List.mem_map_of_mem hmem)
      rw [if_neg (by rw [hother]; exact Bool.false_ne_true), ih hrest hmem]

end Entries

section Merging

variable {v : Value} {lower upper : List (Value × Value)}

/-- New keys are put behind the others, in their order. -/
lemma mergeEntries_of_new (h : DistinctKeys upper)
    (hnew : ∀ key ∈ upper.map Prod.fst, lookup? key lower = none) :
    mergeEntries lower upper = lower ++ upper := by
  induction upper generalizing lower with
  | nil => rw [mergeEntries, List.append_nil]
  | cons entry rest ih =>
    obtain ⟨key, v⟩ := entry
    obtain ⟨hfirst, hrest⟩ := List.pairwise_cons.1 h
    have hkey : lookup? key lower = none := hnew key List.mem_cons_self
    rw [mergeEntries, hkey, mergeUnder_none, store_of_lookup?_eq_none hkey, ih hrest]
    · rw [List.append_assoc, List.singleton_append]
    · intro other hmem
      rw [← store_of_lookup?_eq_none hkey v, lookup?_store, hfirst other hmem]
      exact hnew other (List.mem_cons_of_mem key hmem)

lemma mergeEntries_nil_left (h : DistinctKeys upper) : mergeEntries [] upper = upper := by
  rw [mergeEntries_of_new h (fun _ _ => rfl), List.nil_append]

/-- A mapping over anything else is laid over a mapping without pairs. -/
lemma mergeUnder_mapping (h : DistinctKeys upper) (lower : Option Value) :
    mergeUnder lower (.mapping upper) = .mapping (mergeEntries (entriesOf lower) upper) := by
  have hnil : mapping upper = .mapping (mergeEntries [] upper) :=
    congrArg mapping (mergeEntries_nil_left h).symm
  rcases lower with _ | under
  · exact hnil
  · cases under with
    | mapping under => rfl
    | _ => exact hnil

lemma mergeUnder_of_not_isMapping (h : v.isMapping = false) (lower : Option Value) :
    mergeUnder lower v = v := by
  obtain hself | ⟨hmapping, -⟩ := mergeUnder_eq_or lower v
  · exact hself
  · rw [h] at hmapping
    cases hmapping

/-- Pairs that lead to what stands there change nothing. -/
lemma mergeEntries_eq_self
    (h : ∀ entry ∈ upper, ∃ w, lookup? entry.1 lower = some w ∧ mergeUnder (some w) entry.2 = w) :
    mergeEntries lower upper = lower := by
  induction upper with
  | nil => rw [mergeEntries]
  | cons entry rest ih =>
    obtain ⟨key, v⟩ := entry
    obtain ⟨⟨w, hw, hmerge⟩, hrest⟩ := List.forall_mem_cons.1 h
    rw [mergeEntries, hw, hmerge, store_of_lookup?_eq_some hw, ih hrest]

mutual

/-- A value laid over what it was laid over before changes nothing. -/
theorem mergeUnder_again (v : Value) (h : v.isTidy = true) (lower : Option Value) :
    mergeUnder (some (mergeUnder lower v)) v = mergeUnder lower v := by
  cases v with
  | mapping entries =>
    have hdistinct := (isTidy_mapping_iff.1 h).1
    rw [isTidy, Bool.and_eq_true] at h
    rw [mergeUnder_mapping hdistinct, mergeUnder_mapping hdistinct, entriesOf]
    refine congrArg mapping (mergeEntries_eq_self fun entry hmem => ?_)
    refine ⟨mergeUnder (lookup? entry.1 (entriesOf lower)) entry.2, ?_,
      mergeEntries_again entries h.2 entry hmem _⟩
    rw [lookup?_mergeEntries hdistinct, lookup?_of_mem_of_distinctKeys hdistinct hmem]
    rfl
  | _ => rfl
termination_by structural v

theorem mergeEntries_again (entries : List (Value × Value)) (h : areTidy entries = true) :
    ∀ entry ∈ entries, ∀ lower,
      mergeUnder (some (mergeUnder lower entry.2)) entry.2 = mergeUnder lower entry.2 := by
  match entries with
  | [] => simp
  | (key, v) :: rest =>
    rw [areTidy, Bool.and_eq_true] at h
    exact List.forall_mem_cons.2 ⟨mergeUnder_again v h.1, mergeEntries_again rest h.2⟩
termination_by structural entries

end

/-! ## Keys -/

lemma lookup?_isNone_iff {key : Value} :
    (lookup? key lower).isNone = !(lower.map Prod.fst).any (fun k => k.sameKey key) := by
  rw [Bool.eq_iff_iff, Option.isNone_iff_eq_none, lookup?_eq_none_iff]
  simp

/-- The keys of the lower mapping come first, and the new ones of the upper mapping behind them. -/
lemma keys_mergeEntries (h : DistinctKeys upper) : (mergeEntries lower upper).map Prod.fst =
    lower.map Prod.fst ++ (upper.map Prod.fst).filter
      (fun key => !(lower.map Prod.fst).any (fun k => k.sameKey key)) := by
  simp only [← lookup?_isNone_iff]
  induction upper generalizing lower with
  | nil => rw [mergeEntries, List.map_nil, List.filter_nil, List.append_nil]
  | cons entry rest ih =>
    obtain ⟨key, v⟩ := entry
    obtain ⟨hfirst, hrest⟩ := List.pairwise_cons.1 h
    -- what is stored is under none of the keys to come
    have hothers : (rest.map Prod.fst).filter (fun other =>
        (lookup? other (store key (mergeUnder (lookup? key lower) v) lower)).isNone) =
          (rest.map Prod.fst).filter (fun other => (lookup? other lower).isNone) := by
      refine List.filter_congr fun other hmem => ?_
      rw [lookup?_store, hfirst other hmem, if_neg Bool.false_ne_true]
    rw [mergeEntries, ih hrest, hothers, List.map_cons, List.filter_cons]
    cases hkey : lookup? key lower with
    | none =>
      rw [store_of_lookup?_eq_none hkey, List.map_append, List.append_assoc]
      rfl
    | some w =>
      obtain hkeys | ⟨hnew, -⟩ := keys_store key (mergeUnder (some w) v) lower
      · rw [hkeys]
        rfl
      · rw [lookup?_eq_none_iff.2 hnew] at hkey
        cases hkey

end Merging

/-! ## Paths in merged mappings -/

section Overlay

variable {upper v : Value} {path : List Value}

lemma isTidy_of_at? (h : upper.isTidy = true) (hv : at? path upper = some v) : v.isTidy = true := by
  induction path generalizing upper with
  | nil =>
    cases hv
    exact h
  | cons key path ih =>
    cases upper with
    | mapping entries =>
      obtain ⟨w, hw, hpath⟩ := Option.bind_eq_some_iff.1 hv
      exact ih (isTidy_of_lookup? h hw) hpath
    | _ => cases hv

lemma bind_at?_cons (key : Value) (path : List Value) (lower : Option Value) :
    lower.bind (at? (key :: path)) = (lookup? key (entriesOf lower)).bind (at? path) := by
  cases lower with
  | none => rfl
  | some under => exact at?_cons key path under

/-- The first key of a path, in a mapping that is laid over something. -/
lemma at?_cons_mergeUnder {entries : List (Value × Value)} (h : DistinctKeys entries) (key : Value)
    (path : List Value) (lower : Option Value) :
    at? (key :: path) (mergeUnder lower (.mapping entries)) =
      (((lookup? key entries).map (mergeUnder (lookup? key (entriesOf lower)))).or
        (lookup? key (entriesOf lower))).bind (at? path) := by
  rw [mergeUnder_mapping h, at?_cons, ← lookup?_mergeEntries h]
  rfl

/-- What a path leads to in the upper value is laid over what it leads to in the lower one. -/
lemma at?_mergeUnder_of_some (h : upper.isTidy = true) (hv : at? path upper = some v)
    (lower : Option Value) :
    at? path (mergeUnder lower upper) = some (mergeUnder (lower.bind (at? path)) v) := by
  induction path generalizing lower upper with
  | nil =>
    cases hv
    rw [at?]
    cases lower <;> rfl
  | cons key path ih =>
    cases upper with
    | mapping entries =>
      obtain ⟨w, hw, hpath⟩ := Option.bind_eq_some_iff.1 hv
      rw [at?_cons_mergeUnder (isTidy_mapping_iff.1 h).1, hw, bind_at?_cons]
      exact ih (isTidy_of_lookup? h hw) hpath _
    | _ => cases hv

/-- Where the upper value has nothing, a path leads where it leads in the lower one, unless a value
that is no mapping is in the way. -/
lemma at?_mergeUnder_of_none (h : upper.isTidy = true) (hnone : at? path upper = none)
    (hfront : ∀ front v, front <+: path → at? front upper = some v → v.isMapping = true)
    (lower : Option Value) : at? path (mergeUnder lower upper) = lower.bind (at? path) := by
  induction path generalizing lower upper with
  | nil => cases hnone
  | cons key path ih =>
    obtain ⟨entries, rfl⟩ := isMapping_iff.1 (hfront [] upper List.nil_prefix rfl)
    rw [at?_cons_mergeUnder (isTidy_mapping_iff.1 h).1, bind_at?_cons]
    cases hw : lookup? key entries with
    | none => rfl
    | some w =>
      have hpath : at? path w = none := by
        rw [at?, hw] at hnone
        exact hnone
      refine ih (isTidy_of_lookup? h hw) hpath (fun front v hprefix hv => ?_) _
      refine hfront (key :: front) v (List.cons_prefix_cons.2 ⟨rfl, hprefix⟩) ?_
      rw [at?, hw]
      exact hv

end Overlay

/-- What laying one value over another one comes to, path by path. -/
structure LaidOver (lower upper merged : Value) : Prop where
  /-- What is no mapping in the upper value stands as it is. -/
  leaf : ∀ path v, at? path upper = some v → v.isMapping = false → at? path merged = some v
  /-- Where there is a mapping in the upper value, there is one. -/
  mapping : ∀ path v, at? path upper = some v → v.isMapping = true →
    ∃ w, at? path merged = some w ∧ w.isMapping = true
  /-- Where there is nothing in the upper value, and nothing in the way, the lower value stands. -/
  below : ∀ path, at? path upper = none →
    (∀ front v, front <+: path → at? front upper = some v → v.isMapping = true) →
      at? path merged = at? path lower
  /-- What is no mapping in the upper value hides all that is below it. -/
  hidden : ∀ path key more v, at? path upper = some v → v.isMapping = false →
    at? (path ++ key :: more) merged = none
  /-- The keys of a mapping of the upper value come behind those that are below it, except for those
  that are there already. -/
  keys : ∀ path v, at? path upper = some v → v.isMapping = true →
    keysAt path merged = keysAt path lower ++ (keysAt path upper).filter
      (fun key => !(keysAt path lower).any (fun k => k.sameKey key))

/-- Merging lays the upper mapping over the lower one, at every depth. A mapping without pairs
changes nothing on either side, and so does laying the upper mapping over the result again. -/
theorem laidOver_mergeEntries {lower upper : List (Value × Value)}
    (h : (Value.mapping upper).isTidy = true) :
    LaidOver (.mapping lower) (.mapping upper) (.mapping (mergeEntries lower upper)) ∧
      mergeEntries [] upper = upper ∧ mergeEntries lower [] = lower ∧
      mergeEntries (mergeEntries lower upper) upper = mergeEntries lower upper := by
  have hdistinct := (isTidy_mapping_iff.1 h).1
  have hsome {path : List Value} {v : Value} (hv : at? path (.mapping upper) = some v) :
      at? path (.mapping (mergeEntries lower upper)) =
        some (mergeUnder (at? path (.mapping lower)) v) :=
    at?_mergeUnder_of_some h hv (some (.mapping lower))
  have hleaf : ∀ path v, at? path (.mapping upper) = some v → v.isMapping = false →
      at? path (.mapping (mergeEntries lower upper)) = some v := fun path v hv hother =>
    (hsome hv).trans (congrArg some (mergeUnder_of_not_isMapping hother _))
  refine ⟨⟨hleaf, fun path v hv hmapping => ?_, fun path hnone hfront => ?_,
    fun path key more v hv hother => ?_, fun path v hv hmapping => ?_⟩,
    mergeEntries_nil_left hdistinct, by rw [mergeEntries], ?_⟩
  · obtain ⟨entries, rfl⟩ := isMapping_iff.1 hmapping
    refine ⟨_, hsome hv, ?_⟩
    rw [mergeUnder_mapping (isTidy_mapping_iff.1 (isTidy_of_at? h hv)).1]
    rfl
  · exact at?_mergeUnder_of_none h hnone hfront (some (.mapping lower))
  · rw [at?_append, hleaf path v hv hother]
    exact at?_cons_of_not_isMapping hother key more
  · obtain ⟨entries, rfl⟩ := isMapping_iff.1 hmapping
    have hentries := (isTidy_mapping_iff.1 (isTidy_of_at? h hv)).1
    rw [keysAt, keysAt, keysAt, hsome hv, hv, mergeUnder_mapping hentries]
    exact keys_mergeEntries hentries
  · exact Value.mapping.inj (mergeUnder_again (.mapping upper) h (some (.mapping lower)))

/-- Settings with a section, and a value where the others have a mapping. -/
def lowerSections : List (Value × Value) :=
  [(.text "watcher",
      .mapping [(.text "force_polling", .bool false), (.text "poll_delay_ms", .int 300)]),
    (.text "scanner", .int 1), (.text "logging", .mapping [(.text "level", .text "INFO")])]

/-- Settings with a field for the section, a new section and a value instead of a section. -/
def upperSections : List (Value × Value) :=
  [(.text "locations", .mapping []),
    (.text "scanner", .mapping [(.text "include_nuget", .bool true)]),
    (.text "watcher", .mapping [(.text "force_polling", .bool true)]), (.text "logging", .null)]

theorem laidOver_mergeEntries_sections :
    (Value.mapping upperSections).isTidy = true ∧
      LaidOver (.mapping lowerSections) (.mapping upperSections)
        (.mapping (mergeEntries lowerSections upperSections)) ∧
      mergeEntries [] upperSections = upperSections ∧
      mergeEntries lowerSections [] = lowerSections ∧
      mergeEntries (mergeEntries lowerSections upperSections) upperSections =
        mergeEntries lowerSections upperSections :=
  ⟨by decide, laidOver_mergeEntries (by decide)⟩

example : mergeEntries lowerSections upperSections =
    [(.text "watcher",
        .mapping [(.text "force_polling", .bool true), (.text "poll_delay_ms", .int 300)]),
      (.text "scanner", .mapping [(.text "include_nuget", .bool true)]), (.text "logging", .null),
      (.text "locations", .mapping [])] := by
  rfl

end Nullability.Value
