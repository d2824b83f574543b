import Nullability.Proofs.Value.Merge
import Nullability.Settings.Variables

/-!
# Fields in any spelling

The JSON object of a section may give a field in any letter case, and several times in different
ones. The last value counts. When other values are laid over the object under the field's own name,
this is still so: such a value is the last one unless the object has the field under its own name
and in another spelling behind that.
-/

namespace Nullability.Settings

open Value (lookup? store mergeEntries mergeUnder DistinctKeys sameKey_text_iff text_sameKey_iff
  lookup?_store lookup?_cons)

/-- Whether a key is a name up to letter case. -/
def spells (name : String) : Value → Bool
  | .text key => Text.lower key = name
  | _ => false

/-- The last value for a name in any spelling. -/
def lastSpelled? (name : String) : List (Value × Value) → Option Value
  | [] => none
  | (key, v) :: rest => (lastSpelled? name rest).or (if spells name key then some v else none)

/-- Whether a name is given as it is and behind that in another spelling. -/
def isRespelled (name : String) : List (Value × Value) → Bool
  | [] => false
  | (key, _) :: rest =>
    if key.sameKey (.text name) then rest.any (fun entry => spells name entry.1)
    else isRespelled name rest

variable {part name : String} {entries : List (Value × Value)}

lemma isSome_lastSpelled? (name : String) (entries : List (Value × Value)) :
    (lastSpelled? name entries).isSome = entries.any (fun entry => spells name entry.1) := by
  induction entries with
  | nil => rfl
  | cons entry rest ih =>
    rw [lastSpelled?, Option.isSome_or, ih, List.any_cons, Bool.or_comm]
    cases spells name entry.1 <;> rfl

/-- A name that is respelled has a last value. -/
lemma isSome_lastSpelled?_of_isRespelled (h : isRespelled name entries = true) :
    (lastSpelled? name entries).isSome = true := by
  induction entries with
  | nil => cases h
  | cons entry rest ih =>
    obtain ⟨key, v⟩ := entry
    rw [isRespelled] at h
    rw [lastSpelled?, Option.isSome_or]
    split at h
    · rw [isSome_lastSpelled?, h, Bool.true_or]
    · rw [ih h, Bool.true_or]

/-! ## Storing under the name and under other texts -/

section Store

/-- A value that is stored under the name itself is the last one, unless the name is respelled. -/
lemma lastSpelled?_store_self (hname : Text.lower name = name) (v : Value)
    (entries : List (Value × Value)) :
    lastSpelled? name (store (.text name) v entries) =
      if isRespelled name entries then lastSpelled? name entries else some v := by
  have hself : spells name (.text name) = true := decide_eq_true hname
  induction entries with
  | nil => simp [store, lastSpelled?, isRespelled, hself]
  | cons entry rest ih =>
    obtain ⟨k, b⟩ := entry
    rw [store, isRespelled]
    split
    · rename_i hsame
      rw [(sameKey_text_iff _ _).1 hsame, lastSpelled?, lastSpelled?, hself,
        ← isSome_lastSpelled?]
      cases lastSpelled? name rest <;> rfl
    · rw [lastSpelled?, lastSpelled?, ih]
      split <;> rfl

variable {key : Value} {s : String}

/-- Storing under a text that is no spelling of the name changes no spelling of it. -/
lemma lastSpelled?_store_other (hkey : spells name (.text s) = false) (v : Value)
    (entries : List (Value × Value)) :
    lastSpelled? name (store (.text s) v entries) = lastSpelled? name entries := by
  induction entries with
  | nil => simp [store, lastSpelled?, hkey]
  | cons entry rest ih =>
    obtain ⟨k, b⟩ := entry
    rw [store]
    split
    · rename_i hsame
      rw [(sameKey_text_iff _ _).1 hsame, lastSpelled?, lastSpelled?, hkey]
      rfl
    · rw [lastSpelled?, lastSpelled?, ih]

lemma isRespelled_store_other (hname : Text.lower name = name)
    (hkey : spells name (.text s) = false) (v : Value) (entries : List (Value × Value)) :
    isRespelled name (store (.text s) v entries) = isRespelled name entries := by
  have hother : ¬ (Value.text s).sameKey (.text name) = true := by
    rw [sameKey_text_iff]
    intro h
    obtain rfl := Value.text.inj h
    rw [spells, decide_eq_false_iff_not] at hkey
    exact hkey hname
  induction entries with
  | nil => simp [store, isRespelled]
  | cons entry rest ih =>
    obtain ⟨k, b⟩ := entry
    rw [store]
    split
    · rw [isRespelled, isRespelled]
    · rw [isRespelled, isRespelled, ih, ← isSome_lastSpelled?, lastSpelled?_store_other hkey,
        isSome_lastSpelled?]

end Store

/-! ## Merging and naming -/

/-- What is found for a name in an object over which pairs with texts as keys were laid, among which
no other spelling of the name is. -/
lemma lastSpelled?_mergeEntries {object fields : List (Value × Value)}
    (hname : Text.lower name = name) (hdistinct : DistinctKeys fields)
    (hkeys : ∀ key ∈ fields.map Prod.fst, ∃ s, key = .text s ∧ (Text.lower s = name → s = name)) :
    lastSpelled? name (mergeEntries object fields) =
      if isRespelled name object then lastSpelled? name object
      else ((lookup? (.text name) fields).map (mergeUnder (lookup? (.text name) object))).or
        (lastSpelled? name object) := by
  induction fields generalizing object with
  | nil => exact (ite_self _).symm
  | cons entry rest ih =>
    obtain ⟨key, v⟩ := entry
    rw [List.map_cons, List.forall_mem_cons] at hkeys
    obtain ⟨⟨s, rfl, hspelling⟩, hrest⟩ := hkeys
    rw [mergeEntries, ih (List.Pairwise.of_cons hdistinct) hrest, lookup?_cons]
    by_cases hsame : s = name
    · subst hsame
      rw [Value.lookup?_eq_none_of_distinctKeys_cons hdistinct,
        if_pos ((sameKey_text_iff _ _).2 rfl), lastSpelled?_store_self hname]
      exact ite_self _
    · have hother : spells name (.text s) = false := decide_eq_false fun h => hsame (hspelling h)
      have hkey : ¬ (Value.text s).sameKey (.text name) = true := fun h =>
        hsame (Value.text.inj ((sameKey_text_iff _ _).1 h))
      rw [if_neg hkey, lookup?_store, if_neg hkey, lastSpelled?_store_other hother,
        isRespelled_store_other hname hother]

/-- Pairs in which a name has no other spelling have it only once. -/
lemma lastSpelled?_eq_lookup? {fields : List (Value × Value)} (hname : Text.lower name = name)
    (hdistinct : DistinctKeys fields)
    (hkeys : ∀ key ∈ fields.map Prod.fst, ∃ s, key = .text s ∧ (Text.lower s = name → s = name)) :
    lastSpelled? name fields = lookup? (.text name) fields := by
  induction fields with
  | nil => rfl
  | cons entry rest ih =>
    obtain ⟨key, v⟩ := entry
    rw [List.map_cons, List.forall_mem_cons] at hkeys
    obtain ⟨⟨s, rfl, hspelling⟩, hrest⟩ := hkeys
    rw [lastSpelled?, ih (List.Pairwise.of_cons hdistinct) hrest, Value.lookup?_text_cons]
    by_cases hsame : s = name
    · subst hsame
      have hself : spells s (.text s) = true := decide_eq_true hname
      rw [Value.lookup?_eq_none_of_distinctKeys_cons hdistinct, hself, if_pos rfl, if_pos rfl,
        Option.none_or]
    · have hother : spells name (.text s) = false := decide_eq_false fun h => hsame (hspelling h)
      rw [hother, if_neg hsame]
      exact Option.or_none

/-- The key under which the value of a key is found in the end. -/
def fieldKey (part : String) (key : Value) : Value :=
  match key with
  | .text name =>
    match (fieldNames part).find? (fun field => Text.lower name = field) with
    | some field => .text field
    | none => key
  | _ => key

lemma withFieldNames_eq (part : String) (entries : List (Value × Value)) :
    withFieldNames part entries =
      entries.foldl (fun done entry => store (fieldKey part entry.1) entry.2 done) [] := by
  rw [withFieldNames]
  congr 1
  funext done entry
  obtain ⟨key, v⟩ := entry
  cases key with
  | text s =>
    dsimp only [fieldKey]
    cases (fieldNames part).find? (fun field => Text.lower s = field) <;> rfl
  | _ => rfl

lemma distinctKeys_withFieldNames (part : String) (entries : List (Value × Value)) :
    DistinctKeys (withFieldNames part entries) := by
  rw [withFieldNames_eq]
  exact Value.distinctKeys_foldl_store _ _ _ Value.distinctKeys_nil

/-- Exactly the spellings of a field lead to it. -/
lemma fieldKey_sameKey (hmem : name ∈ fieldNames part) (hname : Text.lower name = name)
    (key : Value) : (fieldKey part key).sameKey (.text name) = spells name key := by
  rw [Bool.eq_iff_iff, sameKey_text_iff]
  cases key with
  | text s =>
    rw [fieldKey, spells, decide_eq_true_iff]
    split
    · rename_i field hfind
      have hfield : Text.lower s = field := by simpa using List.find?_some hfind
      rw [Value.text.injEq, hfield]
    · rename_i hfind
      have hother : Text.lower s ≠ name := by
        rintro rfl
        simpa using List.find?_eq_none.1 hfind _ hmem
      constructor
      · intro h
        obtain rfl := Value.text.inj h
        exact absurd hname hother
      · exact fun h => absurd h hother
  | _ => simp [fieldKey, spells]

/-- Under the name of a field its last value in any spelling is found. -/
lemma lookup?_withFieldNames (hmem : name ∈ fieldNames part) (hname : Text.lower name = name)
    (entries : List (Value × Value)) :
    lookup? (.text name) (withFieldNames part entries) = lastSpelled? name entries := by
  have hall : ∀ done, lookup? (.text name)
      (entries.foldl (fun done entry => store (fieldKey part entry.1) entry.2 done) done) =
        (lastSpelled? name entries).or (lookup? (.text name) done) := by
    induction entries with
    | nil => exact fun done => rfl
    | cons entry rest ih =>
      intro done
      rw [List.foldl_cons, ih, lookup?_store, fieldKey_sameKey hmem hname, lastSpelled?,
        Option.or_assoc]
      cases spells name entry.1 <;> rfl
  rw [withFieldNames_eq, hall, Value.lookup?_nil, Option.or_none]

end Nullability.Settings
