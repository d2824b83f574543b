import Nullability.Proofs.Outcome
import Nullability.Proofs.Settings.Spelling
import Nullability.Proofs.Text.LetterCase
import Nullability.Settings.Layers

/-!
# What variables give for a field

The variables for a section come to a mapping, in which a field is found under its own name. This
is the value of the variable for this field alone, if there is one, else the last value that the
JSON object of the section has for the field in any spelling (`ofVariables?`).

There is one case in which the variable for the field does not count: when the object gives the
field under its own name and once more behind that in another spelling. The value of the variable
then takes the place of the first one, and the second one takes its place in turn.
-/

namespace Nullability.Settings

open Value (lookup? store mergeEntries mergeUnder DistinctKeys sameKey_text_iff lookup?_store
  distinctKeys_store keys_store)

/-! ## Names of variables -/

section Names

lemma mem_of_mem_splitName {cs part : List Char} (h : part ∈ splitName cs) {c : Char}
    (hc : c ∈ part) : c ∈ cs := by
  fun_induction splitName cs generalizing part with
  | case1 rest ih =>
    obtain rfl | hrest := List.mem_cons.1 h
    · cases hc
    · exact List.mem_cons_of_mem _ (List.mem_cons_of_mem _ (ih hrest hc))
  | case2 d rest hno first more hsplit ih =>
    obtain rfl | hmore := List.mem_cons.1 h
    · obtain rfl | hfirst := List.mem_cons.1 hc
      · exact List.mem_cons_self
      · exact List.mem_cons_of_mem _ (ih (hsplit ▸ List.mem_cons_self) hfirst)
    · exact List.mem_cons_of_mem _ (ih (hsplit ▸ List.mem_cons_of_mem _ hmore) hc)
  | case3 d rest hno hsplit ih =>
    rw [List.mem_singleton.1 h] at hc
    rw [List.mem_singleton.1 hc]
    exact List.mem_cons_self
  | case4 =>
    rw [List.mem_singleton.1 h] at hc
    exact hc

lemma splitName_ne_nil (cs : List Char) : splitName cs ≠ [] := by
  fun_cases splitName cs <;> simp

/-- A name in one part is that part. -/
lemma eq_of_splitName {cs only : List Char} (h : splitName cs = [only]) : cs = only := by
  fun_induction splitName cs generalizing only with
  | case1 rest ih => exact absurd (List.tail_eq_of_cons_eq h) (splitName_ne_nil rest)
  | case2 d rest hno first more hsplit ih =>
    obtain ⟨rfl, rfl⟩ := List.cons.inj h
    rw [ih hsplit]
  | case3 d rest hno hsplit ih => exact absurd hsplit (splitName_ne_nil rest)
  | case4 => exact List.head_eq_of_cons_eq h

/-- The name of the variable for a field alone. -/
def fieldVariable (part name : String) : String :=
  variableStart ++ part ++ "__" ++ name

/-- What makes a text the name of a field: it is in plain small letters and in one part. -/
structure IsFieldName (name : String) : Prop where
  small : Text.lower name = name
  plain : ∀ d ∈ name.toList, Text.IsPlain d
  single : splitName name.toList = [name.toList]

lemma isFieldName_of_mem {part name : String} (hpart : part ∈ sectionKeys)
    (hname : name ∈ fieldNames part) : IsFieldName name := by
  have hall : (sectionKeys.all fun part => (fieldNames part).all fun name =>
      decide (Text.lower name = name) && name.toList.all (fun d => decide (Text.IsPlain d)) &&
        decide (splitName name.toList = [name.toList])) = true := by
    decide +kernel
  have hfacts := List.all_eq_true.1 (List.all_eq_true.1 hall part hpart) name hname
  simp only [Bool.and_eq_true, decide_eq_true_eq, List.all_eq_true] at hfacts
  exact ⟨hfacts.1.1, hfacts.1.2, hfacts.2⟩

lemma fieldKeys?_eq_iff {part name full : String} (h : IsFieldName name) :
    fieldKeys? part full = some [name] ↔ full = fieldVariable part name := by
  rw [fieldKeys?, fieldVariable]
  constructor
  · intro hkeys
    split at hkeys
    · rename_i hprefix
      obtain ⟨rest, hfull⟩ := List.isPrefixOf_iff_prefix.1 hprefix
      rw [← hfull, List.drop_left] at hkeys
      obtain ⟨only, honly, rfl⟩ := List.map_eq_singleton_iff.1 (Option.some.inj hkeys)
      rw [← String.toList_inj, String.toList_append, ← hfull, eq_of_splitName honly,
        String.toList_ofList]
    · cases hkeys
  · rintro rfl
    have hfull : (variableStart ++ part ++ "__" ++ name).toList =
        (variableStart ++ part ++ "__").toList ++ name.toList := String.toList_append
    rw [hfull, if_pos (List.isPrefixOf_iff_prefix.2 (List.prefix_append _ _)), List.drop_left,
      h.single, List.map_singleton, String.ofList_toList]

lemma isSmall_of_fieldKeys? {part full : String} {keys : List String}
    (h : fieldKeys? part full = some keys) (hsmall : Text.IsSmall full) :
    ∀ key ∈ keys, Text.IsSmall key := by
  rw [fieldKeys?] at h
  split at h
  · obtain rfl := Option.some.inj h
    intro key hkey d hd
    obtain ⟨cs, hcs, rfl⟩ := List.mem_map.1 hkey
    rw [String.toList_ofList] at hd
    exact hsmall d (List.mem_of_mem_drop (mem_of_mem_splitName hcs hd))
  · cases h

end Names

/-! ## Fields given one by one -/

section Fields

/-- Whether what is found is what is expected, or a mapping. No field is read from a mapping, so
there is no need to say which one. -/
def Agrees (found expected : Option Value) : Prop :=
  found = expected ∨ ∃ v, found = some v ∧ v.isMapping = true

lemma Agrees.refl (found : Option Value) : Agrees found found := .inl rfl

/-- What one layer gives counts before what lies below it. -/
lemma Agrees.layOver {found expected lower below : Option Value} (under : Option Value)
    (h : Agrees found expected) (hlower : Agrees lower below) :
    Agrees ((found.map (mergeUnder under)).or lower) (expected.or below) := by
  cases found with
  | none =>
    obtain rfl | ⟨v, hv, -⟩ := h
    · rw [Option.none_or]
      exact hlower
    · cases hv
  | some v =>
    obtain hsame | ⟨hmapping, hresult⟩ := Value.mergeUnder_eq_or under v
    · obtain rfl | ⟨w, hw, hmapping⟩ := h
      · exact .inl (congrArg some hsame)
      · exact .inr ⟨_, congrArg some hsame, Option.some.inj hw ▸ hmapping⟩
    · exact .inr ⟨_, rfl, hresult⟩

/-- Storing under keys stores the value or a mapping under the first one, or nothing. -/
lemma storeAt_cases (v : Value) (keys : List String) (entries : List (Value × Value)) :
    (storeAt v keys entries = entries ∧ ∀ key, keys ≠ [key]) ∨
      ∃ key more w, keys = key :: more ∧ storeAt v keys entries = store (.text key) w entries ∧
        (more = [] ∧ w = v ∨ more ≠ [] ∧ w.isMapping = true) := by
  fun_cases storeAt v keys entries with
  | case1 => exact .inl ⟨rfl, by simp⟩
  | case2 key => exact .inr ⟨key, [], v, rfl, rfl, .inl ⟨rfl, rfl⟩⟩
  | case3 key keys _ hmore => exact .inr ⟨key, keys, _, rfl, rfl, .inr ⟨hmore, rfl⟩⟩
  | case4 key keys _ hmore => exact .inl ⟨rfl, by simpa using hmore⟩
  | case5 key keys _ hmore => exact .inr ⟨key, keys, _, rfl, rfl, .inr ⟨hmore, rfl⟩⟩

/-- Storing under one key makes out what is found there, storing below it comes to a mapping. -/
lemma agrees_storeAt (v : Value) (keys : List String) {name : String}
    {entries : List (Value × Value)} {expected : Option Value}
    (h : Agrees (lookup? (.text name) entries) expected) :
    Agrees (lookup? (.text name) (storeAt v keys entries))
      (if keys = [name] then some v else expected) := by
  obtain ⟨hsame, hkeys⟩ | ⟨key, more, w, rfl, hstore, hw⟩ := storeAt_cases v keys entries
  · rw [hsame, if_neg (hkeys name)]
    exact h
  · rw [hstore, lookup?_store]
    by_cases hkey : key = name
    · rw [if_pos ((sameKey_text_iff _ _).2 (congrArg _ hkey))]
      obtain ⟨rfl, rfl⟩ | ⟨-, hmapping⟩ := hw
      · rw [if_pos (by rw [hkey])]
        exact .refl _
      · exact .inr ⟨w, rfl, hmapping⟩
    · have hother : ¬ (Value.text key).sameKey (.text name) = true := fun hsame =>
        hkey (Value.text.inj ((sameKey_text_iff _ _).1 hsame))
      rw [if_neg hother, if_neg fun hkeys => hkey (List.head_eq_of_cons_eq hkeys)]
      exact h

/-- Adds what one variable gives for a section. -/
def addVariable (part : String) (entries : List (Value × Value)) (full : String × String) :
    Except Failure (List (Value × Value)) :=
  match fieldKeys? part full.1 with
  | some keys => do return storeAt (← fieldValue part keys full.2) keys entries
  | none => return entries

lemma singleFields_eq (texts : List (String × String)) (part : String) :
    singleFields texts part = texts.foldlM (addVariable part) [] := rfl

variable {part name : String} {texts : List (String × String)}
  {entries fields : List (Value × Value)}

lemma addVariable_eq_ok {full : String × String} (h : addVariable part entries full = .ok fields) :
    (fieldKeys? part full.1 = none ∧ fields = entries) ∨
      ∃ keys v, fieldKeys? part full.1 = some keys ∧ fieldValue part keys full.2 = .ok v ∧
        fields = storeAt v keys entries := by
  rw [addVariable] at h
  split at h
  · rename_i keys hkeys
    obtain ⟨v, hv, hstore⟩ := Outcome.bind_eq_ok.1 h
    exact .inr ⟨keys, v, hkeys, hv, (Except.ok.inj hstore).symm⟩
  · rename_i hnone
    exact .inl ⟨hnone, (Except.ok.inj h).symm⟩

/-- Pairs as variables for single fields give them: no key comes twice, and all keys are texts of
small letters. -/
structure IsTidy (entries : List (Value × Value)) : Prop where
  distinct : DistinctKeys entries
  small : ∀ key ∈ entries.map Prod.fst, ∃ s, key = .text s ∧ Text.IsSmall s

lemma IsTidy.addVariable {full : String × String} (hsmall : Text.IsSmall full.1)
    (htidy : IsTidy entries) (h : addVariable part entries full = .ok fields) : IsTidy fields := by
  obtain ⟨-, rfl⟩ | ⟨keys, v, hkeys, -, rfl⟩ := addVariable_eq_ok h
  · exact htidy
  · obtain ⟨hsame, -⟩ | ⟨key, more, w, rfl, hstore, -⟩ := storeAt_cases v keys entries
    · rw [hsame]
      exact htidy
    · rw [hstore]
      refine ⟨distinctKeys_store htidy.distinct, fun k hk => ?_⟩
      obtain hold | ⟨-, hnew⟩ := keys_store (.text key) w entries
      · exact htidy.small k (hold ▸ hk)
      · rw [hnew, List.mem_append, List.mem_singleton] at hk
        obtain hk | rfl := hk
        · exact htidy.small k hk
        · exact ⟨key, rfl, isSmall_of_fieldKeys? hkeys hsmall key List.mem_cons_self⟩

lemma isTidy_of_foldlM (hsmall : ∀ full ∈ texts, Text.IsSmall full.1) (htidy : IsTidy entries)
    (h : texts.foldlM (addVariable part) entries = .ok fields) : IsTidy fields := by
  induction texts generalizing entries with
  | nil =>
    obtain rfl := Except.ok.inj h
    exact htidy
  | cons full rest ih =>
    rw [List.foldlM_cons] at h
    obtain ⟨next, hnext, hrest⟩ := Outcome.bind_eq_ok.1 h
    rw [List.forall_mem_cons] at hsmall
    exact ih hsmall.2 (htidy.addVariable hsmall.1 hnext) hrest

/-- The variable for a field alone makes out what is found for it; any other one leaves that as it
is or comes to a mapping. -/
lemma agrees_addVariable {full : String × String} {expected : Option Value}
    (hname : IsFieldName name) (h : addVariable part entries full = .ok fields)
    (hagrees : Agrees (lookup? (.text name) entries) expected) :
    Agrees (lookup? (.text name) fields)
      (if full.1 = fieldVariable part name then (fieldValue part [name] full.2).toOption
        else expected) := by
  obtain ⟨hnone, rfl⟩ | ⟨keys, v, hkeys, hv, rfl⟩ := addVariable_eq_ok h
  · have hother : full.1 ≠ fieldVariable part name := by
      intro hfull
      rw [(fieldKeys?_eq_iff hname).2 hfull] at hnone
      cases hnone
    rw [if_neg hother]
    exact hagrees
  · have hstored := agrees_storeAt v keys hagrees
    by_cases hfull : full.1 = fieldVariable part name
    · obtain rfl : keys = [name] :=
        Option.some.inj (hkeys.symm.trans ((fieldKeys?_eq_iff hname).2 hfull))
      rw [if_pos rfl] at hstored
      rw [if_pos hfull, hv]
      exact hstored
    · have hother : keys ≠ [name] := fun heq =>
        hfull ((fieldKeys?_eq_iff hname).1 (hkeys.trans (congrArg some heq)))
      rw [if_neg hother] at hstored
      rw [if_neg hfull]
      exact hstored

lemma agrees_of_foldlM {expected : Option Value} (hname : IsFieldName name)
    (hnodup : (Pairs.keys texts).Nodup) (h : texts.foldlM (addVariable part) entries = .ok fields)
    (hagrees : Agrees (lookup? (.text name) entries) expected) :
    Agrees (lookup? (.text name) fields)
      (match Pairs.get? (fieldVariable part name) texts with
        | some text => (fieldValue part [name] text).toOption
        | none => expected) := by
  induction texts generalizing entries expected with
  | nil =>
    obtain rfl := Except.ok.inj h
    exact hagrees
  | cons full rest ih =>
    rw [List.foldlM_cons] at h
    obtain ⟨next, hnext, hrest⟩ := Outcome.bind_eq_ok.1 h
    obtain ⟨hnew, hnodupRest⟩ := List.nodup_cons.1 hnodup
    have hfields := ih hnodupRest hrest (agrees_addVariable hname hnext hagrees)
    rw [Pairs.get?]
    by_cases hfull : full.1 = fieldVariable part name
    · -- no later variable has this name
      rw [Pairs.get?_eq_none_iff.2 (hfull ▸ hnew)] at hfields
      rw [if_pos hfull]
      simpa only [if_pos hfull] using hfields
    · rw [if_neg hfull]
      simpa only [if_neg hfull] using hfields

end Fields

/-! ## The variables for a section -/

section Sections

/-- The JSON object of the variable for a section; without one it is empty. -/
def jsonObject (texts : OrderedMap String String) (part : String) : List (Value × Value) :=
  match texts.get? (variableStart ++ part) with
  | some text =>
    match Json.read? text with
    | some (.mapping entries) => entries
    | _ => []
  | none => []

/-- Whether the variable for a section, if there is one, is a JSON object. -/
def isJsonObject (texts : OrderedMap String String) (part : String) : Bool :=
  (texts.get? (variableStart ++ part)).all (fun text => (Json.read? text).any Value.isMapping)

/-- The value of the variable for a field alone. -/
def ofVariable? (texts : OrderedMap String String) (part name : String) : Option Value :=
  (texts.get? (fieldVariable part name)).bind
    (fun text => (fieldValue part [name] text).toOption)

/-- The value that variables supply for a field: that of the variable for the field alone, else the
last one in the object of the section. It is the last one as well if the object respells the field
after having given it under its own name. -/
def ofVariables? (texts : OrderedMap String String) (part name : String) : Option Value :=
  let object := jsonObject texts part
  if isRespelled name object then lastSpelled? name object
  else (ofVariable? texts part name).or (lastSpelled? name object)

/-- Whether what is found for a section is nothing or a mapping in which no key comes twice. -/
def IsSection (found : Option Value) : Prop :=
  ∀ v, found = some v → ∃ entries, v = .mapping entries ∧ DistinctKeys entries

variable {part name : String} {texts : OrderedMap String String}

/-- What single variables give for a section. -/
lemma singleFields_facts {fields : List (Value × Value)}
    (hsmall : ∀ full ∈ texts.entries, Text.IsSmall full.1)
    (h : singleFields texts.entries part = .ok fields) :
    IsTidy fields ∧ ∀ name, IsFieldName name →
      Agrees (lookup? (.text name) fields) (ofVariable? texts part name) := by
  rw [singleFields_eq] at h
  refine ⟨isTidy_of_foldlM hsmall ⟨Value.distinctKeys_nil, by simp⟩ h, fun name hname => ?_⟩
  have hagrees := agrees_of_foldlM hname texts.nodup_keys h (.refl none)
  rw [ofVariable?, OrderedMap.get?]
  cases hget : Pairs.get? (fieldVariable part name) texts.entries <;> simpa [hget] using hagrees

lemma IsTidy.spelling {fields : List (Value × Value)} (htidy : IsTidy fields)
    (hname : IsFieldName name) :
    ∀ key ∈ fields.map Prod.fst, ∃ s, key = .text s ∧ (Text.lower s = name → s = name) := by
  intro key hkey
  obtain ⟨s, rfl, hsmall⟩ := htidy.small key hkey
  exact ⟨s, rfl, hsmall.eq_of_lower_eq hname.plain⟩

/-- What variables come to for a section: a mapping that has the fields they supply. -/
lemma sectionValue?_facts {found : Option Value}
    (hsmall : ∀ full ∈ texts.entries, Text.IsSmall full.1) (hpart : part ∈ sectionKeys)
    (hobject : isJsonObject texts part = true) (h : sectionValue? texts part = .ok found) :
    IsSection found ∧ ∀ name ∈ fieldNames part,
      Agrees (found.bind (Value.field? name)) (ofVariables? texts part name) := by
  rw [sectionValue?] at h
  split at h
  · rename_i text htext
    have hany : (Json.read? text).any Value.isMapping = true := by
      simpa [isJsonObject, htext] using hobject
    obtain ⟨v, hread, hmapping⟩ := (Option.any_eq_true _ _).1 hany
    obtain ⟨object, rfl⟩ := Value.isMapping_iff.1 hmapping
    rw [hread] at h
    obtain ⟨fields, hfields, hfound⟩ := Outcome.bind_eq_ok.1 h
    obtain rfl := Except.ok.inj hfound
    refine ⟨fun v hv => ⟨_, (Option.some.inj hv).symm, distinctKeys_withFieldNames _ _⟩,
      fun name hmem => ?_⟩
    obtain ⟨htidy, hsingle⟩ := singleFields_facts hsmall hfields
    have hname := isFieldName_of_mem hpart hmem
    have hjson : jsonObject texts part = object := by simp [jsonObject, htext, hread]
    rw [Option.bind_some, Value.field?, lookup?_withFieldNames hmem hname.small,
      lastSpelled?_mergeEntries hname.small htidy.distinct (htidy.spelling hname), ofVariables?,
      hjson]
    split
    · exact .refl _
    · exact (hsingle name hname).layOver _ (.refl _)
  · rename_i hnone
    obtain ⟨fields, hfields, hfound⟩ := Outcome.bind_eq_ok.1 h
    obtain rfl := Except.ok.inj hfound
    obtain ⟨htidy, hsingle⟩ := singleFields_facts hsmall hfields
    have hvariables : ∀ name, ofVariables? texts part name = ofVariable? texts part name := by
      intro name
      have hjson : jsonObject texts part = [] := by simp [jsonObject, hnone]
      rw [ofVariables?, hjson]
      exact Option.or_none
    split
    · rename_i hempty
      obtain rfl := List.isEmpty_iff.1 hempty
      refine ⟨fun v hv => absurd hv (by simp), fun name hmem => ?_⟩
      rw [hvariables]
      exact hsingle name (isFieldName_of_mem hpart hmem)
    · refine ⟨fun v hv => ⟨_, (Option.some.inj hv).symm, distinctKeys_withFieldNames _ _⟩,
        fun name hmem => ?_⟩
      have hname := isFieldName_of_mem hpart hmem
      rw [hvariables, Option.bind_some, Value.field?, lookup?_withFieldNames hmem hname.small,
        lastSpelled?_eq_lookup? hname.small htidy.distinct (htidy.spelling hname)]
      exact hsingle name hname

end Sections

/-! ## The layer of the variables -/

section Layer

lemma isSmall_lowerVariables (env : Environment) :
    ∀ full ∈ (lowerVariables env).entries, Text.IsSmall full.1 := by
  intro full hfull
  have hkey : full.1 ∈ (lowerVariables env).keys := List.mem_map_of_mem hfull
  rw [lowerVariables, OrderedMap.ofList,
    OrderedMap.keys_foldl_insert Prod.fst (fun _ entry => entry.2), List.mem_append,
    List.mem_eraseDups, List.mem_filter] at hkey
  obtain hnone | ⟨hmem, -⟩ := hkey
  · exact absurd hnone List.not_mem_nil
  · obtain ⟨lowered, hlowered, hfirst⟩ := List.mem_map.1 hmem
    obtain ⟨entry, -, rfl⟩ := List.mem_map.1 hlowered
    rw [← hfirst]
    exact Text.isSmall_lower entry.1

/-- Sections that were found one by one make up pairs in which each is found under its key. -/
lemma exists_entries_of_sections {find : String → Except Failure (Option Value)}
    {keys : List String} {sections : List (Option (Value × Given))}
    (h : List.Forall₂ (fun key found => ∃ given, find key = .ok given ∧
      found = given.map (fun v => (Value.text key, Given.value v))) keys sections)
    (hnodup : keys.Nodup) :
    ∃ entries, sections.filterMap id = Layer.ofEntries entries ∧ DistinctKeys entries ∧
      (∀ k ∈ entries.map Prod.fst, ∃ key ∈ keys, k = .text key) ∧
      ∀ key ∈ keys, find key = .ok (lookup? (.text key) entries) := by
  induction h with
  | nil => exact ⟨[], rfl, Value.distinctKeys_nil, by simp, by simp⟩
  | @cons key found keys sections hfirst hrest ih =>
    obtain ⟨given, hfind, rfl⟩ := hfirst
    obtain ⟨hnew, hnodupRest⟩ := List.nodup_cons.1 hnodup
    obtain ⟨entries, hentries, hdistinct, hkeys, hall⟩ := ih hnodupRest
    have hother : .text key ∉ entries.map Prod.fst := by
      intro hmem
      obtain ⟨other, hmemOther, heq⟩ := hkeys _ hmem
      exact hnew (Value.text.inj heq ▸ hmemOther)
    have hkeysRest : ∀ k ∈ entries.map Prod.fst, ∃ other ∈ key :: keys, k = .text other := by
      intro k hk
      obtain ⟨other, hmemOther, heq⟩ := hkeys k hk
      exact ⟨other, List.mem_cons_of_mem _ hmemOther, heq⟩
    cases given with
    | none =>
      refine ⟨entries, hentries, hdistinct, hkeysRest, List.forall_mem_cons.2 ⟨?_, hall⟩⟩
      rw [hfind, Value.lookup?_eq_none hother]
    | some v =>
      refine ⟨(.text key, v) :: entries, congrArg _ hentries, ?_, ?_, ?_⟩
      · refine List.pairwise_cons.2 ⟨fun k hk => Bool.eq_false_iff.2 fun hsame => ?_, hdistinct⟩
        exact hother ((Value.text_sameKey_iff key k).1 hsame ▸ hk)
      · exact List.forall_mem_cons.2 ⟨⟨key, List.mem_cons_self, rfl⟩, hkeysRest⟩
      · refine List.forall_mem_cons.2 ⟨?_, fun other hmem => ?_⟩
        · rw [hfind, Value.lookup?_text_cons, if_pos rfl]
        · have hne : key ≠ other := fun heq => hnew (heq ▸ hmem)
          rw [hall other hmem, Value.lookup?_text_cons, if_neg hne]

/-- What all variables come to. -/
lemma variableLayer_facts {env : Environment} {layer : Layer} (h : variableLayer env = .ok layer) :
    ∃ entries, layer = Layer.ofEntries entries ∧ DistinctKeys entries ∧ ∀ part ∈ sectionKeys,
      sectionValue? (lowerVariables env) part = .ok (lookup? (.text part) entries) := by
  obtain ⟨sections, hsections, hlayer⟩ := Outcome.bind_eq_ok.1 h
  have hfound : List.Forall₂ (fun key found => ∃ given,
      sectionValue? (lowerVariables env) key = .ok given ∧
        found = given.map (fun v => (Value.text key, Given.value v))) sectionKeys sections := by
    refine (Outcome.mapM_eq_ok.1 hsections).imp fun key found hfind => ?_
    obtain ⟨given, hv, hok⟩ := Outcome.bind_eq_ok.1 hfind
    exact ⟨given, hv, (Except.ok.inj hok).symm⟩
  obtain ⟨entries, hentries, hdistinct, -, hall⟩ :=
    exists_entries_of_sections hfound (by decide)
  exact ⟨entries, (Except.ok.inj hlayer).symm.trans hentries, hdistinct, hall⟩

end Layer

end Nullability.Settings
