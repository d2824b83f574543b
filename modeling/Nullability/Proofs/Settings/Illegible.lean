import Nullability.Proofs.Settings.Homes
import Nullability.Proofs.Settings.Meeting

/-!
# Sources that cannot be read

Loading settings may end with a failure that is no fault of settings (`Settings.Escapes`). The
sources by themselves do so in a few ways: a file that the system tells nothing about, one that is no
UTF-8, or one that writes a value which does not exist (`Settings.IllegibleFile`); two files whose
merging has no end (`Settings.MeetEndlessly`); and a variable that should be JSON and is not
(`Settings.IllegibleVariable`).
-/

namespace Nullability

/-- Whether a failure is a fault of settings. -/
def Failure.isSettingsFault : Failure → Bool
  | .fault reported => reported.family = .settings
  | _ => false

namespace Settings

/-- Whether a computation gives a result or a fault of settings. -/
def isTyped {α : Type} (x : Except Failure α) : Bool :=
  match x with
  | .ok _ => true
  | .error failure => failure.isSettingsFault

/-- Whether a computation ends with a failure that is no fault of settings. -/
def Escapes {α : Type} (x : Except Failure α) (failure : Failure) : Prop :=
  x = .error failure ∧ failure.isSettingsFault = false

section Escapes

variable {α β : Type} {failure : Failure}

lemma escapes_bind {x : Except Failure α} {next : α → Except Failure β} :
    Escapes (x >>= next) failure ↔
      Escapes x failure ∨ ∃ a, x = .ok a ∧ Escapes (next a) failure := by
  rw [Escapes, Outcome.bind_eq_error, or_and_right]
  refine or_congr_right ⟨?_, ?_⟩
  · rintro ⟨⟨a, ha, hnext⟩, hfault⟩
    exact ⟨a, ha, hnext, hfault⟩
  · rintro ⟨a, ha, hnext, hfault⟩
    exact ⟨⟨a, ha, hnext⟩, hfault⟩

lemma not_escapes_ok {a : α} : ¬ Escapes (.ok a : Except Failure α) failure := by
  rintro ⟨h, -⟩
  cases h

lemma not_escapes_fault {fault : Fault} (h : fault.family = .settings) :
    ¬ Escapes (.error (.fault fault) : Except Failure α) failure := by
  rintro ⟨herror, hfault⟩
  obtain rfl := Except.error.inj herror
  rw [Failure.isSettingsFault, h] at hfault
  cases of_decide_eq_false hfault rfl

lemma isTyped_iff {x : Except Failure α} :
    isTyped x = true ↔ ∀ failure, ¬ Escapes x failure := by
  cases x with
  | ok a => exact ⟨fun _ failure => not_escapes_ok, fun _ => rfl⟩
  | error failure =>
    constructor
    · rintro htyped _ ⟨herror, hfault⟩
      obtain rfl := Except.error.inj herror
      rw [isTyped, hfault] at htyped
      cases htyped
    · intro h
      by_contra hfault
      exact h failure ⟨rfl, Bool.eq_false_iff.2 hfault⟩

end Escapes

/-! ## Files -/

section Files

variable {tree : FileTree} {path common : Path} {named : Option Path} {content : List UInt8}
  {failure : Failure}

/-- Why the content of a settings file cannot be read although nothing need be wrong with its
syntax. -/
inductive Illegible (path : Path) (content : List UInt8) : Failure → Prop where
  | undecodable (h : Text.ofUtf8? content = none) : Illegible path content .undecodable
  /-- A scalar of the document writes a value that does not exist, a number that is too large to
  count, or itself. -/
  | scalar {text : String} {refusal : Yaml.Refusal} (htext : Text.ofUtf8? content = some text)
    (hread : Yaml.read text = .error refusal) (hrefusal : refusal ≠ .malformed) :
    Illegible path content (refusedFile path refusal)

lemma escapes_documentOfContent_iff :
    Escapes (documentOfContent path content) failure ↔ Illegible path content failure := by
  constructor
  · intro h
    rw [documentOfContent] at h
    split at h
    · rename_i hnone
      obtain rfl := Except.error.inj h.1
      exact .undecodable hnone
    · rename_i text htext
      split at h
      · rename_i refusal hread
        obtain rfl := Except.error.inj h.1
        refine .scalar htext hread ?_
        rintro rfl
        exact not_escapes_fault rfl h
      · split at h
        · exact absurd h not_escapes_ok
        · exact absurd h not_escapes_ok
        · exact absurd h (not_escapes_fault rfl)
  · rintro (hnone | @⟨text, refusal, htext, hread, hrefusal⟩)
    · rw [documentOfContent, hnone]
      exact ⟨rfl, rfl⟩
    · rw [documentOfContent, htext]
      simp only [hread]
      refine ⟨rfl, ?_⟩
      cases refusal with
      | malformed => exact absurd rfl hrefusal
      | _ => rfl

/-- Why a settings file cannot be read although nothing need be wrong with its syntax. -/
inductive IllegibleFile (tree : FileTree) (path : Path) : Failure → Prop where
  /-- The system does not tell whether there is a file. -/
  | denied {denial : FileTree.Denial} (h : tree.denial? path = some denial) :
    IllegibleFile tree path denial.failure
  | content {content : List UInt8} {failure : Failure} (hfile : tree.asksFile path = .ok true)
    (hread : tree.read path = .ok content) (h : Illegible path content failure) :
    IllegibleFile tree path failure

lemma escapes_asksFile_iff : Escapes (tree.asksFile path) failure ↔
    ∃ denial, tree.denial? path = some denial ∧ denial.failure = failure := by
  rw [Escapes, FileTree.asksFile_eq_error]
  refine and_iff_left_of_imp ?_
  rintro ⟨denial, -, rfl⟩
  cases denial <;> rfl

/-- What is a file can be read. -/
lemma exists_read_of_asksFile (h : tree.asksFile path = .ok true) :
    ∃ content, tree.read path = .ok content := by
  obtain ⟨place, content, hplace, hcontent⟩ :=
    FileTree.exists_contentAt_of_isFile (FileTree.asksFile_eq_ok.1 h).2
  exact ⟨content, FileTree.read_of_contentAt hplace hcontent⟩

lemma escapes_documentOfFile_iff :
    Escapes (documentOfFile tree path) failure ↔ IllegibleFile tree path failure := by
  rw [documentOfFile, escapes_bind, escapes_asksFile_iff]
  constructor
  · rintro (⟨denial, hdenial, rfl⟩ | ⟨isThere, hfile, h⟩)
    · exact .denied hdenial
    · split at h
      · rename_i hthere
        obtain rfl : isThere = true := hthere
        obtain ⟨content, hread⟩ := exists_read_of_asksFile hfile
        rw [hread] at h
        exact .content hfile hread (escapes_documentOfContent_iff.1 h)
      · exact absurd h not_escapes_ok
  · rintro (hdenial | ⟨hfile, hread, hillegible⟩)
    · exact .inl ⟨_, hdenial, rfl⟩
    · refine .inr ⟨true, hfile, ?_⟩
      rw [if_pos rfl, hread]
      exact escapes_documentOfContent_iff.2 hillegible

lemma escapes_mergedDocuments_iff {lower upper : Yaml.Document} :
    Escapes (mergedDocuments lower upper) failure ↔
      failure = .endless ∧ MeetEndlessly lower upper lower.root upper.root := by
  rw [mergedDocuments, ← meet_iff_meetEndlessly]
  split
  · rename_i hmeet
    rw [and_iff_left hmeet]
    constructor
    · exact fun h => (Except.error.inj h.1).symm
    · rintro rfl
      exact ⟨rfl, rfl⟩
  · rename_i hmeet
    exact ⟨fun h => absurd h not_escapes_ok, fun h => absurd h.2 hmeet⟩

/-- Nothing is merged endlessly with a file that is not there. -/
lemma asksFile_of_meetEndlessly {lower upper : Yaml.Document}
    (hupper : documentOfFile tree path = .ok upper)
    (h : MeetEndlessly lower upper lower.root upper.root) : tree.asksFile path = .ok true := by
  obtain ⟨isThere, hfile, hdocument⟩ := Outcome.bind_eq_ok.1 hupper
  split at hdocument
  · rename_i hthere
    rw [hfile, hthere]
  · obtain rfl := Except.ok.inj hdocument
    obtain ⟨way, hstart, hway⟩ := h
    have hzero := (hway 0).meet_zero
    rw [hstart] at hzero
    obtain ⟨-, others, hothers⟩ := meet_zero.1 hzero
    cases hothers

/-- Of two files the one for all programs is read first. -/
lemma escapes_entriesOfFiles_iff :
    Escapes (entriesOfFiles tree common named) failure ↔ IllegibleFile tree common failure ∨
      ∃ lower path, documentOfFile tree common = .ok lower ∧ named = some path ∧
        (IllegibleFile tree path failure ∨ failure = .endless ∧ ∃ upper,
          documentOfFile tree path = .ok upper ∧
            MeetEndlessly lower upper lower.root upper.root) := by
  rw [entriesOfFiles, escapes_bind, escapes_documentOfFile_iff]
  refine or_congr_right ⟨?_, ?_⟩
  · rintro ⟨lower, hlower, h⟩
    cases named with
    | none => exact absurd h not_escapes_ok
    | some path =>
      refine ⟨lower, path, hlower, rfl, ?_⟩
      obtain hdenied | ⟨isThere, hfile, h⟩ := escapes_bind.1 h
      · obtain ⟨denial, hdenial, rfl⟩ := escapes_asksFile_iff.1 hdenied
        exact .inl (.denied hdenial)
      · split at h
        · obtain hfile | ⟨upper, hupper, h⟩ := escapes_bind.1 h
          · exact .inl (escapes_documentOfFile_iff.1 hfile)
          · obtain ⟨rfl, hmeet⟩ := escapes_mergedDocuments_iff.1 h
            exact .inr ⟨rfl, upper, hupper, hmeet⟩
        · exact absurd h (not_escapes_fault rfl)
  · rintro ⟨lower, path, hlower, rfl, h⟩
    refine ⟨lower, hlower, escapes_bind.2 ?_⟩
    obtain (hdenial | ⟨hfile, hread, hillegible⟩) | ⟨rfl, upper, hupper, hmeet⟩ := h
    · exact .inl (escapes_asksFile_iff.2 ⟨_, hdenial, rfl⟩)
    · refine .inr ⟨true, hfile, ?_⟩
      rw [if_pos rfl, escapes_bind, escapes_documentOfFile_iff]
      exact .inl (.content hfile hread hillegible)
    · refine .inr ⟨true, asksFile_of_meetEndlessly hupper hmeet, ?_⟩
      rw [if_pos rfl, escapes_bind]
      exact .inr ⟨upper, hupper, escapes_mergedDocuments_iff.2 ⟨rfl, hmeet⟩⟩

end Files

/-! ## Variables -/

section Variables

variable {env : Environment} {texts : OrderedMap String String} {part : String} {failure : Failure}

/-- Whether a variable for a section should be JSON and is not: the one for the section itself, or
the one for the outputs of the log. The latter is looked at unless the former gives something else
than an object. -/
def IllegibleVariable (texts : OrderedMap String String) (part : String) : Prop :=
  (∃ text, texts.get? (variableStart ++ part) = some text ∧ Json.read? text = none) ∨
    part = "logging" ∧ isJsonObject texts part = true ∧
      ∃ text, texts.get? (fieldVariable "logging" "outputs") = some text ∧ text.isEmpty = false ∧
        Json.read? text = none

lemma fieldValue_eq_error {keys : List String} {text : String} :
    fieldValue part keys text = .error failure ↔ failure = .badEnvironment ∧
      isJsonField part keys = true ∧ text.isEmpty = false ∧ Json.read? text = none := by
  rw [fieldValue]
  split
  · rename_i hjson
    rw [Bool.and_eq_true, Bool.not_eq_true'] at hjson
    split
    · rename_i v hread
      simp [hread]
    · rename_i hread
      rw [Except.error.injEq]
      exact ⟨fun h => ⟨h.symm, hjson.1, hjson.2, hread⟩, fun h => h.1.symm⟩
  · rename_i hplain
    refine ⟨fun h => (by cases h), ?_⟩
    rintro ⟨-, hfield, hfilled, -⟩
    rw [hfield, hfilled] at hplain
    exact absurd rfl hplain

lemma addVariable_eq_error {entries : List (Value × Value)} {full : String × String} :
    addVariable part entries full = .error failure ↔ failure = .badEnvironment ∧
      part = "logging" ∧ full.1 = fieldVariable "logging" "outputs" ∧ full.2.isEmpty = false ∧
        Json.read? full.2 = none := by
  have houtputs : IsFieldName "outputs" :=
    @isFieldName_of_mem "logging" "outputs" (by decide) (by decide)
  rw [addVariable]
  split
  · rename_i keys hkeys
    rw [Outcome.bind_eq_error, fieldValue_eq_error, isJsonField, Bool.and_eq_true,
      decide_eq_true_iff, decide_eq_true_iff]
    constructor
    · rintro (⟨rfl, ⟨rfl, rfl⟩, hfilled, hread⟩ | ⟨v, -, hok⟩)
      · exact ⟨rfl, rfl, (fieldKeys?_eq_iff houtputs).1 hkeys, hfilled, hread⟩
      · cases hok
    · rintro ⟨rfl, rfl, hname, hfilled, hread⟩
      rw [(fieldKeys?_eq_iff houtputs).2 hname] at hkeys
      exact .inl ⟨rfl, ⟨rfl, (Option.some.inj hkeys).symm⟩, hfilled, hread⟩
  · rename_i hnone
    refine ⟨fun h => (by cases h), ?_⟩
    rintro ⟨-, rfl, hname, -⟩
    rw [(fieldKeys?_eq_iff houtputs).2 hname] at hnone
    cases hnone

lemma foldlM_addVariable_eq_error {pairs : List (String × String)}
    {entries : List (Value × Value)} :
    pairs.foldlM (addVariable part) entries = .error failure ↔ failure = .badEnvironment ∧
      part = "logging" ∧ ∃ text, (fieldVariable "logging" "outputs", text) ∈ pairs ∧
        text.isEmpty = false ∧ Json.read? text = none := by
  induction pairs generalizing entries with
  | nil =>
    refine ⟨fun h => (by cases h), ?_⟩
    rintro ⟨-, -, text, hmem, -⟩
    cases hmem
  | cons full rest ih =>
    rw [List.foldlM_cons, Outcome.bind_eq_error, addVariable_eq_error]
    constructor
    · rintro (⟨rfl, rfl, hname, hfilled, hread⟩ | ⟨next, -, hrest⟩)
      · refine ⟨rfl, rfl, full.2, ?_, hfilled, hread⟩
        rw [← hname]
        exact List.mem_cons_self
      · obtain ⟨rfl, rfl, text, hmem, htext⟩ := ih.1 hrest
        exact ⟨rfl, rfl, text, List.mem_cons_of_mem _ hmem, htext⟩
    · rintro ⟨rfl, rfl, text, hmem, hfilled, hread⟩
      cases hfirst : addVariable "logging" entries full with
      | error failure =>
        obtain ⟨rfl, -, htext⟩ := addVariable_eq_error.1 hfirst
        exact .inl ⟨rfl, rfl, htext⟩
      | ok next =>
        rcases List.mem_cons.1 hmem with hnow | hrest
        · -- This variable has just been added.
          have herror : addVariable "logging" entries full = .error .badEnvironment := by
            rw [← hnow]
            exact addVariable_eq_error.2 ⟨rfl, rfl, rfl, hfilled, hread⟩
          rw [herror] at hfirst
          cases hfirst
        · exact .inr ⟨next, rfl, ih.2 ⟨rfl, rfl, text, hrest, hfilled, hread⟩⟩

lemma singleFields_eq_error :
    singleFields texts.entries part = .error failure ↔ failure = .badEnvironment ∧
      part = "logging" ∧ ∃ text, texts.get? (fieldVariable "logging" "outputs") = some text ∧
        text.isEmpty = false ∧ Json.read? text = none := by
  rw [singleFields_eq, foldlM_addVariable_eq_error]
  simp only [texts.mem_entries_iff]

lemma sectionValue?_eq_error :
    sectionValue? texts part = .error failure ↔
      failure = .badEnvironment ∧ IllegibleVariable texts part := by
  have hbind : ∀ {next : List (Value × Value) → Except Failure (Option Value)},
      (∀ fields failure, next fields ≠ .error failure) →
        ((singleFields texts.entries part >>= next) = .error failure ↔
          singleFields texts.entries part = .error failure) := by
    intro next hnext
    rw [Outcome.bind_eq_error]
    refine ⟨?_, .inl⟩
    rintro (hfields | ⟨fields, -, hok⟩)
    · exact hfields
    · exact absurd hok (hnext fields failure)
  rw [sectionValue?, IllegibleVariable, isJsonObject]
  cases texts.get? (variableStart ++ part) with
  | none =>
    dsimp only
    rw [hbind (by rintro fields failure ⟨⟩), singleFields_eq_error]
    simp
  | some text =>
    dsimp only
    cases hread : Json.read? text with
    | none =>
      constructor
      · intro h
        exact ⟨(Except.error.inj h).symm, .inl ⟨text, rfl, hread⟩⟩
      · rintro ⟨rfl, -⟩
        rfl
    | some v =>
      cases v with
      | mapping entries =>
        dsimp only
        rw [hbind (by rintro fields failure ⟨⟩), singleFields_eq_error]
        simp [hread, Value.isMapping]
      | _ => simp [hread, Value.isMapping]

lemma variableLayer_eq_error :
    variableLayer env = .error failure ↔ failure = .badEnvironment ∧
      ∃ part ∈ sectionKeys, IllegibleVariable (lowerVariables env) part := by
  rw [variableLayer, Outcome.bind_eq_error]
  constructor
  · rintro (hsections | ⟨sections, -, hok⟩)
    · obtain ⟨part, hpart, hfind⟩ := Outcome.exists_of_mapM_eq_error hsections
      rcases Outcome.bind_eq_error.1 hfind with hvalue | ⟨given, -, hok⟩
      · obtain ⟨rfl, hillegible⟩ := sectionValue?_eq_error.1 hvalue
        exact ⟨rfl, part, hpart, hillegible⟩
      · cases hok
    · cases hok
  · rintro ⟨rfl, part, hpart, hillegible⟩
    have hvalue := sectionValue?_eq_error.2 ⟨rfl, hillegible⟩
    refine .inl ?_
    cases hsections : sectionKeys.mapM (fun key => do
        return (← sectionValue? (lowerVariables env) key).map
          (fun v => (Value.text key, Given.value v))) with
    | error failure =>
      obtain ⟨other, -, hfind⟩ := Outcome.exists_of_mapM_eq_error hsections
      rcases Outcome.bind_eq_error.1 hfind with hother | ⟨given, -, hok⟩
      · rw [(sectionValue?_eq_error.1 hother).1]
      · cases hok
    | ok sections =>
      obtain ⟨given, -, hfind⟩ := Outcome.exists_result hsections hpart
      rw [hvalue] at hfind
      cases hfind

/-- All that variables give has texts as keys. -/
lemma exists_entries_of_variableLayer {layer : Layer} (h : variableLayer env = .ok layer) :
    ∃ entries, layer = Layer.ofEntries entries ∧
      ∀ key ∈ entries.map Prod.fst, ∃ s, key = .text s := by
  obtain ⟨entries, rfl, -⟩ := variableLayer_facts h
  refine ⟨entries, rfl, fun key hkey => ?_⟩
  obtain ⟨entry, hentry, rfl⟩ := List.mem_map.1 hkey
  obtain ⟨sections, hsections, hlayer⟩ := Outcome.bind_eq_ok.1 h
  have hmem : (entry.1, Given.value entry.2) ∈ sections.filterMap id := by
    rw [Except.ok.inj hlayer]
    exact List.mem_map_of_mem hentry
  obtain ⟨found, hfound, hsome⟩ := List.mem_filterMap.1 hmem
  obtain ⟨part, -, hfind⟩ := Outcome.exists_item hsections hfound
  obtain ⟨given, -, hok⟩ := Outcome.bind_eq_ok.1 hfind
  obtain rfl := Except.ok.inj hok
  obtain ⟨v, -, hv⟩ := Option.map_eq_some_iff.1 hsome
  exact ⟨part, (Prod.mk.inj hv).1.symm⟩

end Variables

end Settings

end Nullability
