import Nullability.Proofs.AnnotationMap.Compaction
import Nullability.Proofs.AnnotationMap.KindIsolation
import Nullability.Proofs.Baseline.Ending

/-!
# Where documents are installed, and how often

What a baseline answers should depend on what its documents say, and not on where they are
installed, in how many copies, and hence in which order they are merged. If no key is used for
members of two kinds, a merged map answers just what some document states
(`answers_foldl_iff_states`), which leaves no room for order or number. So two baselines that are
made from the same contents answer alike, or fail alike: there is no document on either side, or no
annotation (`createAt_alike`).
-/

namespace Nullability

open Xml (Element)

namespace AnnotationMap

variable {elements others : List Element}

/-! ## Elements in any order -/

/-- What is known in an entry was stated, since documents do not say of a parameter that it is not
annotated. -/
lemma exists_states_of_get? {key : String} {facts : MemberFacts}
    (h : (elements.foldl mergeMember .empty).get? key = some facts)
    (hfacts : facts.isEmpty = false) :
    ∃ element ∈ elements, ∃ aspect, states element aspect = true := by
  cases hannotated : facts.isAnnotated with
  | true =>
    obtain ⟨old, hold, -⟩ | ⟨element, hmem, -, hmarked⟩ := (isAnnotated_iff h).1 hannotated
    · cases hold
    · exact ⟨element, hmem, .value, hmarked⟩
  | false =>
    have hparameters : facts.parameters.entries ≠ [] := by
      intro hnil
      have hempty : facts.isEmpty = true :=
        MemberFacts.isEmpty_iff.2 ⟨hannotated, List.isEmpty_iff.2 hnil⟩
      rw [hfacts] at hempty
      cases hempty
    obtain ⟨⟨name, flag⟩, hentry⟩ := List.exists_mem_of_ne_nil _ hparameters
    have hname : facts.parameters.get? name = some flag :=
      (OrderedMap.mem_entries_iff _ _ _).1 hentry
    cases flag with
    | true =>
      obtain ⟨old, hold, -⟩ | ⟨element, hmem, -, hparameter⟩ :=
        (annotatedParameter_iff h name).1 hname
      · cases hold
      · exact ⟨element, hmem, .parameter (some name), decide_eq_true hparameter⟩
    | false =>
      obtain ⟨⟨old, hold, -⟩, -⟩ := (plainParameter_iff h name).1 hname
      cases hold

lemma answers_of_isEmpty {m : AnnotationMap} (h : m.isEmpty = true) (id : MemberId)
    (aspect : Aspect) : m.answers id aspect = false := by
  have hentries : m.entries = [] := List.isEmpty_iff.1 h
  have hnone : m.get? id.key = none := by
    rw [OrderedMap.get?, hentries]
    rfl
  cases aspect with
  | _ => simp only [answers, find?, hnone, Option.filter_none]

/-- Nothing is left of a merged map just if nothing is stated. -/
lemma isEmpty_compact_foldl_iff :
    (elements.foldl mergeMember .empty).compact.isEmpty = true ↔
      ∀ element ∈ elements, ∀ aspect, states element aspect = false := by
  constructor
  · intro hempty element hmem aspect
    by_contra hstates
    obtain ⟨first, -, -, hkind⟩ := exists_firstKind? hmem
    -- The map answers for the first kind, but an empty one answers nothing.
    have hanswers := (answers_foldl_iff ⟨(idOf first).kind, (idOf element).key⟩ aspect).2
      ⟨hkind, element, hmem, rfl, Bool.eq_true_of_not_eq_false hstates⟩
    rw [← answers_compact, answers_of_isEmpty hempty] at hanswers
    cases hanswers
  · intro hsilent
    by_contra hnonempty
    have hentries : (elements.foldl mergeMember .empty).compact.entries ≠ [] := by
      intro hnil
      exact hnonempty (List.isEmpty_iff.2 hnil)
    obtain ⟨⟨key, facts⟩, hentry⟩ := List.exists_mem_of_ne_nil _ hentries
    have hget := (OrderedMap.mem_entries_iff _ _ _).1 hentry
    rw [get?_compact, Option.filter_eq_some_iff] at hget
    obtain ⟨element, hmem, aspect, hstates⟩ :=
      exists_states_of_get? hget.1 (isEmpty_of_mem_compact hentry)
    rw [hsilent element hmem aspect] at hstates
    cases hstates

/-- Neither the order of elements nor their number shows in the answers. -/
lemma answers_compact_foldl_congr (h : OneKindPerKey elements)
    (hsame : ∀ element, element ∈ elements ↔ element ∈ others) (id : MemberId) (aspect : Aspect) :
    (elements.foldl mergeMember .empty).compact.answers id aspect =
      (others.foldl mergeMember .empty).compact.answers id aspect := by
  have hothers : OneKindPerKey others := by
    intro element hmem other hother
    exact h element ((hsame element).2 hmem) other ((hsame other).2 hother)
  rw [answers_compact, answers_compact, Bool.eq_iff_iff, answers_foldl_iff_states h,
    answers_foldl_iff_states hothers]
  simp only [hsame]

lemma isEmpty_compact_foldl_congr (hsame : ∀ element, element ∈ elements ↔ element ∈ others) :
    (elements.foldl mergeMember .empty).compact.isEmpty =
      (others.foldl mergeMember .empty).compact.isEmpty := by
  rw [Bool.eq_iff_iff, isEmpty_compact_foldl_iff, isEmpty_compact_foldl_iff]
  simp only [hsame]

lemma answersSymbol_congr {m m' : AnnotationMap}
    (h : ∀ id aspect, m.answers id aspect = m'.answers id aspect) (symbol : Symbol)
    (appliesToItem : Bool) :
    m.answersSymbol symbol appliesToItem = m'.answersSymbol symbol appliesToItem := by
  rw [answersSymbol, answersSymbol]
  cases symbol.member? with
  | none => rfl
  | some id => exact h id _

/-! ## Documents -/

/-- The member elements of the document that some bytes hold, if it can be read to its end. -/
def membersIn? (bytes : List UInt8) : Option (List Element) :=
  match Element.ofBytes bytes with
  | .error _ => none
  | .ok root => if (readDocument root).fault.isNone then some (members [root]) else none

/-- A document that can be read merges as its member elements do. -/
lemma loadOutcome_of_membersIn? {bytes : List UInt8} (h : membersIn? bytes = some elements)
    (m : AnnotationMap) (source : String) :
    m.loadOutcome source bytes = .ok (elements.foldl mergeMember m) := by
  rw [membersIn?] at h
  split at h
  · cases h
  · rename_i root hroot
    split at h
    · rename_i hfault
      obtain rfl := Option.some.inj h
      have hmerge : m.mergeDocument root = ((m.mergeDocument root).1, none) :=
        Prod.ext rfl (Option.isNone_iff_eq_none.1 hfault)
      have hmembers := mergeDocument_of_fault_eq_none hmerge
      rw [loadOutcome, loadDocument, hroot]
      dsimp only
      rw [hmerge, hmembers]
      rfl
    · cases h

end AnnotationMap

namespace Baseline

open AnnotationMap FileTree

variable {b b' : Baseline} {w w' : Workspace} {tree : FileTree} {documents documents' : List Path}
  {all : AnnotationMap}

/-- The contents of documents, in order. -/
def contents (tree : FileTree) (documents : List Path) : List (List UInt8) :=
  documents.filterMap (fun document => (tree.read document).toOption)

/-- The member elements of documents, in order. -/
def stated (tree : FileTree) (documents : List Path) : List Element :=
  (contents tree documents).flatMap (fun bytes => (membersIn? bytes).getD [])

/-- Whether a baseline has to be made from some documents, and can be: the cache file can be looked
for and is not there, the documents can be read to their ends, no key is used for members of two
kinds, and what is to be saved fits the format of cache files. -/
structure BuildsFrom (b : Baseline) (tree : FileTree) (documents : List Path) : Prop where
  found : b.discovered tree = .ok documents
  isOpen : b.IsOpen tree
  uncached : tree.isFile b.cachePath = false
  parses : ∀ document ∈ documents, ((tree.read document).toOption.bind membersIn?).isSome = true
  kinds : OneKindPerKey (stated tree documents)
  fits : b.Fits tree

instance (b : Baseline) (tree : FileTree) (documents : List Path) :
    Decidable (b.BuildsFrom tree documents) :=
  decidable_of_iff
    ((b.discovered tree).toOption = some documents ∧ b.IsOpen tree ∧
      tree.isFile b.cachePath = false ∧
      (∀ document ∈ documents, ((tree.read document).toOption.bind membersIn?).isSome = true) ∧
      OneKindPerKey (stated tree documents) ∧
      ∀ cache ∈ (b.freshCache tree).toOption, cache.Fits)
    ⟨fun ⟨found, isOpen, uncached, parses, kinds, fits⟩ =>
        ⟨Outcome.eq_ok_of_toOption found, isOpen, uncached, parses, kinds, fits⟩,
      fun h => ⟨by rw [h.found]; rfl, h.isOpen, h.uncached, h.parses, h.kinds, h.fits⟩⟩

lemma mergeDocuments_eq_foldl
    (h : ∀ document ∈ documents, ((tree.read document).toOption.bind membersIn?).isSome = true)
    (m : AnnotationMap) :
    mergeDocuments tree documents m = .ok ((stated tree documents).foldl mergeMember m) := by
  induction documents generalizing m with
  | nil => rfl
  | cons document rest ih =>
    obtain ⟨hdocument, hrest⟩ := List.forall_mem_cons.1 h
    obtain ⟨elements, helements⟩ := Option.isSome_iff_exists.1 hdocument
    obtain ⟨bytes, hbytes, hmembers⟩ := Option.bind_eq_some_iff.1 helements
    have hstated : stated tree (document :: rest) = elements ++ stated tree rest := by
      simp [stated, contents, hbytes, hmembers]
    have hread : tree.read document = .ok bytes := Outcome.eq_ok_of_toOption hbytes
    have hload := loadOutcome_of_membersIn? hmembers m document.text
    rw [hstated, List.foldl_append]
    exact Outcome.bind_eq_ok.2 ⟨bytes, hread, Outcome.bind_eq_ok.2 ⟨_, hload, ih hrest _⟩⟩

lemma mem_stated_congr {tree' : FileTree}
    (h : ∀ bytes, bytes ∈ contents tree documents ↔ bytes ∈ contents tree' documents')
    (element : Element) : element ∈ stated tree documents ↔ element ∈ stated tree' documents' := by
  simp only [stated, List.mem_flatMap, h]

lemma mergedDiscovered_eq (hfound : b.discovered tree = .ok documents) (hne : documents ≠ []) :
    b.mergedDiscovered tree = b.merged tree documents := by
  rw [mergedDiscovered, hfound]
  exact if_neg (fun h => hne (List.isEmpty_iff.1 h))

/-- Where there is no cache file, as can be told, and what is to be saved fits the format, documents
that can be merged decide how making the baseline ends. -/
lemma Ending.eq_mergedDiscovered {mishap : Option CacheWriter.Mishap}
    {outcome : Except Failure AnnotationMap} (h : Ending b mishap w outcome w')
    (hfound : b.discovered w.tree = .ok documents) (hopen : b.IsOpen w.tree)
    (huncached : w.tree.isFile b.cachePath = false) (hfits : b.Fits w.tree)
    (hall : mergeDocuments w.tree documents .empty = .ok all) :
    outcome = b.mergedDiscovered w.tree := by
  have husable : b.usable w.tree = .ok none := by
    rw [usable_eq hopen.told, huncached]
    rfl
  have heq : ∀ {found}, b.discovered w.tree = .ok found → found = documents := fun hother =>
    Except.ok.inj (hother.symm.trans hfound)
  cases h with
  | refused hrefusal =>
    cases hrefusal with
    | unscanned hunscanned =>
      have hscanned := hunscanned.symm.trans hfound
      cases hscanned
    | missing hmissing =>
      rw [mergedDiscovered, hmissing]
      rfl
    | untimed hother hne huntimed =>
      obtain rfl := heq hother
      obtain ⟨time, htime⟩ := exists_newest_of_times hne (exists_file_of_mergeDocuments hall)
      have htimed := huntimed.symm.trans htime
      cases htimed
    | unread _ _ _ hunusable =>
      have hused := hunusable.symm.trans husable
      cases hused
    | unmerged hother hne _ _ _ hunmerged =>
      rw [mergedDiscovered_eq hother hne, hunmerged]
    | unpacked hother _ htime hmap hunpacked =>
      obtain ⟨bytes, hpack⟩ := hfits.exists_pack hother htime hmap
      rw [AnnotationCache.toBytes, hpack] at hunpacked
      cases hunpacked
  | reused _ _ _ hused =>
    have hreused := hused.symm.trans husable
    cases hreused
  | rebuilt hother hne _ _ _ hmap => rw [mergedDiscovered_eq hother hne, hmap]
  | barred _ _ _ _ hbarred =>
    have hnull := hopen.noNull.symm.trans hbarred.hasNull
    cases hnull

/-- What a baseline is that is made from documents: a fault if there are none, or if nothing is
stated in them, and otherwise what is left of their elements' map. -/
lemma BuildsFrom.createAt_eq (h : b.BuildsFrom w.tree documents) (now : Int)
    (mishap : Option CacheWriter.Mishap) :
    let map := ((stated w.tree documents).foldl mergeMember .empty).compact
    (b.createAt now mishap w).1 =
      if documents.isEmpty then .error (.fault (.documentsMissing b.patterns))
      else if map.isEmpty then .error (.fault (.documentsEmpty b.patterns))
      else .ok map := by
  intro map
  have hall := mergeDocuments_eq_foldl h.parses .empty
  have hending : Ending b mishap { w with now := now } _ _ := ending b mishap { w with now := now }
  have hmerged := hending.eq_mergedDiscovered h.found h.isOpen h.uncached h.fits hall
  refine (congrArg (Except.mapError b.asFault) hmerged).trans ?_
  change Except.mapError b.asFault (b.mergedDiscovered w.tree) = _
  rw [mergedDiscovered, h.found]
  change Except.mapError b.asFault (if documents.isEmpty then _ else _) = _
  split_ifs with hnone hempty
  · rfl
  · rw [merged, hall]
    exact congrArg (Except.mapError b.asFault) (if_pos hempty)
  · rw [merged, hall]
    exact congrArg (Except.mapError b.asFault) (if_neg hempty)

lemma BuildsFrom.eq_nil_iff (h : b.BuildsFrom tree documents) :
    documents = [] ↔ ∀ bytes, bytes ∉ contents tree documents := by
  constructor
  · rintro rfl bytes hmem
    cases hmem
  · intro hnone
    refine List.eq_nil_iff_forall_not_mem.2 ?_
    intro document hmem
    obtain ⟨elements, helements⟩ := Option.isSome_iff_exists.1 (h.parses document hmem)
    obtain ⟨bytes, hbytes, -⟩ := Option.bind_eq_some_iff.1 helements
    exact hnone bytes (List.mem_filterMap.2 ⟨document, hmem, hbytes⟩)

/-- Baselines that are made from the same contents end alike, wherever the documents are installed
and in however many copies: there is no document on either side, or nothing is stated on either
side, or there are two maps that answer every question alike. -/
theorem createAt_alike (h : b.BuildsFrom w.tree documents) (h' : b'.BuildsFrom w'.tree documents')
    (hsame : ∀ bytes, bytes ∈ contents w.tree documents ↔ bytes ∈ contents w'.tree documents')
    (now now' : Int) (mishap mishap' : Option CacheWriter.Mishap) :
    let outcome := (b.createAt now mishap w).1
    let outcome' := (b'.createAt now' mishap' w').1
    (documents = [] ∧ documents' = [] ∧
      outcome = .error (.fault (.documentsMissing b.patterns)) ∧
      outcome' = .error (.fault (.documentsMissing b'.patterns))) ∨
    (outcome = .error (.fault (.documentsEmpty b.patterns)) ∧
      outcome' = .error (.fault (.documentsEmpty b'.patterns))) ∨
    ∃ map map', outcome = .ok map ∧ outcome' = .ok map' ∧
      (∀ id aspect, map.answers id aspect = map'.answers id aspect) ∧
      ∀ symbol appliesToItem,
        map.answersSymbol symbol appliesToItem = map'.answersSymbol symbol appliesToItem := by
  intro outcome outcome'
  have hmade : outcome = _ := h.createAt_eq now mishap
  have hmade' : outcome' = _ := h'.createAt_eq now' mishap'
  have hstated := mem_stated_congr hsame
  have hnone : documents = [] ↔ documents' = [] := by
    rw [h.eq_nil_iff, h'.eq_nil_iff]
    simp only [hsame]
  by_cases hnil : documents = []
  · have hnil' := hnone.1 hnil
    rw [if_pos (List.isEmpty_iff.2 hnil)] at hmade
    rw [if_pos (List.isEmpty_iff.2 hnil')] at hmade'
    exact .inl ⟨hnil, hnil', hmade, hmade'⟩
  · have hnil' : documents' ≠ [] := fun e => hnil (hnone.2 e)
    rw [if_neg (fun e => hnil (List.isEmpty_iff.1 e))] at hmade
    rw [if_neg (fun e => hnil' (List.isEmpty_iff.1 e)),
      ← isEmpty_compact_foldl_congr hstated] at hmade'
    right
    by_cases hempty : ((stated w.tree documents).foldl mergeMember .empty).compact.isEmpty = true
    · rw [if_pos hempty] at hmade hmade'
      exact .inl ⟨hmade, hmade'⟩
    · rw [if_neg hempty] at hmade hmade'
      have hanswers := answers_compact_foldl_congr h.kinds hstated
      exact .inr ⟨_, _, hmade, hmade', hanswers, answersSymbol_congr hanswers⟩

/-- The paths of a document that is installed twice. -/
def samplePaths : List String :=
  [samplePath "sys", "user/JetBrains/Installations/ReSharperPlatformVs17/Extensions/M.xml"]

/-- A workspace with the document of `sampleWorkspace`, and a copy of it for another user and
another version. -/
def copiedWorkspace : Workspace :=
  let w := sampleWorkspace (some (samplePath "sys"))
  let put (tree : FileTree) (path : String) : FileTree :=
    (install tree (.ofText path) (sampleDocument "A") 2).toOption.getD tree
  { w with tree := (samplePaths.drop 1).foldl put w.tree }

/-- One copy of a document answers like two. -/
theorem createAt_alike_sample :
    let b := sampleBaseline "sys"
    let w := sampleWorkspace (some (samplePath "sys"))
    let w' := copiedWorkspace
    let documents := (samplePaths.take 1).map Path.ofText
    let documents' := samplePaths.map Path.ofText
    b.BuildsFrom w.tree documents ∧ b.BuildsFrom w'.tree documents' ∧
      (∀ bytes, bytes ∈ contents w.tree documents ↔ bytes ∈ contents w'.tree documents') ∧
      ∃ map map', (b.createAt 2 none w).1 = .ok map ∧ (b.createAt 3 none w').1 = .ok map' ∧
        ∀ id aspect, map.answers id aspect = map'.answers id aspect := by
  intro b w w' documents documents'
  -- All that has to be computed is computed at once, so that the document is read only once.
  have hruns : b.BuildsFrom w.tree documents ∧ b.BuildsFrom w'.tree documents' ∧
      contents w.tree documents = [sampleDocument "A"] ∧
      contents w'.tree documents' = [sampleDocument "A", sampleDocument "A"] ∧
      ((stated w.tree documents).foldl mergeMember .empty).compact.isEmpty = false := by
    decide +kernel
  obtain ⟨h, h', hcontents, hcontents', hstated⟩ := hruns
  have hsame (bytes : List UInt8) :
      bytes ∈ contents w.tree documents ↔ bytes ∈ contents w'.tree documents' := by
    rw [hcontents, hcontents', List.mem_cons (l := [sampleDocument "A"])]
    exact ⟨.inr, fun hmem => hmem.elim List.mem_singleton.2 id⟩
  have hmade : (b.createAt 2 none w).1 = .ok _ :=
    (h.createAt_eq 2 none).trans
      ((if_neg Bool.false_ne_true).trans (if_neg (Bool.eq_false_iff.1 hstated)))
  obtain ⟨hnil, -⟩ | ⟨hempty, -⟩ | ⟨map, map', hmap, hmap', hanswers, -⟩ :=
    createAt_alike h h' hsame 2 3 none none
  · exact absurd hnil (List.cons_ne_nil _ _)
  · have hfailed := hmade.symm.trans hempty
    cases hfailed
  · exact ⟨h, h', hsame, map, map', hmap, hmap', hanswers⟩

/-- Without documents, a baseline is neither made nor refused for want of annotations. -/
theorem not_createAt_empty_or_ok :
    ¬ ∀ (b b' : Baseline) (w w' : Workspace) (documents documents' : List Path),
      b.BuildsFrom w.tree documents → b'.BuildsFrom w'.tree documents' →
      (∀ bytes, bytes ∈ contents w.tree documents ↔ bytes ∈ contents w'.tree documents') →
        ((b.create w).1 = .error (.fault (.documentsEmpty b.patterns)) ∧
          (b'.create w').1 = .error (.fault (.documentsEmpty b'.patterns))) ∨
        ∃ map map', (b.create w).1 = .ok map ∧ (b'.create w').1 = .ok map' ∧
          ∀ id aspect, map.answers id aspect = map'.answers id aspect := by
  intro hclaim
  let b := sampleBaseline "sys"
  let w := sampleWorkspace none
  have hbuilds : b.BuildsFrom w.tree [] := by decide +kernel
  have hmissing : (b.create w).1 = .error (.fault (.documentsMissing b.patterns)) :=
    hbuilds.createAt_eq w.now none
  obtain ⟨hempty, -⟩ | ⟨map, -, hmap, -⟩ := hclaim b b w w [] [] hbuilds hbuilds (fun _ => Iff.rfl)
  · have hfault := hmissing.symm.trans hempty
    cases hfault
  · have hmade := hmissing.symm.trans hmap
    cases hmade

end Baseline

end Nullability
