import Nullability.Proofs.SideBySide.Run
import Nullability.Resolver

/-!
# What a program's resolvers do with documents

Each operation of a program on the documents of a resolver comes down to what happens to the
documents by themselves, and to storing what is left of them under the resolver's number. Of the
workspace, none of them changes the files.
-/

namespace Nullability.Program

variable {program : Program} {resolver : Nat} {provider : Provider} {documents : SideBySide}

/-- A resolver keeps the documents that it is given. -/
lemma resolvers_setDocuments
    (h : program.resolvers[resolver]? = some (.layered provider documents))
    (others : SideBySide) :
    (program.setDocuments resolver others).resolvers[resolver]? =
      some (.layered provider others) := by
  simp [setDocuments, h]

/-- Other resolvers keep what they have. -/
lemma resolvers_setDocuments_of_ne {other : Nat} (hne : other ≠ resolver)
    (others : SideBySide) :
    (program.setDocuments other others).resolvers[resolver]? = program.resolvers[resolver]? := by
  simp [setDocuments, hne]

/-- Nothing becomes of a resolver that is given the documents that it keeps. -/
lemma setDocuments_self
    (h : program.resolvers[resolver]? = some (.layered provider documents)) :
    program.setDocuments resolver documents = program := by
  obtain ⟨workspace, providers, resolvers, starters⟩ := program
  simp only [setDocuments, mk.injEq, true_and, and_true]
  apply List.ext_getElem?
  intro n
  rw [List.getElem?_modify]
  by_cases hn : resolver = n
  · subst hn
    simp only at h
    simp [h]
  · simp [hn]

/-- Work on the documents of a resolver is done on the documents that it keeps. -/
lemma onDocuments_eq {α : Type}
    (h : program.resolvers[resolver]? = some (.layered provider documents))
    {work : SideBySide → Workspace → α × SideBySide × Workspace}
    {a : α} {others : SideBySide} {w : Workspace}
    (hwork : work documents program.workspace = (a, others, w)) :
    program.onDocuments resolver work =
      (.ok a, { program with workspace := w }.setDocuments resolver others) := by
  simp [onDocuments, Program.documents, documents?, h, hwork]

/-! ## Lookups -/

/-- A lookup that is over before it starts a watch. -/
lemma lookupDocument_of_finished
    (h : program.resolvers[resolver]? = some (.layered provider documents))
    {lookup : SideBySide.Lookup} {outcome : Except Failure AnnotationMap} {w : Workspace}
    (query : Query) {path : Path}
    (hopened : (SideBySide.Lookup.ofPath path).runToWatch documents program.workspace =
      (lookup, documents, w))
    (hfinished : lookup.isFinished = true) (houtcome : lookup.outcome = some outcome) :
    ∃ b after, program.lookupDocument resolver query path (fun program => ((), program)) =
        (outcome.map query.isAnsweredBy, b, after) ∧
      after.workspace = w ∧ after.providers = program.providers ∧
      after.starters = program.starters ∧
      after.resolvers[resolver]? = some (.layered provider documents) := by
  have hwatch : lookup.ownWatch? = none := by
    obtain ⟨path, stage⟩ := lookup
    cases stage with
    | watched entry => cases hfinished
    | _ => rfl
  let opened := { program with workspace := w }.setDocuments resolver documents
  have hresolver : opened.resolvers[resolver]? = some (.layered provider documents) := by
    apply resolvers_setDocuments
    exact h
  have hclosed : lookup.runFromWatch documents opened.workspace = (lookup, documents, w) :=
    SideBySide.Lookup.runFromWatch_of_finished hfinished
  refine ⟨none, { opened with workspace := w }.setDocuments resolver documents, ?_, rfl, rfl, rfl,
    resolvers_setDocuments hresolver documents⟩
  simp only [lookupDocument, onDocuments_eq h hopened, noteStarter, hwatch, Option.isSome_none,
    Bool.false_eq_true, if_false]
  rw [onDocuments_eq hresolver hclosed]
  simp only [houtcome]

/-- A lookup that starts a watch keeps what it has read, if nobody else does so meanwhile. -/
lemma lookupDocument_of_watched
    (h : program.resolvers[resolver]? = some (.layered provider documents))
    {entry : SideBySide.Entry} {w : Workspace} (query : Query) {path : Path}
    (hopened : (SideBySide.Lookup.ofPath path).runToWatch documents program.workspace =
      (⟨path, .watched entry⟩, documents, w))
    (hget : documents.get? (SideBySide.key w.tree path) = none) :
    ∃ b after, program.lookupDocument resolver query path (fun program => ((), program)) =
        (.ok (query.isAnsweredBy entry.map), b, after) ∧
      after.workspace = w.report (SideBySide.loadedEvent path entry.map.size) ∧
      after.providers = program.providers ∧ after.starters = program.starters ++ [resolver] ∧
      after.resolvers[resolver]? =
        some (.layered provider (documents.insert (SideBySide.key w.tree path) entry)) := by
  let opened := ({ program with workspace := w }.setDocuments resolver documents).noteStarter
    resolver ⟨path, .watched entry⟩
  have hresolver : opened.resolvers[resolver]? = some (.layered provider documents) := by
    apply resolvers_setDocuments
    exact h
  have hclosed : SideBySide.Lookup.runFromWatch ⟨path, .watched entry⟩ documents opened.workspace =
      (⟨path, .found entry⟩, documents.insert (SideBySide.key w.tree path) entry,
        w.report (SideBySide.loadedEvent path entry.map.size)) :=
    SideBySide.Lookup.runFromWatch_eq_of_watched hget
  let closed := { opened with
    workspace := w.report (SideBySide.loadedEvent path entry.map.size) }.setDocuments resolver
      (documents.insert (SideBySide.key w.tree path) entry)
  have hkept : closed.resolvers[resolver]? =
      some (.layered provider (documents.insert (SideBySide.key w.tree path) entry)) := by
    apply resolvers_setDocuments
    exact hresolver
  refine ⟨some (), closed, ?_, rfl, rfl, rfl, hkept⟩
  simp only [lookupDocument, onDocuments_eq h hopened, SideBySide.Lookup.ownWatch?,
    Option.isSome_some, if_true]
  rw [onDocuments_eq hresolver hclosed]
  rfl

/-- A lookup in a document ends as a lookup of the document by itself does. -/
lemma lookupDocument_ending
    (h : program.resolvers[resolver]? = some (.layered provider documents))
    (query : Query) (path : Path) :
    ∃ outcome others, SideBySide.Lookup.Ending documents program.workspace path outcome others ∧
      ∃ b after, program.lookupDocument resolver query path (fun program => ((), program)) =
        (outcome.map query.isAnsweredBy, b, after) ∧
      after.workspace.tree = program.workspace.tree ∧
      after.resolvers[resolver]? = some (.layered provider others) := by
  cases hget : documents.get? (SideBySide.key program.workspace.tree path) with
  | some entry =>
    refine ⟨.ok entry.map, documents, .kept hget, ?_⟩
    obtain ⟨b, after, hlookup, hw, -, -, hafter⟩ :=
      lookupDocument_of_finished h query (SideBySide.Lookup.runToWatch_of_kept hget) rfl rfl
    exact ⟨b, after, hlookup, by rw [hw], hafter⟩
  | none =>
    cases hload : (AnnotationMap.loadFile path .empty program.workspace).1 with
    | error failure =>
      refine ⟨.error failure, documents, .failed hget hload, ?_⟩
      obtain ⟨b, after, hlookup, hw, -, -, hafter⟩ :=
        lookupDocument_of_finished h query (SideBySide.Lookup.runToWatch_of_failed hget hload) rfl
          rfl
      exact ⟨b, after, hlookup, by rw [hw, SideBySide.Lookup.tree_loadFile], hafter⟩
    | ok map =>
      obtain ⟨watch, w, hopened, htree⟩ := SideBySide.Lookup.runToWatch_of_read hget hload
      refine ⟨.ok map, _, .read watch hget hload, ?_⟩
      rw [← htree] at hget
      obtain ⟨b, after, hlookup, hw, -, -, hafter⟩ := lookupDocument_of_watched h query hopened hget
      rw [htree] at hafter
      exact ⟨b, after, hlookup, by rw [hw]; exact htree, hafter⟩

/-! ## Changes and disposals -/

/-- A change that a watch tells is worked on by the resolver that started the watch. -/
lemma tell_eq (h : program.resolvers[resolver]? = some (.layered provider documents))
    {watch : Nat} (hwatch : program.starters[watch]? = some resolver) {change : FileChange}
    {outcome : Except Failure Unit} {others : SideBySide} {w : Workspace}
    (hchange : documents.change change program.workspace = (outcome, others, w)) :
    program.tell watch change =
      (outcome, { program with workspace := w }.setDocuments resolver others) := by
  simp only [tell, hwatch]
  rw [onDocuments_eq h hchange]
  rfl

/-- What a resolver keeps once one of its own watches has told a change. -/
lemma tell_own
    (h : program.resolvers[resolver]? = some (.layered provider documents))
    {watch : Nat} (hwatch : program.starters[watch]? = some resolver) (change : FileChange) :
    (program.tell watch change).2.workspace.tree = program.workspace.tree ∧
      (program.tell watch change).2.resolvers[resolver]? =
        some (.layered provider (documents.change change program.workspace).2.1) := by
  rw [tell_eq h hwatch rfl]
  refine ⟨SideBySide.tree_change documents change program.workspace, ?_⟩
  apply resolvers_setDocuments
  exact h

/-- A change that a watch of somebody else tells does not concern a resolver. -/
lemma tell_other {watch : Nat} (hwatch : program.starters[watch]? ≠ some resolver)
    (change : FileChange) :
    (program.tell watch change).2.workspace.tree = program.workspace.tree ∧
      (program.tell watch change).2.resolvers[resolver]? = program.resolvers[resolver]? := by
  cases hstarter : program.starters[watch]? with
  | none => simp [tell, hstarter]
  | some other =>
    have hne : other ≠ resolver := by
      intro e
      exact hwatch (by rw [hstarter, e])
    cases hother : program.documents other with
    | error failure => simp [tell, hstarter, onDocuments, hother]
    | ok others =>
      have htell : (program.tell watch change).2 =
          { program with workspace := (others.change change program.workspace).2.2 }.setDocuments
            other (others.change change program.workspace).2.1 := by
        simp [tell, hstarter, onDocuments, hother]
      rw [htell]
      exact ⟨SideBySide.tree_change others change program.workspace,
        resolvers_setDocuments_of_ne hne _⟩

/-- A disposal stops the watches of all documents that the resolver keeps. -/
lemma dispose_eq (h : program.resolvers[resolver]? = some (.layered provider documents)) :
    program.dispose resolver =
      (.ok (), { program with
        workspace := SideBySide.Disposal.allStopped documents program.workspace }.setDocuments
          resolver .empty) := by
  simp only [dispose]
  rw [onDocuments_eq h (SideBySide.dispose_eq_allStopped documents program.workspace)]
  rfl

/-- A disposed resolver keeps no document. -/
lemma dispose_own
    (h : program.resolvers[resolver]? = some (.layered provider documents)) :
    (program.dispose resolver).2.workspace.tree = program.workspace.tree ∧
      (program.dispose resolver).2.resolvers[resolver]? = some (.layered provider .empty) := by
  rw [dispose_eq h]
  refine ⟨SideBySide.Disposal.tree_allStopped documents program.workspace, ?_⟩
  apply resolvers_setDocuments
  exact h

end Nullability.Program
