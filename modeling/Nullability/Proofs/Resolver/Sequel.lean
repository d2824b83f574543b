import Nullability.Proofs.Resolver.Occasion

/-!
# What follows an occasion

Whatever the action is, the documents of a resolver and their watches take one of the courses that
there are (`Occasion.exists_sequel`). This is shown action by action: for a lookup that ends before
it starts a watch and for one that reads a document, for a change of a document that is kept and for
any other one, and for the disposal of the resolver.
-/

namespace Nullability

/-! ## Provided maps -/

lemma Once.build_get {α : Type} (once : Once α) (w : Workspace) :
    (once.get w).2.1.build = once.build := by
  rw [get]
  cases once.outcome with
  | some outcome => rfl
  | none =>
    change (ite _ _ _ : Once α).build = once.build
    split <;> rfl

/-- Getting a value does no more to watches than building it. -/
lemma Once.get_of_keepsOff {α : Type} {once : Once α} (h : once.build.KeepsOff) (w : Workspace) :
    (once.get w).2.2.watches = w.watches ∧ (once.get w).2.2.tree.current = w.tree.current := by
  rw [get]
  cases once.outcome with
  | some outcome => exact ⟨rfl, rfl⟩
  | none => exact h w

namespace Program

variable {program : Program} {resolver : Nat} {provider : Provider} {documents : SideBySide}

/-- Asking for a provided map keeps off if the building of all maps does. -/
lemma provide_of_keepsOff (h : ∀ map ∈ program.providers.maps, map.build.KeepsOff)
    (provider : Provider) :
    let asked := (program.provide provider).2
    asked.workspace.watches = program.workspace.watches ∧
      asked.workspace.tree.current = program.workspace.tree.current ∧
      ∀ map ∈ asked.providers.maps, map.build.KeepsOff := by
  rw [provide, Providers.get, Providers.getNumber]
  cases hmap : program.providers.maps[program.providers.number provider]? with
  | none => exact ⟨rfl, rfl, h⟩
  | some map =>
    have hbuild := h map (List.mem_of_getElem? hmap)
    obtain ⟨hwatches, hcurrent⟩ := Once.get_of_keepsOff hbuild program.workspace
    refine ⟨hwatches, hcurrent, ?_⟩
    intro other hother
    rcases List.mem_or_eq_of_mem_set hother with hold | rfl
    · exact h other hold
    · rw [Once.build_get]
      exact hbuild

/-- A lookup that gets to a document is a lookup in that document. -/
lemma lookup_of_documentBeside?
    (hresolver : program.resolvers[resolver]? = some (.layered provider documents))
    {query : Query} {path : Path} (h : program.documentBeside? provider query = some path) :
    let found := (program.provide provider).2.lookupDocument resolver query path
      (fun program => ((), program))
    program.lookup resolver query = (found.1, found.2.2) := by
  intro found
  rw [lookup_eq hresolver]
  rw [documentBeside?] at h
  cases hprovided : program.lookupProvided provider query with
  | mk answer asked =>
    obtain rfl : (program.provide provider).2 = asked := congrArg Prod.snd hprovided
    rw [hprovided] at h
    cases answer with
    | error failure => cases h
    | ok isFound =>
      cases isFound with
      | true => cases h
      | false =>
        simp only [lookupBeside]
        cases hlocate : SideBySide.locate (program.provide provider).2.workspace.tree
            query.references query.symbol with
        | error failure =>
          simp only [hlocate] at h
          cases h
        | ok located =>
          simp only [hlocate] at h
          rw [h]

/-- A resolver refuses a change that leaves no file behind. -/
lemma tell_of_former?_eq_none
    (hlayered : program.resolvers[resolver]? = some (.layered provider documents)) {watch : Nat}
    (hstarter : program.starters[watch]? = some resolver) {change : FileChange}
    (hformer : change.former? = none) :
    program.tell watch change = (.error (FileChange.badRenaming change.oldPath), program) := by
  have hpath := change.watchedPath_eq
  rw [hformer] at hpath
  rw [tell_eq hlayered hstarter (SideBySide.change_of_error hpath)]
  exact congrArg _ (setDocuments_self hlayered)

end Program

/-! ## Occasions -/

/-- What the documents of a resolver and their watches have to be like. -/
structure Program.Tended (program : Program) (resolver : Nat) (provider : Provider)
    (documents : SideBySide) : Prop where
  layered : program.resolvers[resolver]? = some (.layered provider documents)
  starters : ∀ starter ∈ program.starters, starter = resolver
  balanced : SideBySide.Balanced documents.watches program.workspace
  kept : ∀ k entry, documents.get? k = some entry →
    SideBySide.IsWatchOn program.workspace entry.watch k
  builds : ∀ map ∈ program.providers.maps, map.build.KeepsOff

/-- What an occasion leaves behind. -/
structure Occasion.Sequel (occasion : Occasion) (resolver : Nat) (provider : Provider)
    (documents documents' : SideBySide) : Prop where
  layered : (occasion.next resolver).resolvers[resolver]? = some (.layered provider documents')
  starters : ∀ starter ∈ (occasion.next resolver).starters, starter = resolver
  course : occasion.Course resolver provider documents documents' (occasion.next resolver).workspace
  current : (occasion.next resolver).workspace.tree.current =
    occasion.program.workspace.tree.current
  builds : ∀ map ∈ (occasion.next resolver).providers.maps, map.build.KeepsOff

namespace Occasion

variable {program after : Program} {resolver : Nat} {provider : Provider} {documents : SideBySide}

/-- What an occasion leaves behind that does not concern the documents. -/
lemma sequel_of_idle {occasion : Occasion} (hafter : occasion.next resolver = after)
    (hlayered : after.resolvers[resolver]? = some (.layered provider documents))
    (hstarters : ∀ starter ∈ after.starters, starter = resolver)
    (hparsed : occasion.parsed? resolver provider = none)
    (hvalid : ∀ k, occasion.invalidates resolver k = true → documents.get? k = none)
    (hwatches : after.workspace.watches = occasion.program.workspace.watches)
    (hcurrent : after.workspace.tree.current = occasion.program.workspace.tree.current)
    (hbuilds : ∀ map ∈ after.providers.maps, map.build.KeepsOff) :
    ∃ documents', Sequel occasion resolver provider documents documents' := by
  subst hafter
  exact ⟨documents, hlayered, hstarters, .idle hparsed hvalid hwatches, hcurrent, hbuilds⟩

/-- A document is parsed if it is read and the lookup has an answer. -/
lemma parsed?_lookup {query : Query} {path : Path}
    (h : program.documentBeside? provider query = some path) :
    parsed? ⟨program, .lookup query⟩ resolver provider =
      if (program.lookup resolver query).1.isOk ∧
        (program.lookup resolver query).2.workspace.documents =
          (program.provide provider).2.workspace.documents ++ [path]
      then some (SideBySide.key (program.lookup resolver query).2.workspace.tree path)
      else none := by
  simp only [parsed?, h, Option.bind_some]

/-- A lookup that ends without having started a watch does not concern the documents. -/
lemma sequel_lookup_of_finished (h : program.Tended resolver provider documents) {query : Query}
    {path : Path} {w : Workspace} {lookup : SideBySide.Lookup}
    {outcome : Except Failure AnnotationMap}
    (hbeside : program.documentBeside? provider query = some path)
    (hopened : (SideBySide.Lookup.ofPath path).runToWatch documents
      (program.provide provider).2.workspace = (lookup, documents, w))
    (hfinished : lookup.isFinished = true) (houtcome : lookup.outcome = some outcome)
    (hwatches : w.watches = (program.provide provider).2.workspace.watches)
    (htree : w.tree = (program.provide provider).2.workspace.tree)
    (hunread : outcome.isOk = true →
      w.documents ≠ (program.provide provider).2.workspace.documents ++ [path]) :
    ∃ documents', Sequel ⟨program, .lookup query⟩ resolver provider documents documents' := by
  obtain ⟨hasked, hcurrent, hbuilds⟩ := Program.provide_of_keepsOff h.builds provider
  have hlayered : (program.provide provider).2.resolvers[resolver]? =
      some (.layered provider documents) := h.layered
  obtain ⟨b, after, hfound, hworkspace, hproviders, hstarters, hkept⟩ :=
    Program.lookupDocument_of_finished hlayered query hopened hfinished houtcome
  have hlookup : program.lookup resolver query = (outcome.map query.isAnsweredBy, after) := by
    rw [Program.lookup_of_documentBeside? h.layered hbeside, hfound]
  have hparsed : parsed? ⟨program, .lookup query⟩ resolver provider = none := by
    rw [parsed?_lookup hbeside, hlookup, hworkspace, if_neg]
    rintro ⟨hok, hread⟩
    refine hunread ?_ hread
    cases outcome with
    | error failure => cases hok
    | ok map => rfl
  refine sequel_of_idle (congrArg Prod.snd hlookup) hkept ?_ hparsed nofun ?_ ?_ ?_
  · rw [hstarters]
    exact h.starters
  · rw [hworkspace, hwatches, hasked]
  · rw [hworkspace, htree, hcurrent]
  · rw [hproviders]
    exact hbuilds

/-- A lookup that reads a document watches and keeps it. -/
lemma sequel_lookup_of_read (h : program.Tended resolver provider documents) {query : Query}
    {path : Path} {map : AnnotationMap}
    (hbeside : program.documentBeside? provider query = some path)
    (hget : documents.get? (SideBySide.key (program.provide provider).2.workspace.tree path) = none)
    (hload : (AnnotationMap.loadFile path .empty (program.provide provider).2.workspace).1 =
      .ok map) :
    Sequel ⟨program, .lookup query⟩ resolver provider documents
      (documents.insert (SideBySide.key (program.provide provider).2.workspace.tree path)
        ⟨map, (program.provide provider).2.workspace.watches.length⟩) := by
  obtain ⟨hwatches, hcurrent, hbuilds⟩ := Program.provide_of_keepsOff h.builds provider
  have hlayered : (program.provide provider).2.resolvers[resolver]? =
      some (.layered provider documents) := h.layered
  obtain ⟨b, after, hfound, hworkspace, hproviders, hstarters, hkept⟩ :=
    Program.lookupDocument_of_watched hlayered query
      (SideBySide.Lookup.runToWatch_eq_of_read hget hload) hget
  have hlookup : program.lookup resolver query = (.ok (query.isAnsweredBy map), after) := by
    rw [Program.lookup_of_documentBeside? h.layered hbeside, hfound]
  have hparsed : parsed? ⟨program, .lookup query⟩ resolver provider =
      some (SideBySide.key after.workspace.tree path) := by
    rw [parsed?_lookup hbeside, hlookup, if_pos]
    rw [hworkspace]
    exact ⟨rfl, rfl⟩
  have htree : after.workspace.tree = (program.provide provider).2.workspace.tree := by
    rw [hworkspace]
    rfl
  have hafter : next ⟨program, .lookup query⟩ resolver = after := congrArg Prod.snd hlookup
  refine ⟨?_, ?_, ?_, ?_, ?_⟩
  · rw [hafter]
    exact hkept
  · rw [hafter, hstarters]
    intro starter hmem
    rcases List.mem_append.1 hmem with hold | hnew
    · exact h.starters starter hold
    · exact List.mem_singleton.1 hnew
  · rw [hafter]
    refine .read path map hparsed (fun _ => rfl) ?_ ?_ ?_
    · rw [htree]
      exact hget
    · rw [htree, hwatches]
    · rw [hworkspace, ← hwatches]
      rfl
  · rw [hafter, htree, hcurrent]
  · rw [hafter, hproviders]
    exact hbuilds

lemma sequel_lookup (h : program.Tended resolver provider documents) (query : Query) :
    ∃ documents', Sequel ⟨program, .lookup query⟩ resolver provider documents documents' := by
  let asked := (program.provide provider).2
  obtain ⟨hwatches, hcurrent, hbuilds⟩ := Program.provide_of_keepsOff h.builds provider
  have hlayered : asked.resolvers[resolver]? = some (.layered provider documents) := h.layered
  cases hbeside : program.documentBeside? provider query with
  | none =>
    have hafter : (program.lookup resolver query).2 = asked := by
      rcases Program.lookup_cases h.layered query with ⟨-, -, hafter⟩ | ⟨path, -, -, hpath, -⟩
      · exact hafter
      · rw [hbeside] at hpath
        cases hpath
    refine sequel_of_idle hafter hlayered h.starters ?_ nofun hwatches hcurrent hbuilds
    simp only [parsed?, hbeside, Option.bind_none]
  | some path =>
    cases hget : documents.get? (SideBySide.key asked.workspace.tree path) with
    | some entry =>
      refine sequel_lookup_of_finished h hbeside (SideBySide.Lookup.runToWatch_of_kept hget) rfl rfl
        rfl rfl ?_
      intro _ hread
      simpa using congrArg List.length hread
    | none =>
      cases hload : (AnnotationMap.loadFile path .empty asked.workspace).1 with
      | error failure =>
        refine sequel_lookup_of_finished h hbeside
          (SideBySide.Lookup.runToWatch_of_failed hget hload) rfl rfl ?_ ?_ nofun
        · rw [AnnotationMap.loadFile_eq]
        · rw [AnnotationMap.loadFile_eq]
      | ok map => exact ⟨_, sequel_lookup_of_read h hbeside hget hload⟩

lemma sequel_edit (h : program.Tended resolver provider documents) {tree : FileTree}
    (hcurrent : tree.current = program.workspace.tree.current) :
    ∃ documents', Sequel ⟨program, .edit tree⟩ resolver provider documents documents' :=
  sequel_of_idle rfl h.layered h.starters rfl nofun rfl hcurrent h.builds

lemma invalidates_tell {watch : Nat} (hstarter : program.starters[watch]? = some resolver)
    (change : FileChange) (k : String) :
    invalidates ⟨program, .tell watch change⟩ resolver k =
      change.former?.any (fun path => SideBySide.key program.workspace.tree path = k) := by
  simp [invalidates, hstarter]

/-- A change of a document that is kept frees it and stops its watch. -/
lemma sequel_tell_of_kept (h : program.Tended resolver provider documents) {watch : Nat}
    {change : FileChange} {path : Path} {entry : SideBySide.Entry}
    (hstarter : program.starters[watch]? = some resolver) (hformer : change.former? = some path)
    (hget : documents.get? (SideBySide.key program.workspace.tree path) = some entry) :
    Sequel ⟨program, .tell watch change⟩ resolver provider documents
      (documents.erase (SideBySide.key program.workspace.tree path)) := by
  have hpath := change.watchedPath_eq
  rw [hformer] at hpath
  have hchange := SideBySide.change_of_ok hpath documents program.workspace
  rw [SideBySide.Eviction.run_of_kept hget] at hchange
  have hafter : next ⟨program, .tell watch change⟩ resolver = _ :=
    congrArg Prod.snd (Program.tell_eq h.layered hstarter hchange)
  refine ⟨?_, ?_, ?_, ?_, ?_⟩
  all_goals rw [hafter]
  · apply Program.resolvers_setDocuments
    exact h.layered
  · exact h.starters
  · refine .freed [entry.watch] rfl ?_ (SideBySide.watches_perm_erase hget)
      (SideBySide.stopped_stopWatch program.workspace entry.watch)
    intro k
    rw [invalidates_tell hstarter, hformer, Option.any_some, OrderedMap.get?_erase]
    simp only [decide_eq_true_eq]
  · rfl
  · exact h.builds

lemma sequel_tell (h : program.Tended resolver provider documents) (watch : Nat)
    (change : FileChange) :
    ∃ documents', Sequel ⟨program, .tell watch change⟩ resolver provider documents documents' := by
  cases hstarter : program.starters[watch]? with
  | none =>
    have hafter : (program.tell watch change).2 = program := by
      simp only [Program.tell, hstarter]
    refine sequel_of_idle hafter h.layered h.starters rfl ?_ rfl rfl h.builds
    intro k hinvalid
    simp [invalidates, hstarter] at hinvalid
  | some starter =>
    obtain rfl := h.starters starter (List.mem_of_getElem? hstarter)
    cases hformer : change.former? with
    | none =>
      have hafter : (program.tell watch change).2 = program := by
        rw [Program.tell_of_former?_eq_none h.layered hstarter hformer]
      refine sequel_of_idle hafter h.layered h.starters rfl ?_ rfl rfl h.builds
      intro k hinvalid
      rw [invalidates_tell hstarter, hformer] at hinvalid
      cases hinvalid
    | some path =>
      cases hget : documents.get? (SideBySide.key program.workspace.tree path) with
      | some entry => exact ⟨_, sequel_tell_of_kept h hstarter hformer hget⟩
      | none =>
        have hpath := change.watchedPath_eq
        rw [hformer] at hpath
        have hchange := SideBySide.change_of_ok hpath documents program.workspace
        rw [SideBySide.Eviction.run_of_not_kept hget] at hchange
        have hafter : (program.tell watch change).2 = program := by
          rw [Program.tell_eq h.layered hstarter hchange]
          exact Program.setDocuments_self h.layered
        refine sequel_of_idle hafter h.layered h.starters rfl ?_ rfl rfl h.builds
        intro k hinvalid
        rw [invalidates_tell hstarter, hformer, Option.any_some, decide_eq_true_eq] at hinvalid
        rw [← hinvalid, hget]

lemma sequel_dispose (h : program.Tended resolver provider documents) :
    ∃ documents', Sequel ⟨program, .dispose⟩ resolver provider documents documents' := by
  have hafter : next ⟨program, .dispose⟩ resolver = _ :=
    congrArg Prod.snd (Program.dispose_eq h.layered)
  refine ⟨.empty, ?_, ?_, ?_, ?_, ?_⟩
  all_goals rw [hafter]
  · apply Program.resolvers_setDocuments
    exact h.layered
  · exact h.starters
  · refine .freed documents.watches rfl (fun k => rfl) ?_
      (SideBySide.stopped_allStopped documents program.workspace)
    rw [show SideBySide.watches .empty = [] from rfl, List.append_nil]
  · exact congrArg (·.current) (SideBySide.Disposal.tree_allStopped documents program.workspace)
  · exact h.builds

lemma exists_sequel {action : Action} (h : program.Tended resolver provider documents)
    (hstays : action.StaysIn program.workspace.tree.current) :
    ∃ documents', Sequel ⟨program, action⟩ resolver provider documents documents' := by
  cases action with
  | lookup query => exact sequel_lookup h query
  | edit tree => exact sequel_edit h hstays
  | tell watch change => exact sequel_tell h watch change
  | dispose => exact sequel_dispose h

end Occasion
end Nullability
