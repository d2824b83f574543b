import Nullability.Proofs.Resolver.Effect

/-!
# What is kept is a matter of history

Whether a resolver keeps a document can be read off its history (`Program.follows_history`): a
lookup has parsed the document, and since then the resolver was neither told a change of it nor
disposed. The documents are parsed, watched and given up in balance: for each key there are as many
watches as parses, and as many parses as evictions, plus one if the document is kept. An eviction
stops the watch that was started for the document when it was parsed, and no other one.

The history is the list of the occasions of a run, and the proofs are by induction on it: on each
occasion documents and watches are in order (`Program.TendedRun`).
-/

namespace Nullability

namespace Program

/-- The occasions of a run. -/
def trail (program : Program) (resolver : Nat) : List Action → List Occasion
  | [] => []
  | action :: rest =>
    let occasion : Occasion := ⟨program, action⟩
    occasion :: trail (occasion.next resolver) resolver rest

end Program

namespace Occasion

/-- Whether on one of some occasions the document with a key is parsed, and invalidated on none of
the later ones. -/
def IsParsedLast (occasions : List Occasion) (resolver : Nat) (provider : Provider) (k : String) :
    Prop :=
  ∃ earlier occasion later, occasions = earlier ++ occasion :: later ∧
    occasion.parsed? resolver provider = some k ∧
      ∀ other ∈ later, other.invalidates resolver k = false

lemma isParsedLast_nil (resolver : Nat) (provider : Provider) (k : String) :
    ¬ IsParsedLast [] resolver provider k := by
  rintro ⟨earlier, occasion, later, hsplit, -⟩
  simp at hsplit

lemma isParsedLast_cons {occasion : Occasion} {rest : List Occasion} {resolver : Nat}
    {provider : Provider} {k : String} :
    IsParsedLast (occasion :: rest) resolver provider k ↔
      IsParsedLast rest resolver provider k ∨ occasion.parsed? resolver provider = some k ∧
        ∀ other ∈ rest, other.invalidates resolver k = false := by
  constructor
  · rintro ⟨earlier, parsing, later, hsplit, hparsed, hvalid⟩
    rcases List.cons_eq_append_iff.1 hsplit with ⟨-, heq⟩ | ⟨between, -, hrest⟩
    · obtain ⟨rfl, rfl⟩ := List.cons.inj heq
      exact .inr ⟨hparsed, hvalid⟩
    · exact .inl ⟨between, parsing, later, hrest, hparsed, hvalid⟩
  · rintro (⟨earlier, parsing, later, rfl, hparsed, hvalid⟩ | ⟨hparsed, hvalid⟩)
    · exact ⟨occasion :: earlier, parsing, later, rfl, hparsed, hvalid⟩
    · exact ⟨[], occasion, rest, rfl, hparsed, hvalid⟩

end Occasion

/-- A run all of whose occasions find documents and watches in order, and have their sequel. -/
inductive Program.TendedRun (resolver : Nat) (provider : Provider) :
    Program → List Action → Prop where
  | nil {program : Program} {documents : SideBySide}
    (htended : program.Tended resolver provider documents) : TendedRun resolver provider program []
  | cons {program : Program} {action : Action} {rest : List Action}
    {documents documents' : SideBySide} (htended : program.Tended resolver provider documents)
    (hsequel : Occasion.Sequel ⟨program, action⟩ resolver provider documents documents')
    (hrest : TendedRun resolver provider (Occasion.next ⟨program, action⟩ resolver) rest) :
    TendedRun resolver provider program (action :: rest)

namespace Program

variable {program : Program} {resolver : Nat} {provider : Provider} {documents : SideBySide}
  {actions : List Action}

/-- A run that begins in order and stays in the current folder stays in order. -/
lemma Tended.run (h : program.Tended resolver provider documents)
    (hstays : ∀ action ∈ actions, action.StaysIn program.workspace.tree.current) :
    TendedRun resolver provider program actions := by
  induction actions generalizing program documents with
  | nil => exact .nil h
  | cons action rest ih =>
    rw [List.forall_mem_cons] at hstays
    obtain ⟨documents', hsequel⟩ := Occasion.exists_sequel h hstays.1
    refine .cons h hsequel (ih (hsequel.tended h) ?_)
    rw [show _ = program.workspace.tree.current from hsequel.current]
    exact hstays.2

namespace TendedRun

lemma exists_sequel (h : TendedRun resolver provider program actions) :
    ∀ occasion ∈ program.trail resolver actions, ∃ before after,
      occasion.program.Tended resolver provider before ∧
        occasion.Sequel resolver provider before after := by
  induction h with
  | nil htended => exact List.forall_mem_nil _
  | cons htended hsequel hrest ih =>
    exact List.forall_mem_cons.2 ⟨⟨_, _, htended, hsequel⟩, ih⟩

lemma exists_tended_afterAll (h : TendedRun resolver provider program actions) :
    ∃ documents, (program.afterAll resolver actions).Tended resolver provider documents := by
  induction h with
  | nil htended => exact ⟨_, htended⟩
  | cons htended hsequel hrest ih => exact ih

/-- What is kept after a run was parsed in it, or kept before it, and was not invalidated since. -/
lemma isSome_watchOf? (h : TendedRun resolver provider program actions) (k : String) :
    ((program.afterAll resolver actions).watchOf? resolver k).isSome = true ↔
      Occasion.IsParsedLast (program.trail resolver actions) resolver provider k ∨
        (program.watchOf? resolver k).isSome = true ∧
          ∀ occasion ∈ program.trail resolver actions, occasion.invalidates resolver k = false := by
  induction h with
  | nil htended =>
    have hnever := Occasion.isParsedLast_nil resolver provider k
    simp [trail, afterAll, hnever]
  | @cons program action rest documents documents' htended hsequel hrest ih =>
    have hnext := hsequel.watchOf?_next htended k
    rw [trail, Occasion.isParsedLast_cons, List.forall_mem_cons]
    refine Iff.trans ih ?_
    by_cases hparsed : Occasion.parsed? ⟨program, action⟩ resolver provider = some k
    · have hbefore : program.watchOf? resolver k = none := (hsequel.of_parsed htended hparsed).1
      simp [hnext, hparsed, hbefore]
    · cases hinvalid : Occasion.invalidates ⟨program, action⟩ resolver k with
      | true => simp [hnext, hparsed, hinvalid]
      | false => simp [hnext, hparsed, hinvalid]

/-- One watch was started for each document that was parsed. -/
lemma watchedKeys_eq (h : TendedRun resolver provider program actions) :
    (program.afterAll resolver actions).workspace.watchedKeys =
      program.workspace.watchedKeys ++ (program.trail resolver actions).filterMap
        (fun occasion => occasion.parsed? resolver provider) := by
  induction h with
  | nil htended => exact (List.append_nil _).symm
  | @cons program action rest documents documents' htended hsequel hrest ih =>
    refine Eq.trans ih ?_
    rw [hsequel.watchedKeys_next, List.append_assoc, trail]
    cases hparsed : Occasion.parsed? ⟨program, action⟩ resolver provider with
    | none => simp [hparsed]
    | some key => simp [hparsed]

/-- Parses and evictions are in balance with what is kept before and after. -/
lemma countP_parsed (h : TendedRun resolver provider program actions) (k : String) :
    (program.trail resolver actions).countP
        (fun occasion => occasion.parsed? resolver provider = some k) +
        (program.watchOf? resolver k).toList.length =
      (program.trail resolver actions).countP (fun occasion => occasion.evicts resolver k) +
        ((program.afterAll resolver actions).watchOf? resolver k).toList.length := by
  induction h with
  | nil htended => rfl
  | @cons program action rest documents documents' htended hsequel hrest ih =>
    have hnext := hsequel.watchOf?_next htended k
    have hevicts := hsequel.evicts_eq htended k
    have hafter : program.afterAll resolver (action :: rest) =
        (Occasion.next ⟨program, action⟩ resolver).afterAll resolver rest := rfl
    rw [trail, List.countP_cons, List.countP_cons, hevicts, hafter]
    by_cases hparsed : Occasion.parsed? ⟨program, action⟩ resolver provider = some k
    · have hbefore : program.watchOf? resolver k = none := (hsequel.of_parsed htended hparsed).1
      rw [hnext, if_pos hparsed] at ih
      simp only [Option.toList_some, List.length_singleton] at ih
      simp [hparsed, hbefore, ih]
    · rw [hnext, if_neg hparsed] at ih
      cases hinvalid : Occasion.invalidates ⟨program, action⟩ resolver k with
      | true =>
        simp only [hinvalid, if_true, Option.toList_none, List.length_nil] at ih
        cases program.watchOf? resolver k with
        | none => simp [hparsed, ← ih]
        | some watch =>
          simp [hparsed]
          omega
      | false =>
        simp only [hinvalid, Bool.false_eq_true, if_false] at ih
        simp [hparsed, ih]

end TendedRun

/-- How the documents of a resolver and their watches go with the history of a run. -/
structure FollowsHistory (program : Program) (resolver : Nat) (provider : Provider)
    (actions : List Action) : Prop where
  /-- A document is kept if it was parsed, and not invalidated since. -/
  kept : ∀ path, ∃ isKept, (program.afterAll resolver actions).keeps resolver path = .ok isKept ∧
    (isKept = true ↔ Occasion.IsParsedLast (program.trail resolver actions) resolver provider
      (SideBySide.key (program.afterAll resolver actions).workspace.tree path))
  /-- A document is watched as often as it is parsed. -/
  started : ∀ k, (program.trail resolver actions).countP
      (fun occasion => occasion.parsed? resolver provider = some k) =
    (program.afterAll resolver actions).workspace.watchedKeys.count k
  /-- A document is evicted as often as it is parsed, once less if it is kept. -/
  evicted : ∀ k, (program.trail resolver actions).countP
      (fun occasion => occasion.parsed? resolver provider = some k) =
    (program.trail resolver actions).countP (fun occasion => occasion.evicts resolver k) +
      if ((program.afterAll resolver actions).watchOf? resolver k).isSome then 1 else 0
  /-- The watch of a document is the one that is started when it is parsed. -/
  own : ∀ occasion ∈ program.trail resolver actions, ∀ k,
    (occasion.next resolver).watchOf? resolver k =
      if occasion.parsed? resolver provider = some k then
        some occasion.program.workspace.watches.length
      else if occasion.invalidates resolver k then none
      else occasion.program.watchOf? resolver k
  /-- An eviction stops the watch of what is evicted, which was not stopped before. -/
  stopped : ∀ occasion ∈ program.trail resolver actions, ∀ k watch,
    occasion.evicts resolver k = true → occasion.program.watchOf? resolver k = some watch →
    ∃ path, SideBySide.key occasion.program.workspace.tree path = k ∧
      occasion.program.workspace.watches[watch]? = some ⟨path, 0⟩ ∧
      (occasion.next resolver).workspace.watches[watch]? = some ⟨path, 1⟩
  /-- Nothing happens to other watches. -/
  spared : ∀ occasion ∈ program.trail resolver actions, ∀ (watch : Nat) found,
    occasion.program.workspace.watches[watch]? = some found →
    (∀ k, occasion.evicts resolver k = true →
      occasion.program.watchOf? resolver k ≠ some watch) →
    (occasion.next resolver).workspace.watches[watch]? = some found
  /-- A renaming without an old path in a folder is refused. -/
  refused : ∀ occasion ∈ program.trail resolver actions, ∀ (watch : Nat) change,
    occasion.program.starters[watch]? = some resolver → change.kind = .renamed →
    (∀ path ∈ change.oldPath, path.parent = path) →
    occasion.program.tell watch change =
      (.error (FileChange.badRenaming change.oldPath), occasion.program)

/-- A resolver that has not kept anything, and for which no watch was started, is in order. -/
lemma tended_of_empty
    (hlayered : program.resolvers[resolver]? = some (.layered provider .empty))
    (hstarters : program.starters = []) (hwatches : program.workspace.watches = [])
    (hbuilds : ∀ map ∈ program.providers.maps, map.build.KeepsOff) :
    program.Tended resolver provider .empty := by
  refine ⟨hlayered, ?_, ⟨?_, ?_⟩, nofun, hbuilds⟩
  · rw [hstarters]
    exact List.forall_mem_nil _
  · intro watch
    rw [Workspace.isLive, hwatches]
    rfl
  · rw [hwatches]
    exact List.forall_mem_nil _

/-- Whoever has to do with a document, and in whatever order: whether the document is kept, how
often it was parsed and watched, and which watches are stopped follows from the history. -/
theorem follows_history
    (hlayered : program.resolvers[resolver]? = some (.layered provider .empty))
    (hstarters : program.starters = []) (hwatches : program.workspace.watches = [])
    (hbuilds : ∀ map ∈ program.providers.maps, map.build.KeepsOff)
    (hstays : ∀ action ∈ actions, action.StaysIn program.workspace.tree.current) :
    program.FollowsHistory resolver provider actions := by
  have htended := tended_of_empty hlayered hstarters hwatches hbuilds
  have hrun := htended.run hstays
  have hbefore : ∀ k, program.watchOf? resolver k = none := by
    intro k
    rw [watchOf?_eq hlayered]
    rfl
  refine ⟨?_, ?_, ?_, ?_, ?_, ?_, ?_⟩
  · intro path
    obtain ⟨documents, hafter⟩ := hrun.exists_tended_afterAll
    let k := SideBySide.key (program.afterAll resolver actions).workspace.tree path
    refine ⟨documents.contains k, ?_, ?_⟩
    · simp only [keeps, Program.documents, documents?, hafter.layered]
      rfl
    · have hkept := hrun.isSome_watchOf? k
      rw [hbefore, watchOf?_eq hafter.layered, Option.isSome_map] at hkept
      simp only [Option.isSome_none, Bool.false_eq_true, false_and, or_false] at hkept
      exact hkept
  · intro k
    rw [hrun.watchedKeys_eq, List.count_append, Workspace.watchedKeys, hwatches,
      List.count_filterMap]
    simp [beq_eq_decide]
  · intro k
    have hbalance := hrun.countP_parsed k
    rw [hbefore] at hbalance
    cases hafter : (program.afterAll resolver actions).watchOf? resolver k with
    | none => simpa [hafter] using hbalance
    | some watch => simpa [hafter] using hbalance
  · intro occasion hmem k
    obtain ⟨before, after, htended, hsequel⟩ := hrun.exists_sequel occasion hmem
    exact hsequel.watchOf?_next htended k
  · intro occasion hmem k watch
    obtain ⟨before, after, htended, hsequel⟩ := hrun.exists_sequel occasion hmem
    exact hsequel.stopped_of_evicts htended
  · intro occasion hmem watch found
    obtain ⟨before, after, htended, hsequel⟩ := hrun.exists_sequel occasion hmem
    exact hsequel.eq_of_not_evicts htended
  · intro occasion hmem watch change hstarter hkind hparent
    obtain ⟨before, after, htended, hsequel⟩ := hrun.exists_sequel occasion hmem
    refine tell_of_former?_eq_none htended.layered hstarter ?_
    rw [FileChange.former?, hkind]
    refine Option.filter_eq_none_iff.2 ?_
    intro path hpath
    simpa using hparent path hpath

/-- The sample run, and another lookup at its end. -/
def sampleHistory : List Action :=
  sampleRun ++ [.lookup sampleQuery]

theorem follows_history_sample :
    sampleProgram.starters = [] ∧ sampleProgram.workspace.watches = [] ∧
      (∀ map ∈ sampleProgram.providers.maps, map.build.KeepsOff) ∧
      (∀ action ∈ sampleHistory, action.StaysIn sampleProgram.workspace.tree.current) ∧
      (sampleProgram.trail 0 sampleHistory).map
        (fun occasion => (occasion.parsed? 0 .program,
          occasion.evicts 0 "/w/lib/L.ExternalAnnotations.xml")) =
        [(some "/w/lib/L.ExternalAnnotations.xml", false), (none, false), (none, true),
          (some "/w/lib/L.ExternalAnnotations.xml", false)] ∧
      sampleProgram.FollowsHistory 0 .program sampleHistory := by
  have hbuilds : ∀ map ∈ sampleProgram.providers.maps, map.build.KeepsOff := by
    intro map hmem w
    obtain rfl := List.mem_singleton.1 hmem
    exact ⟨rfl, rfl⟩
  have hstays : ∀ action ∈ sampleHistory,
      action.StaysIn sampleProgram.workspace.tree.current := by
    simp only [sampleHistory, sampleRun, List.cons_append, List.nil_append, List.forall_mem_cons]
    exact ⟨trivial, rfl, trivial, trivial, nofun⟩
  exact ⟨rfl, rfl, hbuilds, hstays, by decide +kernel, follows_history rfl rfl rfl hbuilds hstays⟩

end Program

end Nullability
