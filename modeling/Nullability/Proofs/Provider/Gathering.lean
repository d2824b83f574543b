import Nullability.Proofs.Provider.Readers
import Nullability.Provider

/-!
# Readers and replacements

Any number of readers ask providers for their maps, while further maps are set up, the map that the
program shares is replaced, and everything else changes as well. Each of them takes its steps one by
one, in any order among the steps of the others. It is noted who called which job, how that ended,
and which jobs were put in place for the shared map.
-/

namespace Nullability

/-- Somebody who asks a provider for its map. -/
inductive Reader where
  | asking (provider : Provider)
  /-- The reader has turned to the map with a number. -/
  | reading (map : Nat) (stage : Once.Stage AnnotationMap)

/-- How far a replacement has come. -/
inductive Replacement.Stage where
  | arrived
  /-- The lock of the replacements is taken. -/
  | holding
  /-- The new map is in place. -/
  | replaced
  | done
  deriving DecidableEq

/-- Somebody who replaces the map that the program shares by one that is still to be built. -/
structure Replacement where
  build : Job AnnotationMap
  stage : Replacement.Stage

/-- A reader has called the job of a map. -/
structure Call where
  reader : Nat
  map : Nat
  outcome : Except Failure AnnotationMap

/-- All maps, and all who are about them. -/
structure Gathering where
  providers : Providers
  /-- Whether a replacement holds the lock. -/
  isReplacing : Bool
  readers : List Reader
  replacements : List Replacement
  workspace : Workspace
  calls : List Call
  /-- The jobs of the maps that the program has shared so far. -/
  installed : List (Job AnnotationMap)

namespace Gathering

/-- What can happen next. -/
inductive Move where
  /-- A reader comes. -/
  | ask (provider : Provider)
  /-- One of the readers takes its next step. -/
  | read (reader : Nat)
  /-- A map is set up. -/
  | add (build : Job AnnotationMap)
  /-- A replacement begins. -/
  | replace (build : Job AnnotationMap)
  /-- One of the replacements takes its next step. -/
  | install (replacement : Nat)
  /-- Anything happens to the files and whatever else jobs work on. -/
  | edit (w : Workspace)

/-- One map, which the program shares and nobody has asked for. -/
def start (build : Job AnnotationMap) (w : Workspace) : Gathering :=
  ⟨.ofMap (.ofJob build), false, [], [], w, [], [build]⟩

/-- A reader takes its next step: it turns to the map that its provider has at that time, or works
its way through that map. -/
def read (g : Gathering) (n : Nat) : Gathering :=
  match g.readers[n]? with
  | some (.asking provider) =>
    let map := g.providers.number provider
    if map < g.providers.maps.length then
      { g with readers := g.readers.set n (.reading map .arrived) }
    else g
  | some (.reading map stage) =>
    match g.providers.maps[map]? with
    | some once =>
      let (next, once, w) := Once.step stage once g.workspace
      { g with
        providers := { g.providers with maps := g.providers.maps.set map once }
        readers := g.readers.set n (.reading map next)
        workspace := w
        calls := g.calls ++
          ((Once.called? stage next).map (fun outcome => ⟨n, map, outcome⟩)).toList }
    | none => g
  | none => g

/-- A replacement takes its next step. -/
def install (g : Gathering) (n : Nat) : Gathering :=
  match g.replacements[n]? with
  | some ⟨build, .arrived⟩ =>
    if g.isReplacing then g
    else { g with isReplacing := true, replacements := g.replacements.set n ⟨build, .holding⟩ }
  | some ⟨build, .holding⟩ =>
    { g with
      providers := g.providers.share (.ofJob build)
      replacements := g.replacements.set n ⟨build, .replaced⟩
      installed := g.installed ++ [build] }
  | some ⟨build, .replaced⟩ =>
    { g with isReplacing := false, replacements := g.replacements.set n ⟨build, .done⟩ }
  | _ => g

def after (g : Gathering) : Move → Gathering
  | .ask provider => { g with readers := g.readers ++ [.asking provider] }
  | .read n => g.read n
  | .add build => { g with providers := (g.providers.add (.ofJob build)).2 }
  | .replace build => { g with replacements := g.replacements ++ [⟨build, .arrived⟩] }
  | .install n => g.install n
  | .edit w => { g with workspace := w }

def run (g : Gathering) (moves : List Move) : Gathering :=
  moves.foldl after g

/-- The stages of the readers of a map. -/
def stagesAt (readers : List Reader) (map n : Nat) : Option (Once.Stage AnnotationMap) :=
  match readers[n]? with
  | some (.reading other stage) => if other = map then some stage else none
  | _ => none

/-- The calls of the job of a map. -/
def callsOf (calls : List Call) (map : Nat) : Once.Calls AnnotationMap :=
  calls.filterMap fun call => if call.map = map then some (call.reader, call.outcome) else none

def stageAt (g : Gathering) (map n : Nat) : Option (Once.Stage AnnotationMap) :=
  stagesAt g.readers map n

def callsOn (g : Gathering) (map : Nat) : Once.Calls AnnotationMap :=
  callsOf g.calls map

variable {g made : Gathering} {n k map other : Nat} {stage next : Once.Stage AnnotationMap}
  {once : Once AnnotationMap} {readers : List Reader} {calls : List Call}

/-! ## Stages and calls -/

lemma stagesAt_eq_some_iff :
    stagesAt readers map n = some stage ↔ readers[n]? = some (.reading map stage) := by
  rw [stagesAt]
  cases h : readers[n]? with
  | none => simp
  | some reader =>
    cases reader with
    | asking provider => simp
    | reading found stage' => simp

lemma stagesAt_append_asking (readers : List Reader) (provider : Provider) (map : Nat) :
    stagesAt (readers ++ [.asking provider]) map = stagesAt readers map := by
  funext n
  apply Option.ext
  intro stage
  rw [stagesAt_eq_some_iff, stagesAt_eq_some_iff, List.getElem?_append]
  split
  · exact Iff.rfl
  · rename_i hn
    rw [List.getElem?_eq_none (Nat.le_of_not_lt hn)]
    cases n - readers.length with
    | zero => simp
    | succ n => simp

/-- A reader at a map takes a step there. -/
lemma stagesAt_set_self (hn : n < readers.length) (map : Nat) (next : Once.Stage AnnotationMap) :
    stagesAt (readers.set n (.reading map next)) map =
      Function.update (stagesAt readers map) n (some next) := by
  funext k
  by_cases heq : k = n
  · subst heq
    rw [Function.update_self, stagesAt_eq_some_iff, List.getElem?_set_self hn]
  · rw [Function.update_of_ne heq, stagesAt, List.getElem?_set_ne (fun e => heq e.symm)]
    rfl

/-- A step does not count at other maps. -/
lemma stagesAt_set_of_ne (hnone : stagesAt readers other n = none) (hne : map ≠ other)
    (next : Once.Stage AnnotationMap) :
    stagesAt (readers.set n (.reading map next)) other = stagesAt readers other := by
  funext k
  by_cases heq : k = n
  · subst heq
    rw [hnone, stagesAt]
    by_cases hk : k < readers.length
    · rw [List.getElem?_set_self hk]
      simp [hne]
    · rw [List.getElem?_eq_none (by rw [List.length_set]; exact Nat.le_of_not_lt hk)]
  · rw [stagesAt, List.getElem?_set_ne (fun e => heq e.symm)]
    rfl

lemma stagesAt_of_asking {provider : Provider} (h : readers[n]? = some (.asking provider))
    (map : Nat) : stagesAt readers map n = none := by
  rw [stagesAt, h]

lemma stagesAt_of_reading (h : readers[n]? = some (.reading map stage)) (hne : map ≠ other) :
    stagesAt readers other n = none := by
  rw [stagesAt, h]
  exact if_neg hne

lemma callsOf_append (calls more : List Call) (map : Nat) :
    callsOf (calls ++ more) map = callsOf calls map ++ callsOf more map :=
  List.filterMap_append

lemma callsOn_congr (h : made.calls = g.calls) (map : Nat) : made.callsOn map = g.callsOn map := by
  rw [callsOn, callsOn, h]

lemma stageAt_congr (h : made.readers = g.readers) (map : Nat) :
    made.stageAt map = g.stageAt map := by
  funext n
  rw [stageAt, stageAt, h]

/-- The call that a step is, if it is one, counts at the map where the step is taken. -/
lemma callsOf_called (n map other : Nat) (outcome : Option (Except Failure AnnotationMap)) :
    callsOf (outcome.map (fun outcome => (⟨n, map, outcome⟩ : Call))).toList other =
      if map = other then (outcome.map (fun outcome => (n, outcome))).toList else [] := by
  cases outcome with
  | none => simp [callsOf]
  | some outcome =>
    by_cases h : map = other
    · simp [callsOf, h]
    · simp [callsOf, h]

/-! ## Steps of readers -/

/-- A reader takes a step at its map. -/
lemma read_of_reading (hn : g.readers[n]? = some (.reading map stage))
    (honce : g.providers.maps[map]? = some once) :
    let taken := Once.step stage once g.workspace
    g.read n =
      { g with
        providers := { g.providers with maps := g.providers.maps.set map taken.2.1 }
        readers := g.readers.set n (.reading map taken.1)
        workspace := taken.2.2
        calls := g.calls ++
          ((Once.called? stage taken.1).map (fun outcome => ⟨n, map, outcome⟩)).toList } := by
  rw [read, hn]
  dsimp only
  rw [honce]

/-- A reader turns to its map. -/
lemma read_of_asking {provider : Provider} (hn : g.readers[n]? = some (.asking provider))
    (hmap : g.providers.number provider < g.providers.maps.length) :
    g.read n =
      { g with readers := g.readers.set n (.reading (g.providers.number provider) .arrived) } := by
  rw [read, hn]
  exact if_pos hmap

/-- A reader turns to its map or takes a step there, or nothing happens. -/
lemma read_cases (g : Gathering) (n : Nat) :
    g.read n = g ∨
      (∃ provider, g.readers[n]? = some (.asking provider) ∧
        g.providers.number provider < g.providers.maps.length) ∨
      ∃ map stage once, g.readers[n]? = some (.reading map stage) ∧
        g.providers.maps[map]? = some once := by
  cases hn : g.readers[n]? with
  | none =>
    left
    rw [read, hn]
  | some reader =>
    cases reader with
    | asking provider =>
      by_cases hmap : g.providers.number provider < g.providers.maps.length
      · exact .inr (.inl ⟨provider, rfl, hmap⟩)
      · left
        rw [read, hn]
        exact if_neg hmap
    | reading map stage =>
      cases honce : g.providers.maps[map]? with
      | none =>
        left
        rw [read, hn]
        dsimp only
        rw [honce]
      | some once => exact .inr (.inr ⟨map, stage, once, rfl, honce⟩)

lemma called?_step {w : Workspace} {outcome : Except Failure AnnotationMap}
    (h : Once.called? stage (Once.step stage once w).1 = some outcome) :
    (once.build w).1 = outcome := by
  cases stage with
  | building => exact Option.some.inj h
  | _ => cases h

end Gathering

end Nullability
