import Nullability.Workspace

/-!
# Values that are built once

A value that is built by the first reader who asks for it, while all others wait, and that everybody
reads without waiting afterwards. A failed build is as final as a value, with one exception: if the
user interrupts a build, only its reader hears of it, and the next reader builds again.

A reader takes one step at a time, so that readers can be interleaved in any way: it tests whether
the value is built, takes the lock, tests again, builds, keeps the outcome, marks the value as
built, releases the lock, and reads the outcome. `Once.get` is what a reader without rivals does.
-/

namespace Nullability

/-- A value that is built at most once. -/
structure Once (α : Type) where
  /-- How the value is built. -/
  build : Job α
  /-- Whether a reader holds the lock. -/
  isLocked : Bool
  /-- Whether the value is marked as built. -/
  isBuilt : Bool
  /-- What was kept of an attempt. -/
  outcome : Option (Except Failure α)

namespace Once

variable {α : Type}

/-- A value that nobody has asked for. -/
def ofJob (build : Job α) : Once α :=
  ⟨build, false, false, none⟩

/-- Whether the outcome of an attempt is kept: an interruption is not. -/
def isFinal : Except Failure α → Bool
  | .ok _ => true
  | .error failure => !failure.isInterrupt

/-- One attempt to build the value, whose outcome is kept if it is final. -/
def attempt (once : Once α) (w : Workspace) : Except Failure α × Once α × Workspace :=
  let (outcome, w) := once.build w
  (outcome, if isFinal outcome then { once with isBuilt := true, outcome := some outcome } else once,
    w)

/-- The value, which is built unless an outcome was kept. -/
def get (once : Once α) (w : Workspace) : Except Failure α × Once α × Workspace :=
  match once.outcome with
  | some outcome => (outcome, once, w)
  | none => once.attempt w

/-! ## Readers -/

/-- How far a reader has come. -/
inductive Stage (α : Type) where
  | arrived
  /-- The value was not built; the lock is to be taken. -/
  | waiting
  /-- The reader holds the lock. -/
  | holding
  /-- The value is being built. -/
  | building
  /-- The attempt has come to its end. -/
  | attempted (outcome : Except Failure α)
  /-- The outcome is kept. -/
  | kept
  /-- The value is built; the lock is to be released. -/
  | leaving
  /-- The attempt was interrupted; the lock is to be released. -/
  | abandoning (outcome : Except Failure α)
  /-- The outcome is to be read. -/
  | reading
  /-- The reader has what it found, if it found anything. -/
  | answered (outcome : Option (Except Failure α))
  deriving Inhabited

/-- Whether a reader has come to its end. -/
def Stage.isAnswered : Stage α → Bool
  | .answered _ => true
  | _ => false

/-- What is done with the outcome of an attempt. -/
def keep (once : Once α) (outcome : Except Failure α) : Stage α × Once α :=
  if isFinal outcome then (.kept, { once with outcome := some outcome })
  else (.abandoning outcome, once)

/-- The next step of a reader, who stays where it is if another one holds the lock. -/
def step (stage : Stage α) (once : Once α) (w : Workspace) : Stage α × Once α × Workspace :=
  match stage with
  | .arrived => (if once.isBuilt then .reading else .waiting, once, w)
  | .waiting =>
    if once.isLocked then (.waiting, once, w) else (.holding, { once with isLocked := true }, w)
  | .holding => (if once.isBuilt then .leaving else .building, once, w)
  | .building =>
    let (outcome, w) := once.build w
    (.attempted outcome, once, w)
  | .attempted outcome =>
    let (stage, once) := once.keep outcome
    (stage, once, w)
  | .kept => (.leaving, { once with isBuilt := true }, w)
  | .leaving => (.reading, { once with isLocked := false }, w)
  | .abandoning outcome => (.answered (some outcome), { once with isLocked := false }, w)
  | .reading => (.answered once.outcome, once, w)
  | .answered outcome => (.answered outcome, once, w)

/-! ## Readers in turn -/

/-- One step of every reader, in order. -/
def round (stages : List (Stage α)) (once : Once α) (w : Workspace) :
    List (Stage α) × Once α × Workspace :=
  match stages with
  | [] => ([], once, w)
  | stage :: rest =>
    let (stage, once, w) := step stage once w
    let (rest, once, w) := round rest once w
    (stage :: rest, once, w)

/-- Rounds until every reader has come to its end; `fuel` bounds their number. -/
def rounds : (fuel : Nat) → List (Stage α) → Once α → Workspace →
    List (Stage α) × Once α × Workspace
  | 0, stages, once, w => (stages, once, w)
  | fuel + 1, stages, once, w =>
    if stages.all Stage.isAnswered then (stages, once, w)
    else
      let (stages, once, w) := round stages once w
      rounds fuel stages once w

/-- A number of steps within which a reader that never waits comes to its end. -/
def stepsOfReader : Nat := 9

/-- What some readers find who arrive together and take their steps in turn. -/
def getTogether (readers : Nat) (once : Once α) (w : Workspace) :
    List (Except Failure α) × Once α × Workspace :=
  let (stages, once, w) :=
    rounds (stepsOfReader * readers) (List.replicate readers .arrived) once w
  (stages.filterMap (fun stage =>
    match stage with
    | .answered outcome => outcome
    | _ => none), once, w)

end Once

end Nullability
