import Nullability.Provider
import Nullability.SideBySide.Eviction
import Nullability.SideBySide.Lookup

/-!
# Resolvers

A resolver says whether a symbol is annotated. The simplest one looks into a fixed map, another one
into a provided map; a third one looks beyond that into the documents beside assemblies. A program
has some resolvers and works with them on one workspace. Watches tell their changes to the resolver
that started them.
-/

namespace Nullability

/-- What a lookup is about. -/
structure Query where
  symbol : Symbol
  /-- Whether the items of the symbol's value are meant. -/
  appliesToItem : Bool
  references : References
  deriving Inhabited

/-- Whether a map says that the symbol of a query is annotated. -/
def Query.isAnsweredBy (query : Query) (m : AnnotationMap) : Bool :=
  m.answersSymbol query.symbol query.appliesToItem

/-- Somebody who says whether symbols are annotated. -/
inductive Resolver where
  /-- Looks into a fixed map. -/
  | fixed (map : AnnotationMap)
  /-- Looks into a provided map. -/
  | provided (provider : Provider)
  /-- Looks into a provided map, then into the document beside the symbol's assembly. -/
  | layered (provider : Provider) (documents : SideBySide)
  deriving Inhabited

/-- A program that asks resolvers about symbols. -/
structure Program where
  workspace : Workspace
  providers : Providers
  /-- The resolvers by their numbers. -/
  resolvers : List Resolver
  /-- The numbers of the resolvers that started the watches. -/
  starters : List Nat

namespace Program

variable {α β : Type}

/-- A program without resolvers, which shares a map. -/
def ofWorkspace (w : Workspace) (shared : Once AnnotationMap) : Program :=
  ⟨w, .ofMap shared, [], []⟩

/-- Does a job on the workspace. -/
def perform (program : Program) (job : Job α) : Except Failure α × Program :=
  let (outcome, w) := job program.workspace
  (outcome, { program with workspace := w })

/-- Replaces the map that the program shares. -/
def share (program : Program) (map : Once AnnotationMap) : Program :=
  { program with providers := program.providers.share map }

/-- Sets up a map. -/
def addMap (program : Program) (map : Once AnnotationMap) : Provider × Program :=
  let (provider, providers) := program.providers.add map
  (provider, { program with providers := providers })

/-- Sets up a resolver, which gets a number. -/
def addResolver (program : Program) (resolver : Resolver) : Nat × Program :=
  (program.resolvers.length, { program with resolvers := program.resolvers ++ [resolver] })

/-- The map of a provider. -/
def provide (program : Program) (provider : Provider) :
    Except Failure AnnotationMap × Program :=
  let (outcome, providers, w) := program.providers.get provider program.workspace
  (outcome, { program with providers := providers, workspace := w })

/-- The documents that a resolver keeps, if it looks into documents at all. -/
def documents? (program : Program) (resolver : Nat) : Option SideBySide :=
  match program.resolvers[resolver]? with
  | some (.layered _ documents) => some documents
  | _ => none

/-- The documents that a resolver keeps, where it is a failure if it does not look into any. -/
def documents (program : Program) (resolver : Nat) : Except Failure SideBySide :=
  match program.documents? resolver with
  | some documents => .ok documents
  | none => .error .missingPart

/-- Has a resolver keep other documents. -/
def setDocuments (program : Program) (resolver : Nat) (documents : SideBySide) : Program :=
  { program with
    resolvers := program.resolvers.modify resolver (fun found =>
      match found with
      | .layered provider _ => .layered provider documents
      | found => found) }

/-- Works on the documents of a resolver and on the workspace. -/
def onDocuments (program : Program) (resolver : Nat)
    (work : SideBySide → Workspace → α × SideBySide × Workspace) : Except Failure α × Program :=
  match program.documents resolver with
  | .error failure => (.error failure, program)
  | .ok documents =>
    let (a, documents, w) := work documents program.workspace
    (.ok a, { program with workspace := w }.setDocuments resolver documents)

/-! ## Lookups -/

/-- Sees to it that the provided map of a resolver is built. -/
def prepare (program : Program) (resolver : Nat) : Except Failure Unit × Program :=
  match program.resolvers[resolver]? with
  | none => (.error .missingPart, program)
  | some (.fixed _) => (.ok (), program)
  | some (.provided provider) | some (.layered provider _) =>
    let (outcome, program) := program.provide provider
    (outcome.map (fun _ => ()), program)

/-- Notes who started the watch that a lookup is about to keep. -/
def noteStarter (program : Program) (resolver : Nat) (lookup : SideBySide.Lookup) : Program :=
  match lookup.ownWatch? with
  | some _ => { program with starters := program.starters ++ [resolver] }
  | none => program

/-- Looks a query up in the document at a path. If a watch is started, `meanwhile` happens before
the document is kept. -/
def lookupDocument (program : Program) (resolver : Nat) (query : Query) (path : Path)
    (meanwhile : Program → β × Program) : Except Failure Bool × Option β × Program :=
  let opened := program.onDocuments resolver (SideBySide.Lookup.ofPath path).runToWatch
  match opened with
  | (.error failure, program) => (.error failure, none, program)
  | (.ok lookup, program) =>
    let program := program.noteStarter resolver lookup
    let (b, program) :=
      if lookup.ownWatch?.isSome then
        let (b, program) := meanwhile program
        (some b, program)
      else (none, program)
    match program.onDocuments resolver lookup.runFromWatch with
    | (.error failure, program) => (.error failure, b, program)
    | (.ok lookup, program) =>
      match lookup.outcome with
      | some outcome => (outcome.map query.isAnsweredBy, b, program)
      | none => (.error .missingPart, b, program)

/-- Looks a query up in the document beside the assembly of its symbol. -/
def lookupBeside (program : Program) (resolver : Nat) (query : Query)
    (meanwhile : Program → β × Program) : Except Failure Bool × Option β × Program :=
  match SideBySide.locate program.workspace.tree query.references query.symbol with
  | .error failure => (.error failure, none, program)
  | .ok none => (.ok false, none, program)
  | .ok (some path) => program.lookupDocument resolver query path meanwhile

/-- Looks a query up in a provided map. -/
def lookupProvided (program : Program) (provider : Provider) (query : Query) :
    Except Failure Bool × Program :=
  let (outcome, program) := program.provide provider
  (outcome.map query.isAnsweredBy, program)

/-- Asks a resolver. If it starts a watch, `meanwhile` happens before it keeps what it has read. -/
def lookupWith (program : Program) (resolver : Nat) (query : Query)
    (meanwhile : Program → β × Program) : Except Failure Bool × Option β × Program :=
  match program.resolvers[resolver]? with
  | none => (.error .missingPart, none, program)
  | some (.fixed map) => (.ok (query.isAnsweredBy map), none, program)
  | some (.provided provider) =>
    let (answer, program) := program.lookupProvided provider query
    (answer, none, program)
  | some (.layered provider _) =>
    match program.lookupProvided provider query with
    | (.ok false, program) => program.lookupBeside resolver query meanwhile
    | (answer, program) => (answer, none, program)

/-- Asks a resolver. -/
def lookup (program : Program) (resolver : Nat) (query : Query) : Except Failure Bool × Program :=
  let (answer, _, program) := program.lookupWith resolver query (fun program => ((), program))
  (answer, program)

/-! ## Documents -/

/-- Whether a resolver keeps the document at a path. -/
def keeps (program : Program) (resolver : Nat) (path : Path) : Except Failure Bool :=
  (program.documents resolver).map (fun documents => documents.keeps program.workspace.tree path)

/-- Has a watch tell a change to the resolver that started it. -/
def tell (program : Program) (watch : Nat) (change : FileChange) : Except Failure Unit × Program :=
  match program.starters[watch]? with
  | none => (.error .outOfBounds, program)
  | some resolver =>
    let (outcome, program) :=
      program.onDocuments resolver (fun documents => documents.change change)
    (outcome.bind id, program)

/-- Has a resolver give up all documents. -/
def dispose (program : Program) (resolver : Nat) : Except Failure Unit × Program :=
  let (outcome, program) := program.onDocuments resolver SideBySide.dispose
  (outcome.bind id, program)

end Program

end Nullability
