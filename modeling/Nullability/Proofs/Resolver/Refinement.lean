import Nullability.Proofs.Resolver.Documents

/-!
# Kept documents are as good as fresh ones

A resolver that keeps documents answers what one that keeps none would answer at the same moment
(`Program.lookup_eq_lookupAfresh`), on every run on which changes are told in time: if the content
of a document changes while it is kept, or the document comes or goes, then one of the resolver's
watches, which may have been stopped long ago, tells of it before the next lookup that gets to the
document. The path that is told may be spelled in any way; only its identity counts. Documents that
are not kept may change without anybody telling.

A run is a list of actions. Along it goes the list of the *untold* keys: those under which a
document is kept that has changed since somebody told of it. The invariant is that every other kept
map is what reading the document would give now (`SideBySide.Fresh`).
-/

namespace Nullability

/-- What can happen while a resolver is in use. -/
inductive Action where
  /-- The resolver is asked. -/
  | lookup (query : Query)
  /-- Files are written, created or deleted. -/
  | edit (tree : FileTree)
  /-- A watch tells a change, even one that did not happen. -/
  | tell (watch : Nat) (change : FileChange)
  /-- The resolver gives up all documents. -/
  | dispose

/-- The path of the file that a change is about: after a renaming, the one it had before. -/
def FileChange.subject? (change : FileChange) : Option Path :=
  match change.kind with
  | .renamed => change.oldPath
  | _ => some change.path

/-- Where a change is understood, it is about the path that was watched. -/
lemma FileChange.subject?_of_watchedPath {change : FileChange} {path : Path}
    (h : change.watchedPath = .ok path) : change.subject? = some path := by
  rw [watchedPath] at h
  split at h
  · rename_i old hkind hold
    split at h
    · cases h
    · rw [subject?, hkind, hold, Except.ok.inj h]
  · cases h
  · rename_i hrenamed hnone
    cases hkind : change.kind with
    | renamed =>
      cases hold : change.oldPath with
      | none => exact absurd hold (hnone hkind)
      | some old => exact absurd hold (hrenamed old hkind)
    | _ => rw [subject?, hkind, Except.ok.inj h]

/-- A change that is not understood is about nothing, or about a path without components. -/
lemma FileChange.parent_subject?_of_error {change : FileChange} {path : Path} {failure : Failure}
    (h : change.watchedPath = .error failure) (hsubject : change.subject? = some path) :
    path.parent = path := by
  rw [watchedPath] at h
  split at h
  · rename_i old hkind hold
    split at h
    · rename_i hparent
      rw [subject?, hkind, hold] at hsubject
      exact Option.some.inj hsubject ▸ hparent
    · cases h
  · rename_i hkind hold
    rw [subject?, hkind, hold] at hsubject
    cases hsubject
  · cases h

/-- The keys of the kept documents whose content, or whose being there, differs between two
trees. -/
def SideBySide.changedKeys (documents : SideBySide) (before after : FileTree) : List String :=
  documents.keys.filter (fun key =>
    before.contentAt (Path.place key) ≠ after.contentAt (Path.place key))

namespace Program

/-- The program after an action. -/
def after (program : Program) (resolver : Nat) : Action → Program
  | .lookup query => (program.lookup resolver query).2
  | .edit tree => { program with workspace := { program.workspace with tree := tree } }
  | .tell watch change => (program.tell watch change).2
  | .dispose => (program.dispose resolver).2

/-- The program after some actions. -/
def afterAll (program : Program) (resolver : Nat) (actions : List Action) : Program :=
  actions.foldl (fun program action => program.after resolver action) program

/-- Whether an action lets a resolver know of a change at a key. -/
def isTold (program : Program) (resolver : Nat) (key : String) : Action → Bool
  | .tell watch change =>
    program.starters[watch]? = some resolver &&
      change.subject?.any (fun path => SideBySide.key program.workspace.tree path = key)
  | .dispose => true
  | _ => false

/-- The untold keys after an action. A lookup counts as well, since the map that it asks first may
have to be built. -/
def untoldAfter (program : Program) (resolver : Nat) (untold : List String) (action : Action) :
    List String :=
  let documents := (program.documents? resolver).getD .empty
  let tree := (program.after resolver action).workspace.tree
  (untold ++ documents.changedKeys program.workspace.tree tree).filter
    (fun key => !program.isTold resolver key action)

/-- What a resolver that keeps no documents would say: what the provided map says, or else what the
document says when it is read at the moment. -/
def lookupAfresh (program : Program) (provider : Provider) (query : Query) :
    Except Failure Bool :=
  match program.lookupProvided provider query with
  | (.ok false, program) =>
    match SideBySide.locate program.workspace.tree query.references query.symbol with
    | .error failure => .error failure
    | .ok none => .ok false
    | .ok (some path) =>
      (AnnotationMap.loadFile path .empty program.workspace).1.map query.isAnsweredBy
  | (answer, _) => answer

/-- The document that a lookup gets to, unless the provided map has the answer. -/
def documentBeside? (program : Program) (provider : Provider) (query : Query) : Option Path :=
  match program.lookupProvided provider query with
  | (.ok false, program) =>
    match SideBySide.locate program.workspace.tree query.references query.symbol with
    | .ok path => path
    | .error _ => none
  | _ => none

/-- Whether an action leaves the current folder where it is, and does not look up a document that
has changed and of which nobody has told. -/
def Heeds (program : Program) (resolver : Nat) (provider : Provider) (untold : List String)
    (action : Action) : Prop :=
  let tree := (program.after resolver action).workspace.tree
  tree.current = program.workspace.tree.current ∧ tree.at? tree.current = some .folder ∧
    match action with
    | .lookup query => ∀ path ∈ program.documentBeside? provider query,
      SideBySide.key tree path ∉ program.untoldAfter resolver untold action
    | _ => True

/-- Whether all actions of a run do. -/
def HeedsAll (resolver : Nat) (provider : Provider) :
    Program → List String → List Action → Prop
  | _, _, [] => True
  | program, untold, action :: rest =>
    program.Heeds resolver provider untold action ∧
      HeedsAll resolver provider (program.after resolver action)
        (program.untoldAfter resolver untold action) rest

instance (program : Program) (resolver : Nat) (provider : Provider) (untold : List String) :
    (action : Action) → Decidable (program.Heeds resolver provider untold action)
  | .lookup query => inferInstanceAs (Decidable (_ ∧ _ ∧
      ∀ path ∈ program.documentBeside? provider query, SideBySide.key _ path ∉ _))
  | .edit _ | .tell _ _ | .dispose => inferInstanceAs (Decidable (_ ∧ _ ∧ True))

instance decidableHeedsAll (resolver : Nat) (provider : Provider) :
    (program : Program) → (untold : List String) → (actions : List Action) →
      Decidable (HeedsAll resolver provider program untold actions)
  | _, _, [] => .isTrue trivial
  | program, untold, action :: rest =>
    have := decidableHeedsAll resolver provider (program.after resolver action)
      (program.untoldAfter resolver untold action) rest
    inferInstanceAs (Decidable (_ ∧ _))

end Program

/-! ## The invariant -/

/-- Every kept map is what its document holds, those under untold keys excepted. No document lies
where a folder is for good. -/
structure SideBySide.Fresh (tree : FileTree) (documents : SideBySide) (untold : List String) :
    Prop where
  names : ∀ name ∈ tree.current, Path.IsName name
  folder : tree.at? tree.current = some .folder
  holds : ∀ key entry, documents.get? key = some entry → key ∉ untold → Holds tree key entry.map
  outside : ∀ key entry, documents.get? key = some entry →
    Path.place key ≠ [] ∧ Path.place key ≠ tree.current

namespace SideBySide

variable {tree : FileTree} {documents : SideBySide} {untold : List String}

/-- Nothing is wrong with no documents. -/
lemma fresh_empty (hnames : ∀ name ∈ tree.current, Path.IsName name)
    (hfolder : tree.at? tree.current = some .folder) : Fresh tree .empty untold := by
  refine ⟨hnames, hfolder, ?_, ?_⟩
  · intro key entry h
    cases h
  · intro key entry h
    cases h

/-- Files may change and entries may go as long as what is kept has not changed or is untold. -/
lemma Fresh.mono {tree' : FileTree} {documents' : SideBySide} {untold' : List String}
    (h : Fresh tree documents untold) (hcurrent : tree'.current = tree.current)
    (hfolder : tree'.at? tree'.current = some .folder)
    (hkept : ∀ key entry, documents'.get? key = some entry → documents.get? key = some entry)
    (huntold : ∀ key entry, documents'.get? key = some entry → key ∉ untold' → key ∉ untold ∧
      tree.contentAt (Path.place key) = tree'.contentAt (Path.place key)) :
    Fresh tree' documents' untold' := by
  refine ⟨hcurrent ▸ h.names, hfolder, ?_, ?_⟩
  · intro key entry hget hkey
    obtain ⟨hkey, hsame⟩ := huntold key entry hget hkey
    exact (h.holds key entry (hkept key entry hget) hkey).of_contentAt_eq hsame
  · intro key entry hget
    rw [hcurrent]
    exact h.outside key entry (hkept key entry hget)

/-- A document that was just read may be kept. -/
lemma Fresh.insert {w : Workspace} {path : Path} {map : AnnotationMap} (watch : Nat)
    (h : Fresh w.tree documents untold) (hpath : path.Proper) (hfile : w.tree.isFile path = true)
    (hload : (AnnotationMap.loadFile path .empty w).1 = .ok map) :
    Fresh w.tree (documents.insert (key w.tree path) ⟨map, watch⟩) untold := by
  have hholds := holds_of_loadFile h.names hpath hfile hload
  refine ⟨h.names, h.folder, ?_, ?_⟩
  · intro k entry hget hkey
    rw [OrderedMap.get?_insert] at hget
    split at hget
    · rename_i hk
      obtain rfl := Option.some.inj hget
      exact hk ▸ hholds
    · exact h.holds k entry hget hkey
  · intro k entry hget
    rw [OrderedMap.get?_insert] at hget
    split at hget
    · rename_i hk
      obtain ⟨content, hcontent, -⟩ := hholds
      rw [hk] at hcontent
      exact ⟨FileTree.ne_of_contentAt hcontent FileTree.at?_nil,
        FileTree.ne_of_contentAt hcontent h.folder⟩
    · exact h.outside k entry hget

/-- A path that is its own parent leads to the root or to the current folder. -/
lemma place_key_of_parent_eq (hnames : ∀ name ∈ tree.current, Path.IsName name) {path : Path}
    (h : path.parent = path) :
    Path.place (key tree path) = [] ∨ Path.place (key tree path) = tree.current := by
  obtain ⟨anchor, parts⟩ := path
  have hparts : parts = [] := by
    have hlength : parts.dropLast.length = parts.length := congrArg (·.parts.length) h
    rw [List.length_dropLast] at hlength
    exact List.eq_nil_of_length_eq_zero (by omega)
  subst hparts
  have hproper : (Path.mk anchor []).Proper := fun part hpart => absurd hpart List.not_mem_nil
  have hresolve : tree.resolve ⟨anchor, []⟩ = .ok (tree.start ⟨anchor, []⟩) := rfl
  have hplace : tree.start ⟨anchor, []⟩ = Path.place (key tree ⟨anchor, []⟩) :=
    Path.resolve_eq_place hnames hproper hresolve
  rw [← hplace, FileTree.start]
  split
  · exact .inl rfl
  · exact .inr rfl

/-- A change leaves no new entries. -/
lemma get?_of_get?_change {change : FileChange} {w : Workspace} {k : String} {entry : Entry}
    (h : (documents.change change w).2.1.get? k = some entry) :
    documents.get? k = some entry := by
  cases hpath : change.watchedPath with
  | error failure => rwa [change_of_error hpath] at h
  | ok path =>
    rw [get?_change hpath] at h
    split at h
    · cases h
    · exact h

/-- After a change no document is kept under the key of the path that it was about. -/
lemma Fresh.get?_change_subject {w : Workspace} {change : FileChange} {path : Path}
    (h : Fresh w.tree documents untold) (hsubject : change.subject? = some path) :
    (documents.change change w).2.1.get? (key w.tree path) = none := by
  cases hpath : change.watchedPath with
  | ok watched =>
    rw [FileChange.subject?_of_watchedPath hpath] at hsubject
    rw [get?_change hpath, Option.some.inj hsubject, if_pos rfl]
  | error failure =>
    -- No document was kept there to begin with.
    rw [change_of_error hpath, Option.eq_none_iff_forall_ne_some]
    intro entry hget
    have houtside := h.outside _ entry hget
    cases place_key_of_parent_eq h.names (FileChange.parent_subject?_of_error hpath hsubject) with
    | inl hroot => exact houtside.1 hroot
    | inr hcurrent => exact houtside.2 hcurrent

end SideBySide

namespace Program

open SideBySide

variable {program : Program} {resolver : Nat} {provider : Provider} {documents : SideBySide}
  {untold : List String}

/-- What is kept and not untold after an action was not untold before, and has not changed. -/
lemma unchanged_of_not_mem_untoldAfter {action : Action} {key : String} {entry : Entry}
    (hresolver : program.resolvers[resolver]? = some (.layered provider documents))
    (hget : documents.get? key = some entry)
    (htold : program.isTold resolver key action = false)
    (hkey : key ∉ program.untoldAfter resolver untold action) :
    key ∉ untold ∧ program.workspace.tree.contentAt (Path.place key) =
      (program.after resolver action).workspace.tree.contentAt (Path.place key) := by
  have hdocuments : (program.documents? resolver).getD .empty = documents := by
    simp [documents?, hresolver]
  simp only [untoldAfter, hdocuments, List.mem_filter, htold, Bool.not_false, and_true,
    List.mem_append, not_or] at hkey
  refine ⟨hkey.1, ?_⟩
  by_contra hne
  apply hkey.2
  rw [changedKeys, List.mem_filter]
  refine ⟨?_, by simpa using hne⟩
  by_contra hnotin
  rw [(documents.get?_eq_none_iff key).2 hnotin] at hget
  cases hget

/-- What a lookup in the documents amounts to, once the provided map is asked. -/
lemma lookup_eq
    (hresolver : program.resolvers[resolver]? = some (.layered provider documents))
    (query : Query) :
    program.lookup resolver query =
      match program.lookupProvided provider query with
      | (.ok false, program) =>
        ((program.lookupBeside resolver query (fun program => ((), program))).1,
          (program.lookupBeside resolver query (fun program => ((), program))).2.2)
      | (answer, program) => (answer, program) := by
  rw [lookup, lookupWith, hresolver]
  cases hprovided : program.lookupProvided provider query with
  | mk answer asked =>
    cases answer with
    | error failure => simp [hprovided]
    | ok found => cases found <;> simp [hprovided]

/-- The two ways in which a lookup can go: it does not get to a document, or it gets to a document
and ends as a lookup of that document does. Either way it is the building of the provided map that
may have changed files. -/
lemma lookup_cases
    (hresolver : program.resolvers[resolver]? = some (.layered provider documents))
    (query : Query) :
    let asked := (program.provide provider).2
    (program.documentBeside? provider query = none ∧
      (program.lookup resolver query).1 = program.lookupAfresh provider query ∧
      (program.lookup resolver query).2 = asked) ∨
    ∃ path outcome others, program.documentBeside? provider query = some path ∧
      path.Proper ∧ asked.workspace.tree.isFile path = true ∧
      Lookup.Ending documents asked.workspace path outcome others ∧
      (program.lookup resolver query).1 = outcome.map query.isAnsweredBy ∧
      program.lookupAfresh provider query =
        (AnnotationMap.loadFile path .empty asked.workspace).1.map query.isAnsweredBy ∧
      (program.lookup resolver query).2.workspace.tree = asked.workspace.tree ∧
      (program.lookup resolver query).2.resolvers[resolver]? = some (.layered provider others) := by
  intro asked
  have hasked : (program.lookupProvided provider query).2 = asked := rfl
  rw [lookup_eq hresolver, lookupAfresh, documentBeside?]
  cases hprovided : program.lookupProvided provider query with
  | mk answer asked' =>
    obtain rfl : asked' = asked := by rw [← hasked, hprovided]
    cases answer with
    | error failure => exact .inl ⟨rfl, rfl, rfl⟩
    | ok found =>
      cases found with
      | true => exact .inl ⟨rfl, rfl, rfl⟩
      | false =>
        simp only [lookupBeside]
        cases hlocate : SideBySide.locate asked.workspace.tree query.references query.symbol with
        | error failure => exact .inl ⟨rfl, rfl, rfl⟩
        | ok found =>
          cases found with
          | none => exact .inl ⟨rfl, rfl, rfl⟩
          | some path =>
            have hlayered : asked.resolvers[resolver]? = some (.layered provider documents) :=
              hresolver
            obtain ⟨outcome, others, hending, b, closed, hlookup, htree, hkept⟩ :=
              lookupDocument_ending hlayered query path
            obtain ⟨hproper, hfile⟩ := locate_eq_some hlocate
            refine .inr ⟨path, outcome, others, rfl, hproper, hfile, hending, ?_⟩
            simp only [hlookup]
            exact ⟨trivial, trivial, htree, hkept⟩

/-! ## Actions -/

/-- A lookup keeps the invariant, and it answers what a fresh look would answer. -/
lemma lookup_fresh {query : Query}
    (hresolver : program.resolvers[resolver]? = some (.layered provider documents))
    (hfresh : Fresh program.workspace.tree documents untold)
    (hheeds : program.Heeds resolver provider untold (.lookup query)) :
    (program.lookup resolver query).1 = program.lookupAfresh provider query ∧
      ∃ others,
        (program.lookup resolver query).2.resolvers[resolver]? = some (.layered provider others) ∧
        Fresh (program.lookup resolver query).2.workspace.tree others
          (program.untoldAfter resolver untold (.lookup query)) := by
  obtain ⟨hcurrent, hfolder, hlookup⟩ := hheeds
  -- Whatever the provided map's building did to files, the kept documents have come through it.
  have hasked : Fresh (program.lookup resolver query).2.workspace.tree documents
      (program.untoldAfter resolver untold (.lookup query)) :=
    hfresh.mono hcurrent hfolder (fun _ _ hget => hget)
      (fun _ _ hget hkey => unchanged_of_not_mem_untoldAfter hresolver hget rfl hkey)
  cases lookup_cases hresolver query with
  | inl h =>
    obtain ⟨-, hanswer, hafter⟩ := h
    refine ⟨hanswer, documents, ?_, hasked⟩
    rw [hafter]
    exact hresolver
  | inr h =>
    obtain ⟨path, outcome, others, hbeside, hproper, hfile, hending, hanswer, hafresh, htree,
      hkept⟩ := h
    have hnotold : key (program.lookup resolver query).2.workspace.tree path ∉
        program.untoldAfter resolver untold (.lookup query) := hlookup path hbeside
    rw [hanswer, hafresh]
    rw [htree] at hasked hnotold ⊢
    cases hending with
    | kept hget =>
      have hload := loadFile_of_holds hasked.names hproper hfile
        (hasked.holds _ _ hget hnotold)
      rw [hload]
      exact ⟨rfl, documents, hkept, hasked⟩
    | failed hget hload =>
      rw [hload]
      exact ⟨rfl, documents, hkept, hasked⟩
    | read watch hget hload =>
      rw [hload]
      exact ⟨rfl, _, hkept, hasked.insert watch hproper hfile hload⟩

/-- A change that is told keeps the invariant: what it is about is not kept any more. -/
lemma tell_fresh {watch : Nat} {change : FileChange}
    (hresolver : program.resolvers[resolver]? = some (.layered provider documents))
    (hfresh : Fresh program.workspace.tree documents untold) :
    ∃ others,
      (program.tell watch change).2.resolvers[resolver]? = some (.layered provider others) ∧
      Fresh (program.tell watch change).2.workspace.tree others
        (program.untoldAfter resolver untold (.tell watch change)) := by
  by_cases hwatch : program.starters[watch]? = some resolver
  · obtain ⟨htree, hafter⟩ := tell_own hresolver hwatch change
    refine ⟨_, hafter, hfresh.mono (by rw [htree]) (by rw [htree]; exact hfresh.folder)
      (fun _ _ hget => get?_of_get?_change hget) ?_⟩
    intro key entry hget hkey
    refine unchanged_of_not_mem_untoldAfter hresolver (get?_of_get?_change hget) ?_ hkey
    rw [isTold, Bool.and_eq_false_iff]
    refine .inr ?_
    cases hsubject : change.subject? with
    | none => rfl
    | some path =>
      rw [Option.any_some, decide_eq_false_iff_not]
      intro hk
      rw [← hk, hfresh.get?_change_subject hsubject] at hget
      cases hget
  · obtain ⟨htree, hafter⟩ := tell_other hwatch change
    refine ⟨documents, hafter.trans hresolver,
      hfresh.mono (by rw [htree]) (by rw [htree]; exact hfresh.folder) (fun _ _ hget => hget) ?_⟩
    intro key entry hget hkey
    refine unchanged_of_not_mem_untoldAfter hresolver hget ?_ hkey
    simp [isTold, hwatch]

/-- Every action keeps the invariant. -/
lemma after_fresh {action : Action}
    (hresolver : program.resolvers[resolver]? = some (.layered provider documents))
    (hfresh : Fresh program.workspace.tree documents untold)
    (hheeds : program.Heeds resolver provider untold action) :
    ∃ others,
      (program.after resolver action).resolvers[resolver]? = some (.layered provider others) ∧
      Fresh (program.after resolver action).workspace.tree others
        (program.untoldAfter resolver untold action) := by
  cases action with
  | lookup query => exact (lookup_fresh hresolver hfresh hheeds).2
  | edit tree =>
    obtain ⟨hcurrent, hfolder, -⟩ := hheeds
    exact ⟨documents, hresolver, hfresh.mono hcurrent hfolder (fun _ _ hget => hget)
      (fun _ _ hget hkey => unchanged_of_not_mem_untoldAfter hresolver hget rfl hkey)⟩
  | tell watch change => exact tell_fresh hresolver hfresh
  | dispose =>
    obtain ⟨htree, hafter⟩ := dispose_own hresolver
    refine ⟨.empty, hafter, fresh_empty ?_ ?_⟩
    · rw [after, htree]
      exact hfresh.names
    · rw [after, htree]
      exact hfresh.folder

/-- At the end of a run that is heeded and goes on with further actions, the invariant holds, and
the further actions are heeded. -/
lemma afterAll_fresh {actions later : List Action}
    (hresolver : program.resolvers[resolver]? = some (.layered provider documents))
    (hfresh : Fresh program.workspace.tree documents untold)
    (hheeds : HeedsAll resolver provider program untold (actions ++ later)) :
    ∃ others untold',
      (program.afterAll resolver actions).resolvers[resolver]? = some (.layered provider others) ∧
      Fresh (program.afterAll resolver actions).workspace.tree others untold' ∧
      HeedsAll resolver provider (program.afterAll resolver actions) untold' later := by
  induction actions generalizing program documents untold with
  | nil => exact ⟨documents, untold, hresolver, hfresh, hheeds⟩
  | cons action rest ih =>
    obtain ⟨hnow, hrest⟩ := hheeds
    obtain ⟨others, hafter, hothers⟩ := after_fresh hresolver hfresh hnow
    exact ih hafter hothers hrest

/-- Every lookup of a run on which changes are told in time answers what a resolver that keeps no
documents would answer at that moment. -/
theorem lookup_eq_lookupAfresh {actions earlier later : List Action} {query : Query}
    (hresolver : program.resolvers[resolver]? = some (.layered provider .empty))
    (hnames : ∀ name ∈ program.workspace.tree.current, Path.IsName name)
    (hfolder : program.workspace.tree.at? program.workspace.tree.current = some .folder)
    (hheeds : HeedsAll resolver provider program [] actions)
    (hactions : actions = earlier ++ .lookup query :: later) :
    ((program.afterAll resolver earlier).lookup resolver query).1 =
      (program.afterAll resolver earlier).lookupAfresh provider query := by
  rw [hactions] at hheeds
  obtain ⟨documents, untold, hafter, hfresh, hnow, -⟩ :=
    afterAll_fresh hresolver (fresh_empty hnames hfolder) hheeds
  exact (lookup_fresh hafter hfresh hnow).1

/-- A document that says that one type is annotated. -/
def sampleDocument : String :=
  "<assembly><member name=\"T:A\"><attribute " ++
    "ctor=\"M:JetBrains.Annotations.CanBeNullAttribute.#ctor\"/></member></assembly>"

/-- The files when the document beside an assembly holds a text. -/
def sampleTree (text : String) : FileTree :=
  ((FileTree.withCurrent ["w"]).put ["w", "lib"] .folder).put
    ["w", "lib", "L.ExternalAnnotations.xml"] (.file (Text.utf8 text) 0)

/-- A program with one resolver, whose provided map is empty. -/
def sampleProgram : Program :=
  ⟨.ofTree (sampleTree sampleDocument) 0, .ofMap (.ofJob (Job.result .empty)),
    [.layered .program .empty], []⟩

/-- Whether the type is annotated. -/
def sampleQuery : Query :=
  ⟨⟨"A", some "T:A", false, none, some "L"⟩, false, .ofList [("L", "lib/L.dll")]⟩

/-- The document is looked up, rewritten, and told to have changed, under another spelling of its
path. -/
def sampleRun : List Action :=
  [.lookup sampleQuery, .edit (sampleTree "<assembly/>"),
    .tell 0 ⟨.changed, .ofText "/w/lib/../lib/L.ExternalAnnotations.xml", none⟩]

theorem lookup_eq_lookupAfresh_sample :
    HeedsAll 0 .program sampleProgram [] (sampleRun ++ [.lookup sampleQuery]) ∧
      ((sampleProgram.afterAll 0 sampleRun).lookup 0 sampleQuery).1 =
        (sampleProgram.afterAll 0 sampleRun).lookupAfresh .program sampleQuery := by
  have hheeds : HeedsAll 0 .program sampleProgram [] (sampleRun ++ [.lookup sampleQuery]) := by
    decide +kernel
  exact ⟨hheeds, lookup_eq_lookupAfresh rfl (by decide) (by decide) hheeds rfl⟩

end Program

end Nullability
