import Nullability.Proofs.SideBySide.Ownership

/-!
# Which changes are missed

Every change of a watched document is told sooner or later, and what is told evicts the document. So
one would expect a kept document to be what its file holds whenever nobody is at work and nothing is
left to be told. That is so with one exception: a document that changes after a lookup has read it,
and before the lookup keeps it. There is no watch yet when the document changes, or what is told
about the change finds nothing to evict; either way an outdated document is kept, and nobody will
tell. `Traffic.holds_iff_not_overtaken` says that nothing else can go wrong, and
`Traffic.not_holds_of_overtaken` that this can.

Along a run goes an account of the *untold* keys, those under which a watched document has changed
since somebody told of it, and of the *overtaken* ones, under which a document is kept that was
outdated from the beginning.
-/

namespace Nullability.SideBySide

lemma holds_iff {tree : FileTree} {k : String} {map : AnnotationMap} :
    Holds tree k map ↔ (tree.contentAt (Path.place k)).any (fun content =>
      (AnnotationMap.loadOutcome .empty "" content).toOption = some map) = true := by
  rw [Option.any_eq_true]
  constructor
  · rintro ⟨content, hcontent, hload⟩
    refine ⟨content, hcontent, ?_⟩
    rw [hload ""]
    exact decide_eq_true rfl
  · rintro ⟨content, hcontent, hload⟩
    refine ⟨content, hcontent, ?_⟩
    cases houtcome : AnnotationMap.loadOutcome .empty "" content with
    | error failure =>
      rw [houtcome] at hload
      cases of_decide_eq_true hload
    | ok found =>
      rw [houtcome] at hload
      obtain rfl := Option.some.inj (of_decide_eq_true hload)
      exact AnnotationMap.loadOutcome_source houtcome

instance (tree : FileTree) (k : String) (map : AnnotationMap) : Decidable (Holds tree k map) :=
  decidable_of_iff' _ holds_iff

/-- Whether a document, or its being there, differs between two trees. -/
def differs (before after : FileTree) (k : String) : Bool :=
  before.contentAt (Path.place k) ≠ after.contentAt (Path.place k)

lemma contentAt_eq_of_differs {before after : FileTree} {k : String}
    (h : differs before after k = false) :
    before.contentAt (Path.place k) = after.contentAt (Path.place k) :=
  not_ne_iff.1 (of_decide_eq_false h)

/-- Whether a change of the document with a key is told. -/
def Move.tells (tree : FileTree) (k : String) : Move → Bool
  | .tell change => change.watchedPath.toOption.any (fun path => key tree path = k)
  | _ => false

/-- What a lookup has read and not kept so far. -/
def Party.reading? : Party → Option (Path × AnnotationMap)
  | .looking ⟨path, .read map⟩ => some (path, map)
  | .looking ⟨path, .watched entry⟩ => some (path, entry.map)
  | _ => none

namespace Traffic

/-- What is to be known about changes: under which keys a document has changed of which nobody has
told since, and under which ones a document is kept that was outdated from the beginning. -/
structure Account where
  untold : List String
  overtaken : List String

/-- The keys of the documents with a live watch. -/
def watchedKeys (traffic : Traffic) : List String :=
  (traffic.workspace.watches.filter (fun found => found.stops = 0)).map
    (fun found => key traffic.workspace.tree found.path)

def untoldAfter (traffic : Traffic) (untold : List String) (move : Move) : List String :=
  let tree := traffic.workspace.tree
  (untold ++ traffic.watchedKeys.filter (differs tree (traffic.after move).workspace.tree)).filter
    (fun k => !move.tells tree k)

def overtakenAfter (traffic : Traffic) (overtaken : List String) (move : Move) : List String :=
  let next := traffic.after move
  (next.documents.filter (fun k entry =>
    if traffic.documents.contains k then k ∈ overtaken
    else ¬ Holds next.workspace.tree k entry.map)).keys

def accountAfter (traffic : Traffic) (account : Account) (move : Move) : Account :=
  ⟨traffic.untoldAfter account.untold move, traffic.overtakenAfter account.overtaken move⟩

/-- The account at the end of a run. -/
def account : Traffic → Account → List Move → Account
  | _, account, [] => account
  | traffic, before, move :: rest =>
    (traffic.after move).account (traffic.accountAfter before move) rest

/-- Whether a document changes that a lookup has read and not kept so far. -/
def disturbs (traffic : Traffic) (move : Move) : Bool :=
  let tree := traffic.workspace.tree
  traffic.parties.any (fun party => party.reading?.any (fun reading =>
    differs tree (traffic.after move).workspace.tree (key tree reading.1)))

/-- Whether no document changes while a lookup has read it and not kept it so far. -/
def Undisturbed : Traffic → List Move → Prop
  | _, [] => True
  | traffic, move :: rest =>
    traffic.disturbs move = false ∧ (traffic.after move).Undisturbed rest

instance decidableUndisturbed : (traffic : Traffic) → (moves : List Move) →
    Decidable (traffic.Undisturbed moves)
  | _, [] => .isTrue trivial
  | traffic, move :: rest =>
    have := decidableUndisturbed (traffic.after move) rest
    inferInstanceAs (Decidable (_ ∧ _))

variable {traffic next : Traffic} {account : Account} {move : Move}

/-! ## The account -/

/-- Whether an eviction of the document with a key has begun and not taken it out so far. -/
def IsTold (traffic : Traffic) (k : String) : Prop :=
  ∃ path kind, .evicting ⟨path, kind, .arrived⟩ ∈ traffic.parties ∧
    key traffic.workspace.tree path = k

lemma isTold_of_tells {k : String} (h : move.tells traffic.workspace.tree k = true) :
    (traffic.after move).IsTold k := by
  cases move with
  | tell change =>
    rw [Move.tells] at h
    cases hpath : change.watchedPath with
    | error failure =>
      rw [hpath] at h
      cases h
    | ok path =>
      rw [hpath] at h
      have hjoined : traffic.after (.tell change) =
          traffic.join (.evicting ⟨path, change.kind, .arrived⟩) := by
        rw [after, Eviction.ofChange, hpath]
        rfl
      rw [hjoined]
      exact ⟨path, change.kind, List.mem_append_right _ List.mem_cons_self, of_decide_eq_true h⟩
  | _ => cases h

/-- Who is told evicts the document: an eviction that has begun stays so until the document is taken
out. -/
lemma IsTold.turn {k : String} (h : traffic.IsTold k) (hturn : Turn traffic next)
    (hkept : next.documents.get? k ≠ none) : next.IsTold k := by
  obtain ⟨path, kind, hmem, rfl⟩ := h
  refine ⟨path, kind, ?_, hturn.key_eq path⟩
  cases hturn with
  | idle => exact hmem
  | joined party hbeginning => exact List.mem_append_left _ hmem
  | stepped before later hparties hstep =>
    rw [hparties] at hmem
    rcases mem_of_mem_replaced rfl hmem with hstays | ⟨rfl, -⟩
    · exact hstays
    · -- The eviction itself has moved.
      exact absurd hstep.get?_of_evicting hkept
  | refused before later party failure hparties =>
    rw [hparties] at hmem
    rcases mem_of_mem_replaced rfl hmem with hstays | ⟨rfl, hrefused⟩
    · exact hstays
    · exact hrefused
  | edited nodes => exact hmem

lemma not_isTold_of_isCalm {k : String} (h : traffic.isCalm = true) : ¬ traffic.IsTold k := by
  rintro ⟨path, kind, hmem, -⟩
  cases List.all_eq_true.1 h _ hmem

/-- A change of a kept document is noted as untold, unless it is told right away. -/
lemma mem_untoldAfter {k : String} {entry : Entry} {untold : List String}
    (horderly : traffic.Orderly) (hget : traffic.documents.get? k = some entry)
    (htells : move.tells traffic.workspace.tree k = false)
    (h : k ∈ untold ∨
      differs traffic.workspace.tree (traffic.after move).workspace.tree k = true) :
    k ∈ traffic.untoldAfter untold move := by
  rw [untoldAfter, List.mem_filter, List.mem_append, htells]
  refine ⟨?_, rfl⟩
  rcases h with hold | hdiffers
  · exact .inl hold
  · -- The document has a live watch.
    refine .inr (List.mem_filter.2 ⟨?_, hdiffers⟩)
    obtain ⟨hlive, found, hfound, hk⟩ := horderly.oneToOne.live k entry hget
    rw [Workspace.isLive, hfound] at hlive
    exact List.mem_map.2 ⟨found, List.mem_filter.2 ⟨List.mem_of_getElem? hfound, hlive⟩, hk⟩

lemma mem_keys_filter {documents : SideBySide} {keeps : String → Entry → Bool} {k : String}
    {entry : Entry} (hget : documents.get? k = some entry) :
    k ∈ (documents.filter keeps).keys ↔ keeps k entry = true := by
  rw [OrderedMap.keys, Pairs.keys, List.mem_map]
  constructor
  · rintro ⟨⟨k', entry'⟩, hmem, rfl⟩
    obtain ⟨hmem, hkeeps⟩ := List.mem_filter.1 hmem
    have hget' := (documents.mem_entries_iff _ _).1 hmem
    obtain rfl := Option.some.inj (hget.symm.trans hget')
    exact hkeeps
  · intro hkeeps
    exact ⟨(k, entry), List.mem_filter.2 ⟨(documents.mem_entries_iff _ _).2 hget, hkeeps⟩, rfl⟩

lemma mem_overtakenAfter_of_kept {k : String} {entry entry' : Entry} {overtaken : List String}
    (hget : (traffic.after move).documents.get? k = some entry)
    (hkept : traffic.documents.get? k = some entry') :
    k ∈ traffic.overtakenAfter overtaken move ↔ k ∈ overtaken := by
  have hcontains : traffic.documents.contains k = true := by
    rw [OrderedMap.contains, hkept]
    rfl
  rw [overtakenAfter, mem_keys_filter hget, if_pos hcontains, decide_eq_true_iff]

lemma mem_overtakenAfter_of_new {k : String} {entry : Entry} {overtaken : List String}
    (hget : (traffic.after move).documents.get? k = some entry)
    (hnew : traffic.documents.get? k = none) :
    k ∈ traffic.overtakenAfter overtaken move ↔
      ¬ Holds (traffic.after move).workspace.tree k entry.map := by
  have hcontains : ¬ traffic.documents.contains k = true := by
    rw [OrderedMap.contains, hnew]
    exact Bool.false_ne_true
  rw [overtakenAfter, mem_keys_filter hget, if_neg hcontains, decide_eq_true_iff]

/-- Each kept document is untold, or its eviction has begun, or it is what its file holds, unless
it was overtaken. -/
structure Accounted (traffic : Traffic) (account : Account) : Prop where
  orderly : traffic.Orderly
  holds : ∀ k entry, traffic.documents.get? k = some entry →
    k ∈ account.untold ∨ traffic.IsTold k ∨
      (Holds traffic.workspace.tree k entry.map ↔ k ∉ account.overtaken)

lemma Accounted.after (h : traffic.Accounted account) (move : Move) :
    (traffic.after move).Accounted (traffic.accountAfter account move) := by
  have hturn := traffic.turn_after move
  refine ⟨hturn.orderly h.orderly, ?_⟩
  intro k entry hget
  rcases hturn.get?_eq_some hget with hkept | ⟨hnew, -, -⟩
  · -- What was kept before is untold, or about to be evicted, or as right or wrong as before.
    cases htells : move.tells traffic.workspace.tree k with
    | true => exact .inr (.inl (isTold_of_tells htells))
    | false =>
      rcases h.holds k entry hkept with huntold | htold | hholds
      · exact .inl (mem_untoldAfter h.orderly hkept htells (.inl huntold))
      · have hne : (traffic.after move).documents.get? k ≠ none := by
          rw [hget]
          exact Option.some_ne_none entry
        exact .inr (.inl (htold.turn hturn hne))
      · cases hdiffers : differs traffic.workspace.tree (traffic.after move).workspace.tree k with
        | true => exact .inl (mem_untoldAfter h.orderly hkept htells (.inr hdiffers))
        | false =>
          have hsame := contentAt_eq_of_differs hdiffers
          refine .inr (.inr ?_)
          rw [accountAfter, mem_overtakenAfter_of_kept hget hkept, ← hholds]
          exact ⟨fun hafter => hafter.of_contentAt_eq hsame.symm,
            fun hbefore => hbefore.of_contentAt_eq hsame⟩
  · -- What is new is judged right away.
    refine .inr (.inr ?_)
    rw [accountAfter, mem_overtakenAfter_of_new hget hnew, not_not]

lemma Accounted.run {moves : List Move} (h : traffic.Accounted account) :
    (traffic.run moves).Accounted (traffic.account account moves) := by
  induction moves generalizing traffic account with
  | nil => exact h
  | cons move rest ih => exact ih (h.after move)

lemma accounted_start (w : Workspace) : (start w).Accounted ⟨[], []⟩ := by
  refine ⟨orderly_start w, ?_⟩
  intro k entry hget
  cases hget

/-! ## Undisturbed runs -/

/-- What was read and not kept so far is what its file holds. -/
structure Reliable (traffic : Traffic) : Prop where
  names : ∀ name ∈ traffic.workspace.tree.current, Path.IsName name
  proper : ∀ lookup, .looking lookup ∈ traffic.parties → lookup.path.Proper
  holds : ∀ party path map, party ∈ traffic.parties → party.reading? = some (path, map) →
    Holds traffic.workspace.tree (key traffic.workspace.tree path) map

end Traffic

section Steps

variable {documents documents' : SideBySide} {w w' : Workspace} {party party' : Party} {path : Path}
  {map : AnnotationMap}

lemma Party.Step.exists_looking {lookup : Lookup}
    (h : party.Step documents w (.looking lookup) documents' w') :
    ∃ stage, party = .looking ⟨lookup.path, stage⟩ := by
  cases h <;> exact ⟨_, rfl⟩

/-- What a lookup has read it had read before, or the step was to read it. -/
lemma Party.Step.reading? (h : party.Step documents w party' documents' w')
    (hreading : party'.reading? = some (path, map)) :
    party.reading? = some (path, map) ∨
      party = .looking ⟨path, .missed⟩ ∧ (AnnotationMap.loadFile path .empty w).1 = .ok map := by
  cases h with
  | read hload =>
    obtain ⟨rfl, rfl⟩ := Prod.mk.inj (Option.some.inj hreading)
    exact .inr ⟨rfl, hload⟩
  | watch => exact .inl hreading
  | rest hfinished => exact .inl hreading
  | _ => cases hreading

lemma Party.exists_looking_of_refuse {failure : Failure} {lookup : Lookup}
    (h : party.refuse failure = .looking lookup) :
    ∃ stage, party = .looking ⟨lookup.path, stage⟩ := by
  cases party with
  | looking own =>
    obtain ⟨path, stage⟩ := own
    refine ⟨stage, ?_⟩
    cases stage <;> cases h <;> rfl
  | evicting eviction => cases h
  | disposing disposal => cases h

lemma Party.reading?_refuse {failure : Failure}
    (h : (party.refuse failure).reading? = some (path, map)) :
    party.reading? = some (path, map) := by
  cases party with
  | looking lookup =>
    obtain ⟨own, stage⟩ := lookup
    cases stage with
    | missed => cases h
    | read found => cases h
    | _ => exact h
  | evicting eviction => cases h
  | disposing disposal => cases h

lemma Lookup.exists_ending (documents : SideBySide) (w : Workspace) (path : Path) :
    ∃ outcome others, ((ofPath path).run documents w).1.outcome = some outcome ∧
      Ending documents w path outcome others := by
  rw [run]
  cases hget : documents.get? (key w.tree path) with
  | some entry =>
    refine ⟨_, _, ?_, .kept hget⟩
    rw [runToWatch_of_kept hget]
    rfl
  | none =>
    cases hload : (AnnotationMap.loadFile path .empty w).1 with
    | error failure =>
      refine ⟨_, _, ?_, .failed hget hload⟩
      rw [runToWatch_of_failed hget hload]
      rfl
    | ok map =>
      obtain ⟨watch, w', hrun, htree⟩ := runToWatch_of_read hget hload
      refine ⟨_, _, ?_, .read watch hget hload⟩
      obtain ⟨w'', hkeep, -⟩ :=
        @runFromWatch_of_watched documents w' path ⟨map, watch⟩ (htree ▸ hget)
      rw [hrun]
      simp only [hkeep]
      rfl

lemma isFile_of_loadFile (h : (AnnotationMap.loadFile path .empty w).1 = .ok map) :
    w.tree.isFile path = true := by
  rw [AnnotationMap.loadFile_eq] at h
  obtain ⟨content, hread, -⟩ := Outcome.bind_eq_ok.1 h
  obtain ⟨⟨content', modified⟩, hfile, -⟩ := Outcome.map_eq_ok.1 hread
  obtain ⟨place, hplace, hnode⟩ := FileTree.file_eq_ok_iff.1 hfile
  rw [FileTree.isFile, FileTree.node?, hplace]
  simp only [hnode]

end Steps

namespace Traffic

variable {traffic : Traffic} {move : Move}

lemma differs_of_disturbs {party : Party} {path : Path} {map : AnnotationMap}
    (h : traffic.disturbs move = false) (hmem : party ∈ traffic.parties)
    (hreading : party.reading? = some (path, map)) :
    differs traffic.workspace.tree (traffic.after move).workspace.tree
      (key traffic.workspace.tree path) = false := by
  have hparty := List.any_eq_false.1 h party hmem
  rw [hreading, Option.any_some, Bool.not_eq_true] at hparty
  exact hparty

lemma Reliable.after (h : traffic.Reliable) (hdisturbs : traffic.disturbs move = false) :
    (traffic.after move).Reliable := by
  have hturn := traffic.turn_after move
  -- What was read is still right, since no move changes a document that somebody has read.
  have hold : ∀ party path map, party ∈ traffic.parties → party.reading? = some (path, map) →
      Holds (traffic.after move).workspace.tree (key traffic.workspace.tree path) map := by
    intro party path map hmem hreading
    have hdiffers := differs_of_disturbs hdisturbs hmem hreading
    exact (h.holds party path map hmem hreading).of_contentAt_eq (contentAt_eq_of_differs hdiffers)
  refine ⟨?_, ?_, ?_⟩
  · rw [hturn.current_eq]
    exact h.names
  · intro lookup hmem
    rcases hturn.mem_cases hmem with hkept | hbeginning | ⟨former, hformer, failure, hrefused⟩ |
      ⟨former, hformer, hstep⟩
    · exact h.proper lookup hkept
    · cases hbeginning with
      | looking path proper => exact proper
    · obtain ⟨stage, rfl⟩ := Party.exists_looking_of_refuse hrefused.symm
      exact h.proper ⟨lookup.path, stage⟩ hformer
    · obtain ⟨stage, rfl⟩ := hstep.exists_looking
      exact h.proper ⟨lookup.path, stage⟩ hformer
  · intro party path map hmem hreading
    rw [hturn.key_eq]
    rcases hturn.mem_cases hmem with hkept | hbeginning | ⟨former, hformer, failure, rfl⟩ |
      ⟨former, hformer, hstep⟩
    · exact hold party path map hkept hreading
    · cases hbeginning <;> cases hreading
    · exact hold former path map hformer (Party.reading?_refuse hreading)
    · rcases hstep.reading? hreading with hread | ⟨rfl, hload⟩
      · exact hold former path map hformer hread
      · -- The document was read just now.
        rw [hstep.tree_eq]
        exact holds_of_loadFile h.names (h.proper _ hformer) (isFile_of_loadFile hload) hload

/-- On undisturbed runs no document is outdated when it is kept. -/
lemma Reliable.overtakenAfter_eq_nil (h : traffic.Reliable) (move : Move) :
    traffic.overtakenAfter [] move = [] := by
  rw [List.eq_nil_iff_forall_not_mem]
  intro k hmem
  obtain ⟨⟨_, entry⟩, hentry, rfl⟩ := List.mem_map.1 hmem
  have hget := ((traffic.after move).documents.mem_entries_iff _ _).1 (List.mem_filter.1 hentry).1
  rcases (traffic.turn_after move).get?_eq_some hget with hkept | ⟨hnew, htree, path, hparty, rfl⟩
  · rw [mem_overtakenAfter_of_kept hget hkept] at hmem
    cases hmem
  · rw [mem_overtakenAfter_of_new hget hnew, htree] at hmem
    exact hmem (h.holds _ path entry.map hparty rfl)

lemma Reliable.overtaken_eq_nil {moves : List Move} {untold : List String} (h : traffic.Reliable)
    (hmoves : traffic.Undisturbed moves) : (traffic.account ⟨untold, []⟩ moves).overtaken = [] := by
  induction moves generalizing traffic untold with
  | nil => rfl
  | cons move rest ih =>
    rw [account, accountAfter, h.overtakenAfter_eq_nil move]
    exact ih (h.after hmoves.1) hmoves.2

lemma Reliable.run {moves : List Move} (h : traffic.Reliable)
    (hmoves : traffic.Undisturbed moves) : (traffic.run moves).Reliable := by
  induction moves generalizing traffic with
  | nil => exact h
  | cons move rest ih => exact ih (h.after hmoves.1) hmoves.2

lemma reliable_start {w : Workspace} (hnames : ∀ name ∈ w.tree.current, Path.IsName name) :
    (start w).Reliable := by
  refine ⟨hnames, ?_, ?_⟩
  · intro lookup hmem
    cases hmem
  · intro party path map hmem
    cases hmem

/-! ## Results -/

/-- When everybody has come to an end and nothing is left to be told, a kept document is what its
file holds, unless it was overtaken: unless it was outdated when it was kept. That takes a document
that changes after a lookup has read it and before the lookup keeps it. -/
theorem holds_iff_not_overtaken {w : Workspace} {moves : List Move} {k : String} {entry : Entry}
    (hnames : ∀ name ∈ w.tree.current, Path.IsName name)
    (hcalm : ((start w).run moves).isCalm = true)
    (huntold : ((start w).account ⟨[], []⟩ moves).untold = [])
    (hkept : ((start w).run moves).documents.get? k = some entry) :
    (Holds ((start w).run moves).workspace.tree k entry.map ↔
        k ∉ ((start w).account ⟨[], []⟩ moves).overtaken) ∧
      ((start w).Undisturbed moves → k ∉ ((start w).account ⟨[], []⟩ moves).overtaken) := by
  have haccounted : ((start w).run moves).Accounted ((start w).account ⟨[], []⟩ moves) :=
    (accounted_start w).run
  refine ⟨?_, ?_⟩
  · rcases haccounted.holds k entry hkept with hmem | htold | hholds
    · rw [huntold] at hmem
      cases hmem
    · exact absurd htold (not_isTold_of_isCalm hcalm)
    · exact hholds
  · intro hundisturbed
    rw [(reliable_start hnames).overtaken_eq_nil hundisturbed]
    exact List.not_mem_nil

/-- So the next lookup after an undisturbed run finds what reading the document gives. -/
theorem outcome_run_of_undisturbed {w : Workspace} {moves : List Move} {path : Path}
    (hnames : ∀ name ∈ w.tree.current, Path.IsName name)
    (hundisturbed : (start w).Undisturbed moves)
    (hcalm : ((start w).run moves).isCalm = true)
    (huntold : ((start w).account ⟨[], []⟩ moves).untold = [])
    (hpath : path.Proper) (hfile : ((start w).run moves).workspace.tree.isFile path = true) :
    ((Lookup.ofPath path).run ((start w).run moves).documents
        ((start w).run moves).workspace).1.outcome =
      some (AnnotationMap.loadFile path .empty ((start w).run moves).workspace).1 := by
  have hreliable : ((start w).run moves).Reliable := (reliable_start hnames).run hundisturbed
  have haccounted : ((start w).run moves).Accounted ((start w).account ⟨[], []⟩ moves) :=
    (accounted_start w).run
  have hovertaken : ((start w).account ⟨[], []⟩ moves).overtaken = [] :=
    (reliable_start hnames).overtaken_eq_nil hundisturbed
  obtain ⟨outcome, others, houtcome, hending⟩ := Lookup.exists_ending
    ((start w).run moves).documents ((start w).run moves).workspace path
  rw [houtcome]
  cases hending with
  | kept hkept =>
    rcases haccounted.holds _ _ hkept with hmem | htold | hholds
    · rw [huntold] at hmem
      cases hmem
    · exact absurd htold (not_isTold_of_isCalm hcalm)
    · rw [hovertaken] at hholds
      rw [loadFile_of_holds hreliable.names hpath hfile (hholds.2 List.not_mem_nil)]
  | failed hnone hload => rw [hload]
  | read watch hnone hload => rw [hload]

def samplePath : Path :=
  .ofText "L.ExternalAnnotations.xml"

def sampleNodes (text : String) : OrderedMap Place FileTree.Node :=
  .ofList [(["w"], .folder), (["w", "L.ExternalAnnotations.xml"], .file (Text.utf8 text) 0)]

def sampleWorkspace : Workspace :=
  .ofTree ⟨sampleNodes "<assembly><member name=\"T:A\"/></assembly>", ["w"], []⟩ 0

def sampleLook : Move :=
  .look samplePath (Path.proper_ofText _)

def sampleEdit : Move :=
  .edit (sampleNodes "<a/>")

def sampleTell : Move :=
  .tell ⟨.changed, samplePath, none⟩

/-- The document is looked up and kept; it changes, which is told; it is evicted, and looked up
again. -/
def sampleRun : List Move :=
  [sampleLook, .step 0, .step 0, .step 0, .step 0, sampleEdit, sampleTell, .step 1, .step 1,
    sampleLook, .step 2, .step 2, .step 2, .step 2]

theorem holds_iff_not_overtaken_sample :
    ∃ entry, ((start sampleWorkspace).run sampleRun).documents.get?
        "/w/L.ExternalAnnotations.xml" = some entry ∧
      Holds ((start sampleWorkspace).run sampleRun).workspace.tree
        "/w/L.ExternalAnnotations.xml" entry.map := by
  have hrun : ((start sampleWorkspace).run sampleRun).isCalm = true ∧
      ((start sampleWorkspace).account ⟨[], []⟩ sampleRun).untold = [] ∧
      (start sampleWorkspace).Undisturbed sampleRun ∧
      (((start sampleWorkspace).run sampleRun).documents.get?
        "/w/L.ExternalAnnotations.xml").isSome = true := by
    decide +kernel
  obtain ⟨hcalm, huntold, hundisturbed, hsome⟩ := hrun
  obtain ⟨entry, hkept⟩ := Option.isSome_iff_exists.1 hsome
  have hresult := holds_iff_not_overtaken (by decide) hcalm huntold hkept
  exact ⟨entry, hkept, hresult.1.2 (hresult.2 hundisturbed)⟩

/-- The document changes after it was read, and this is told before it is kept. -/
def overtakenRun : List Move :=
  [sampleLook, .step 0, .step 0, .step 0, sampleEdit, sampleTell, .step 1, .step 0]

/-- Everybody has come to an end and nothing is left to be told, and still a document is kept that
is not what its file holds. -/
theorem not_holds_of_overtaken :
    ¬ ∀ (w : Workspace) (moves : List Move) (k : String) (entry : Entry),
      (∀ name ∈ w.tree.current, Path.IsName name) →
      ((start w).run moves).isCalm = true →
      ((start w).account ⟨[], []⟩ moves).untold = [] →
      ((start w).run moves).documents.get? k = some entry →
        Holds ((start w).run moves).workspace.tree k entry.map := by
  intro hclaim
  have hrun : ((start sampleWorkspace).run overtakenRun).isCalm = true ∧
      ((start sampleWorkspace).account ⟨[], []⟩ overtakenRun).untold = [] ∧
      ((((start sampleWorkspace).run overtakenRun).documents.get?
        "/w/L.ExternalAnnotations.xml").any (fun entry =>
          ¬ Holds ((start sampleWorkspace).run overtakenRun).workspace.tree
            "/w/L.ExternalAnnotations.xml" entry.map)) = true := by
    decide +kernel
  obtain ⟨hcalm, huntold, hany⟩ := hrun
  obtain ⟨entry, hkept, hnot⟩ := (Option.any_eq_true _ _).1 hany
  exact of_decide_eq_true hnot (hclaim _ _ _ entry (by decide) hcalm huntold hkept)

end Traffic

end Nullability.SideBySide
