import Nullability.Proofs.SideBySide.Run

/-!
# Traffic about documents

Any number of lookups, evictions and disposals work on the same documents at the same time. Each
takes its steps one by one, in any order among the steps of the others, while files change and
watches tell of changes that may or may not have happened. All that a step can do to a party, the
documents and the workspace is listed once (`Party.Step`), and so is what a move amounts to
(`Traffic.Turn`); what holds on every run is shown case by case along these lists.
-/

namespace Nullability.SideBySide

/-- A lookup whose reading or whose start of a watch fails, whatever the reason. -/
def Lookup.refuse (lookup : Lookup) (failure : Failure) : Lookup :=
  match lookup.stage with
  | .missed | .read _ => { lookup with stage := .failed failure }
  | _ => lookup

/-- Somebody who works on the documents. -/
inductive Party where
  | looking (lookup : Lookup)
  | evicting (eviction : Eviction)
  | disposing (disposal : Disposal)
  deriving Inhabited

namespace Party

def step (party : Party) (documents : SideBySide) (w : Workspace) :
    Party × SideBySide × Workspace :=
  match party with
  | .looking lookup =>
    let (lookup, documents, w) := lookup.step documents w
    (.looking lookup, documents, w)
  | .evicting eviction =>
    let (eviction, documents, w) := eviction.step documents w
    (.evicting eviction, documents, w)
  | .disposing disposal =>
    let (disposal, documents, w) := disposal.step documents w
    (.disposing disposal, documents, w)

/-- Only what a lookup calls can fail for reasons of its own. -/
def refuse (party : Party) (failure : Failure) : Party :=
  match party with
  | .looking lookup => .looking (lookup.refuse failure)
  | party => party

def isFinished : Party → Bool
  | .looking lookup => lookup.isFinished
  | .evicting ⟨_, _, .done⟩ => true
  | .disposing .done => true
  | .disposing (.failed _) => true
  | _ => false

end Party

/-- The documents, what they are read from, and those who work on them. -/
structure Traffic where
  documents : SideBySide
  workspace : Workspace
  parties : List Party

/-- What can happen next. -/
inductive Move where
  /-- A lookup begins. -/
  | look (path : Path) (proper : path.Proper)
  /-- A watch tells a change; if the change is understood, an eviction begins. -/
  | tell (change : FileChange)
  /-- A disposal begins. -/
  | dispose
  /-- One of the parties takes its next step. -/
  | step (party : Nat)
  /-- What one of the parties is about to do fails. -/
  | refuse (party : Nat) (failure : Failure)
  /-- Files are written, created or deleted. -/
  | edit (nodes : OrderedMap Place FileTree.Node)

namespace Traffic

/-- Nothing is kept, nothing is watched, and nobody is at work. -/
def start (w : Workspace) : Traffic :=
  ⟨.empty, { w with watches := [] }, []⟩

/-- Lets a party begin. -/
def join (traffic : Traffic) (party : Party) : Traffic :=
  { traffic with parties := traffic.parties ++ [party] }

/-- A party takes its next step. -/
def step (traffic : Traffic) (n : Nat) : Traffic :=
  match traffic.parties[n]? with
  | some party =>
    let (party, documents, w) := party.step traffic.documents traffic.workspace
    ⟨documents, w, traffic.parties.set n party⟩
  | none => traffic

/-- What a party is about to do fails. -/
def refuse (traffic : Traffic) (n : Nat) (failure : Failure) : Traffic :=
  match traffic.parties[n]? with
  | some party => { traffic with parties := traffic.parties.set n (party.refuse failure) }
  | none => traffic

def edit (traffic : Traffic) (nodes : OrderedMap Place FileTree.Node) : Traffic :=
  { traffic with workspace := { traffic.workspace with
      tree := { traffic.workspace.tree with nodes := nodes } } }

def after (traffic : Traffic) : Move → Traffic
  | .look path _ => traffic.join (.looking (.ofPath path))
  | .tell change =>
    match Eviction.ofChange change with
    | .ok eviction => traffic.join (.evicting eviction)
    | .error _ => traffic
  | .dispose => traffic.join (.disposing .testing)
  | .step n => traffic.step n
  | .refuse n failure => traffic.refuse n failure
  | .edit nodes => traffic.edit nodes

def run (traffic : Traffic) (moves : List Move) : Traffic :=
  moves.foldl after traffic

/-- Whether everybody has come to an end. -/
def isCalm (traffic : Traffic) : Bool :=
  traffic.parties.all Party.isFinished

end Traffic

/-! ## Steps -/

namespace Party

/-- What a step of a party does to the party, the documents and the workspace. -/
inductive Step (documents : SideBySide) (w : Workspace) :
    Party → Party → SideBySide → Workspace → Prop where
  /-- A lookup finds its document kept. -/
  | hit {path : Path} {entry : Entry} (hkept : documents.get? (key w.tree path) = some entry) :
    Step documents w (.looking ⟨path, .arrived⟩) (.looking ⟨path, .found entry⟩) documents w
  | miss {path : Path} (hnone : documents.get? (key w.tree path) = none) :
    Step documents w (.looking ⟨path, .arrived⟩) (.looking ⟨path, .missed⟩) documents w
  | fail {path : Path} {failure : Failure}
    (hload : (AnnotationMap.loadFile path .empty w).1 = .error failure) :
    Step documents w (.looking ⟨path, .missed⟩) (.looking ⟨path, .failed failure⟩) documents
      { w with documents := w.documents ++ [path] }
  | read {path : Path} {map : AnnotationMap}
    (hload : (AnnotationMap.loadFile path .empty w).1 = .ok map) :
    Step documents w (.looking ⟨path, .missed⟩) (.looking ⟨path, .read map⟩) documents
      { w with documents := w.documents ++ [path] }
  | watch {path : Path} {map : AnnotationMap} :
    Step documents w (.looking ⟨path, .read map⟩)
      (.looking ⟨path, .watched ⟨map, w.watches.length⟩⟩) documents (w.startWatch path).2
  /-- A lookup keeps what it has read. -/
  | keep {path : Path} {entry : Entry} (hnone : documents.get? (key w.tree path) = none) :
    Step documents w (.looking ⟨path, .watched entry⟩) (.looking ⟨path, .found entry⟩)
      (documents.insert (key w.tree path) entry) (w.report (loadedEvent path entry.map.size))
  /-- A lookup finds that another one was faster. -/
  | outrun {path : Path} {entry kept : Entry}
    (hkept : documents.get? (key w.tree path) = some kept) :
    Step documents w (.looking ⟨path, .watched entry⟩)
      (.looking ⟨path, .outrun kept entry.watch⟩) documents
      (w.report (loadedEvent path entry.map.size))
  | yield {path : Path} {kept : Entry} {watch : Nat} :
    Step documents w (.looking ⟨path, .outrun kept watch⟩) (.looking ⟨path, .found kept⟩)
      documents (w.stopWatch watch)
  /-- An eviction takes its entry out. -/
  | evict {path : Path} {kind : FileChange.Kind} {entry : Entry}
    (hkept : documents.get? (key w.tree path) = some entry) :
    Step documents w (.evicting ⟨path, kind, .arrived⟩) (.evicting ⟨path, kind, .removed entry⟩)
      (documents.erase (key w.tree path)) w
  | spare {path : Path} {kind : FileChange.Kind}
    (hnone : documents.get? (key w.tree path) = none) :
    Step documents w (.evicting ⟨path, kind, .arrived⟩) (.evicting ⟨path, kind, .done⟩) documents w
  | unwatch {path : Path} {kind : FileChange.Kind} {entry : Entry} :
    Step documents w (.evicting ⟨path, kind, .removed entry⟩) (.evicting ⟨path, kind, .done⟩)
      documents ((w.stopWatch entry.watch).report (evictedEvent path kind.name))
  | finish (hempty : documents.isEmpty = true) :
    Step documents w (.disposing .testing) (.disposing .done) documents w
  | proceed (hempty : documents.isEmpty = false) :
    Step documents w (.disposing .testing) (.disposing .removing) documents w
  /-- A disposal takes out the newest entry. -/
  | pop {k : String} {entry : Entry} {rest : SideBySide}
    (hpop : documents.popLast? = some ((k, entry), rest)) :
    Step documents w (.disposing .removing) (.disposing (.removed entry)) rest w
  | overdo (hpop : documents.popLast? = none) :
    Step documents w (.disposing .removing) (.disposing (.failed .noEntry)) documents w
  | discard {entry : Entry} :
    Step documents w (.disposing (.removed entry)) (.disposing .testing) documents
      (w.stopWatch entry.watch)
  /-- Nothing happens to who has come to an end. -/
  | rest {party : Party} (hfinished : party.isFinished = true) :
    Step documents w party party documents w

variable {documents documents' : SideBySide} {w w' : Workspace} {party party' : Party}

/-- Every step does one of these things. -/
lemma step_spec (party : Party) (documents : SideBySide) (w : Workspace) :
    Step documents w party (party.step documents w).1 (party.step documents w).2.1
      (party.step documents w).2.2 := by
  cases party with
  | looking lookup =>
    obtain ⟨path, stage⟩ := lookup
    simp only [step, Lookup.step]
    cases stage with
    | arrived =>
      rw [Lookup.advance]
      cases hget : documents.get? (key w.tree path) with
      | none => exact .miss hget
      | some entry => exact .hit hget
    | missed =>
      have hload := AnnotationMap.loadFile_eq path .empty w
      rw [Lookup.advance]
      cases hrun : AnnotationMap.loadFile path .empty w with
      | mk outcome w' =>
        obtain ⟨-, rfl⟩ := Prod.mk.inj (hrun.symm.trans hload)
        cases outcome with
        | error failure => exact .fail (congrArg Prod.fst hrun)
        | ok map => exact .read (congrArg Prod.fst hrun)
    | read map => exact .watch
    | watched entry =>
      change Step documents w _ (.looking ⟨path, (Lookup.keep path entry documents w.tree).1⟩)
        (Lookup.keep path entry documents w.tree).2 (w.report _)
      rw [Lookup.keep]
      cases hget : documents.get? (key w.tree path) with
      | none => exact .keep hget
      | some kept => exact .outrun hget
    | outrun kept watch => exact .yield
    | found entry => exact .rest rfl
    | failed failure => exact .rest rfl
  | evicting eviction =>
    obtain ⟨path, kind, stage⟩ := eviction
    simp only [step]
    cases stage with
    | arrived =>
      rw [Eviction.step]
      cases hget : documents.get? (key w.tree path) with
      | none => exact .spare hget
      | some entry => exact .evict hget
    | removed entry => exact .unwatch
    | done => exact .rest rfl
  | disposing disposal =>
    simp only [step]
    cases disposal with
    | testing =>
      rw [Disposal.step]
      cases hempty : documents.isEmpty with
      | true => exact .finish hempty
      | false => exact .proceed hempty
    | removing =>
      rw [Disposal.step]
      cases hpop : documents.popLast? with
      | none => exact .overdo hpop
      | some popped => exact .pop hpop
    | removed entry => exact .discard
    | done => exact .rest rfl
    | failed failure => exact .rest rfl

/-- No step changes a file. -/
lemma Step.tree_eq (h : Step documents w party party' documents' w') : w'.tree = w.tree := by
  cases h <;> rfl

/-- What is kept after a step was kept before, or a lookup has just brought it. -/
lemma Step.get?_eq_some (h : Step documents w party party' documents' w') {k : String}
    {entry : Entry} (hget : documents'.get? k = some entry) :
    documents.get? k = some entry ∨
      documents.get? k = none ∧
        ∃ path, party = .looking ⟨path, .watched entry⟩ ∧ key w.tree path = k := by
  cases h with
  | keep hnone =>
    rw [OrderedMap.get?_insert] at hget
    split at hget
    · rename_i path own hk
      obtain rfl := Option.some.inj hget
      exact .inr ⟨hk ▸ hnone, path, rfl, hk⟩
    · exact .inl hget
  | evict hkept =>
    rw [OrderedMap.get?_erase] at hget
    split at hget
    · cases hget
    · exact .inl hget
  | pop hpop =>
    have hmem := (OrderedMap.mem_entries_iff _ _ _).2 hget
    refine .inl ((documents.mem_entries_iff _ _).1 ?_)
    rw [OrderedMap.entries_of_popLast? hpop]
    exact List.mem_append_left _ hmem
  | _ => exact .inl hget

/-- When an eviction moves, its document is not kept any more. -/
lemma Step.get?_of_evicting {path : Path} {kind : FileChange.Kind}
    (h : Step documents w (.evicting ⟨path, kind, .arrived⟩) party' documents' w') :
    documents'.get? (key w.tree path) = none := by
  cases h with
  | evict hkept => exact (documents.get?_erase _ _).trans (if_pos rfl)
  | spare hnone => exact hnone
  | rest hfinished => cases hfinished

end Party

/-! ## Moves -/

/-- How parties begin. -/
inductive Party.Beginning : Party → Prop where
  | looking (path : Path) (proper : path.Proper) : Beginning (.looking (.ofPath path))
  | evicting (path : Path) (kind : FileChange.Kind) : Beginning (.evicting ⟨path, kind, .arrived⟩)
  | disposing : Beginning (.disposing .testing)

namespace Traffic

variable {traffic next : Traffic}

/-- What a move amounts to. -/
inductive Turn (traffic : Traffic) : Traffic → Prop where
  /-- Nobody was there to move, or what was told is not understood. -/
  | idle : Turn traffic traffic
  | joined (party : Party) (hbeginning : party.Beginning) : Turn traffic (traffic.join party)
  | stepped (before later : List Party) {party party' : Party} {documents : SideBySide}
    {w : Workspace} (hparties : traffic.parties = before ++ party :: later)
    (hstep : party.Step traffic.documents traffic.workspace party' documents w) :
    Turn traffic ⟨documents, w, before ++ party' :: later⟩
  | refused (before later : List Party) (party : Party) (failure : Failure)
    (hparties : traffic.parties = before ++ party :: later) :
    Turn traffic { traffic with parties := before ++ party.refuse failure :: later }
  | edited (nodes : OrderedMap Place FileTree.Node) : Turn traffic (traffic.edit nodes)

lemma exists_set {parties : List Party} {n : Nat} {party : Party} (h : parties[n]? = some party)
    (party' : Party) : ∃ before later, parties = before ++ party :: later ∧
      parties.set n party' = before ++ party' :: later := by
  obtain ⟨hn, hat⟩ := List.getElem?_eq_some_iff.1 h
  obtain ⟨before, later, hparties, -, hset⟩ : ∃ before later,
      parties = before ++ parties[n] :: later ∧ before.length = n ∧
        parties.set n party' = before ++ party' :: later := List.exists_of_set hn
  exact ⟨before, later, hat ▸ hparties, hset⟩

lemma turn_after (traffic : Traffic) (move : Move) : Turn traffic (traffic.after move) := by
  cases move with
  | look path proper => exact .joined _ (.looking path proper)
  | tell change =>
    rw [after]
    cases heviction : Eviction.ofChange change with
    | error failure => exact .idle
    | ok eviction =>
      obtain ⟨path, -, rfl⟩ := Outcome.map_eq_ok.1 heviction
      exact .joined _ (.evicting path change.kind)
  | dispose => exact .joined _ .disposing
  | step n =>
    rw [after, step]
    cases hparty : traffic.parties[n]? with
    | none => exact .idle
    | some party =>
      obtain ⟨before, later, hparties, hset⟩ :=
        exists_set hparty (party.step traffic.documents traffic.workspace).1
      simp only [hset]
      exact .stepped before later hparties (party.step_spec _ _)
  | refuse n failure =>
    rw [after, refuse]
    cases hparty : traffic.parties[n]? with
    | none => exact .idle
    | some party =>
      obtain ⟨before, later, hparties, hset⟩ := exists_set hparty (party.refuse failure)
      simp only [hset]
      exact .refused before later party failure hparties
  | edit nodes => exact .edited nodes

/-- When one party takes the place of another, the others stay. -/
lemma mem_of_mem_replaced {parties before later : List Party} {former party other : Party}
    (h : parties = before ++ former :: later) (hmem : other ∈ before ++ party :: later) :
    other ∈ parties ∨ other = party ∧ former ∈ parties := by
  rw [h]
  rcases List.mem_append.1 hmem with hbefore | hrest
  · exact .inl (List.mem_append_left _ hbefore)
  · rcases List.mem_cons.1 hrest with hnow | hlater
    · exact .inr ⟨hnow, List.mem_append_right _ List.mem_cons_self⟩
    · exact .inl (List.mem_append_right _ (List.mem_cons_of_mem _ hlater))

lemma Turn.current_eq (h : Turn traffic next) :
    next.workspace.tree.current = traffic.workspace.tree.current := by
  cases h with
  | stepped before later hparties hstep => exact congrArg (·.current) hstep.tree_eq
  | idle => rfl
  | joined party hbeginning => rfl
  | refused before later party failure hparties => rfl
  | edited nodes => rfl

lemma Turn.key_eq (h : Turn traffic next) (path : Path) :
    key next.workspace.tree path = key traffic.workspace.tree path := by
  rw [key, key, FileTree.currentText, FileTree.currentText, h.current_eq]

/-- What is kept was kept before, or a lookup has just brought it. -/
lemma Turn.get?_eq_some (h : Turn traffic next) {k : String} {entry : Entry}
    (hget : next.documents.get? k = some entry) :
    traffic.documents.get? k = some entry ∨ traffic.documents.get? k = none ∧
      next.workspace.tree = traffic.workspace.tree ∧
      ∃ path, .looking ⟨path, .watched entry⟩ ∈ traffic.parties ∧
        key traffic.workspace.tree path = k := by
  cases h with
  | stepped before later hparties hstep =>
    rcases hstep.get?_eq_some hget with hkept | ⟨hnew, path, rfl, hk⟩
    · exact .inl hkept
    · refine .inr ⟨hnew, hstep.tree_eq, path, ?_, hk⟩
      rw [hparties]
      exact List.mem_append_right _ List.mem_cons_self
  | idle => exact .inl hget
  | joined party hbeginning => exact .inl hget
  | refused before later party failure hparties => exact .inl hget
  | edited nodes => exact .inl hget

/-- Where a party comes from: it was there before, or begins, or was refused something, or took the
step that the turn consists of. -/
lemma Turn.mem_cases (h : Turn traffic next) {party : Party} (hmem : party ∈ next.parties) :
    party ∈ traffic.parties ∨ party.Beginning ∨
      (∃ former ∈ traffic.parties, ∃ failure, party = former.refuse failure) ∨
      ∃ former ∈ traffic.parties, former.Step traffic.documents traffic.workspace party
        next.documents next.workspace := by
  cases h with
  | idle => exact .inl hmem
  | joined newcomer hbeginning =>
    rcases List.mem_append.1 hmem with hold | hnew
    · exact .inl hold
    · exact .inr (.inl (List.mem_singleton.1 hnew ▸ hbeginning))
  | stepped before later hparties hstep =>
    rcases mem_of_mem_replaced hparties hmem with hold | ⟨rfl, hformer⟩
    · exact .inl hold
    · exact .inr (.inr (.inr ⟨_, hformer, hstep⟩))
  | refused before later former failure hparties =>
    rcases mem_of_mem_replaced hparties hmem with hold | ⟨rfl, hformer⟩
    · exact .inl hold
    · exact .inr (.inr (.inl ⟨_, hformer, failure, rfl⟩))
  | edited nodes => exact .inl hmem

end Traffic

end Nullability.SideBySide
