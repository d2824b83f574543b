import Nullability.Proofs.Cache.Tidy

/-!
# Cache files that are shared

Several processes may save to one cache file and read it, with no order between their steps. Any
step of a save may fail: some of the folders on the way may be there by then, or a part of the
content. A save may also be killed between two steps, and then nobody takes its temporary file away.
Whoever makes a temporary file takes a name that is free at that moment.

What one deed of a writer does to a tree is said once (`Effect`): it changes what is at two places
at most, its temporary file's and, when it replaces it, the cache file's.
-/

namespace Nullability

/-- A save that was begun. -/
structure CacheSave where
  cache : AnnotationCache
  writer : CacheWriter
  isKilled : Bool
  deriving Inhabited

/-- A cache file, everyone who began to save to it, and all that was ever read from it. -/
structure SharedCache where
  path : Path
  tree : FileTree
  saves : List CacheSave
  seen : List (List UInt8)

namespace CacheWriter

open FileTree

/-- What a writer does, or what happens to it. -/
inductive Deed where
  /-- The next step; a temporary file gets its name from the number if that is free. -/
  | advance (number : Nat)
  /-- Some of the folders on the way are made. -/
  | makeSome (components : Nat)
  /-- A part of the content is written. -/
  | writePart (length : Nat)
  /-- The step fails. -/
  | fail (failure : Failure)
  deriving Inhabited

/-- A writer whose temporary file has a certain number. -/
def named (writer : CacheWriter) (number : Nat) : CacheWriter :=
  { writer with
    temporary := writer.path.parent.append [temporaryName writer.path.name number] }

def advance (number : Nat) (writer : CacheWriter) (tree : FileTree) : CacheWriter × FileTree :=
  match writer.stage with
  | .folderMade =>
    if (tree.node? (writer.named number).temporary).isSome then (writer, tree)
    else (writer.named number).step tree
  | _ => writer.step tree

def act (deed : Deed) (writer : CacheWriter) (tree : FileTree) : CacheWriter × FileTree :=
  match deed with
  | .advance number => writer.advance number tree
  | .makeSome components =>
    match writer.stage with
    | .arrived =>
      (writer, (tree.makeFolders (folderAfter writer.path components)).toOption.getD tree)
    | _ => (writer, tree)
  | .writePart length =>
    match writer.stage with
    | .fileMade =>
      (writer, (tree.write writer.temporary (writer.content.take length)
        writer.now).toOption.getD tree)
    | _ => (writer, tree)
  | .fail failure => writer.giveUp failure tree

/-- Whether a writer at this stage has a temporary file. -/
def Stage.hasTemporary : Stage → Bool
  | .fileMade | .contentWritten => true
  | _ => false

/-- The place of the temporary file that a writer has made and not yet used. -/
def held (tree : FileTree) (writer : CacheWriter) : List Place :=
  if writer.stage.hasTemporary then [tree.spelled writer.temporary] else []

end CacheWriter

namespace SharedCache

/-- What happens next. -/
inductive Move where
  /-- Someone begins to save a cache. -/
  | begin (cache : AnnotationCache) (now : Int)
  | act (index : Nat) (deed : CacheWriter.Deed)
  | kill (index : Nat)
  /-- Someone reads the file. -/
  | read
  deriving Inhabited

/-- A cache file that nobody has begun to save to. -/
def opened (path : Path) (tree : FileTree) : SharedCache :=
  ⟨path, tree, [], []⟩

def step (shared : SharedCache) : Move → SharedCache
  | .begin cache now =>
    match cache.toBytes with
    | .ok content =>
      let writer := CacheWriter.arriving shared.tree shared.path content now
      { shared with saves := shared.saves ++ [⟨cache, writer, false⟩] }
    | .error _ => shared
  | .act index deed =>
    match shared.saves[index]? with
    | some save =>
      if save.isKilled ∨ save.writer.isFinished then shared
      else
        let (writer, tree) := save.writer.act deed shared.tree
        { shared with saves := shared.saves.set index { save with writer := writer }, tree := tree }
    | none => shared
  | .kill index =>
    match shared.saves[index]? with
    | some save => { shared with saves := shared.saves.set index { save with isKilled := true } }
    | none => shared
  | .read =>
    match shared.tree.read shared.path with
    | .ok content => { shared with seen := shared.seen ++ [content] }
    | .error _ => shared

def run (moves : List Move) (shared : SharedCache) : SharedCache :=
  moves.foldl step shared

/-- The places of all temporary files of saves that have not come to their end. -/
def temporaries (shared : SharedCache) : List Place :=
  shared.saves.flatMap (fun save => save.writer.held shared.tree)

end SharedCache

namespace CacheWriter

open FileTree

variable {writer changed : CacheWriter} {start tree made : FileTree} {place : Place}

/-! ## Deeds -/

/-- What a deed does to a writer and to the tree. -/
inductive Effect (writer : CacheWriter) (tree : FileTree) : CacheWriter → FileTree → Prop where
  | rest : Effect writer tree writer tree
  /-- Without a temporary file there are at most new folders. -/
  | prepare {temporary : Path} {stage : Stage} {made : FileTree}
    (hbefore : writer.stage.hasTemporary = false) (hafter : stage.hasTemporary = false)
    (hgrown : Grown (way tree writer.path) (fun _ => false) tree made) :
    Effect writer tree { writer with temporary := temporary, stage := stage } made
  | create {temporary : Path} (hbefore : writer.stage.hasTemporary = false)
    (hfree : tree.at? (tree.spelled temporary) = none) (hroot : tree.spelled temporary ≠ [])
    (hne : tree.spelled temporary ≠ tree.spelled writer.path) :
    Effect writer tree { writer with temporary := temporary, stage := .fileMade }
      (tree.put (tree.spelled temporary) (.file [] writer.now))
  | fill {stage : Stage} {content : List UInt8} (hbefore : writer.stage.hasTemporary = true)
    (hafter : stage.hasTemporary = true) (hroot : tree.spelled writer.temporary ≠ []) :
    Effect writer tree { writer with stage := stage }
      (tree.put (tree.spelled writer.temporary) (.file content writer.now))
  | replace (hbefore : writer.stage.hasTemporary = true) (hroot : tree.spelled writer.path ≠ [])
    (hrootTemporary : tree.spelled writer.temporary ≠ []) :
    Effect writer tree { writer with stage := .done }
      ((tree.put (tree.spelled writer.path) (.file writer.content writer.now)).remove
        (tree.spelled writer.temporary))
  | discard {failure : Failure} (hbefore : writer.stage.hasTemporary = true)
    (hroot : tree.spelled writer.temporary ≠ []) :
    Effect writer tree { writer with stage := .failed failure }
      (tree.remove (tree.spelled writer.temporary))

lemma Progress.temporary_ne_nil (h : Progress start writer tree) :
    start.spelled writer.temporary ≠ [] := by
  obtain ⟨n, htemporary⟩ := h.temporary
  rw [htemporary, spelled_append_name (isName_temporaryName h.proper)]
  exact List.append_ne_nil_of_right_ne_nil _ (List.cons_ne_nil _ [])

/-- Where nothing is, a writer can start over with the tree as it has become. -/
lemma Progress.rebase (h : Progress start writer tree) (hunfinished : writer.isFinished = false) :
    Progress tree writer tree := by
  refine ⟨h.proper, h.temporary, .refl _ _ tree, h.wellFormed, fun _ _ hfound => .inl hfound, ?_⟩
  have hholds := h.holds
  rw [HoldsAt] at hholds ⊢
  rw [h.grown.spelled_eq, h.grown.spelled_eq]
  rw [isFinished] at hunfinished
  cases hstage : writer.stage with
  | done => rw [hstage] at hunfinished; cases hunfinished
  | failed failure => rw [hstage] at hunfinished; cases hunfinished
  | _ =>
    rw [hstage] at hholds
    exact hholds

lemma Progress.withoutTemporary_eq (h : Progress tree writer tree)
    (hbefore : writer.stage.hasTemporary = true) :
    writer.withoutTemporary tree = tree.remove (tree.spelled writer.temporary) := by
  have hholds := h.holds
  rw [HoldsAt] at hholds
  rw [withoutTemporary]
  cases hstage : writer.stage with
  | fileMade =>
    rw [hstage] at hholds
    obtain ⟨found, hplace, hfile⟩ := hholds
    dsimp only
    rw [delete_file h.wellFormed hplace hfile]
  | contentWritten =>
    rw [hstage] at hholds
    dsimp only
    rw [delete_file h.wellFormed hholds.1 hholds.2]
  | _ => rw [hstage] at hbefore; cases hbefore

lemma withoutTemporary_eq_self (hbefore : writer.stage.hasTemporary = false) :
    writer.withoutTemporary tree = tree := by
  rw [withoutTemporary]
  cases hstage : writer.stage with
  | fileMade => rw [hstage] at hbefore; cases hbefore
  | contentWritten => rw [hstage] at hbefore; cases hbefore
  | _ => rfl

lemma Progress.effect_giveUp (h : Progress tree writer tree) (failure : Failure) :
    Effect writer tree (writer.giveUp failure tree).1 (writer.giveUp failure tree).2 := by
  rw [CacheWriter.giveUp]
  cases hbefore : writer.stage.hasTemporary with
  | false =>
    rw [withoutTemporary_eq_self hbefore]
    exact .prepare hbefore rfl (.refl _ _ tree)
  | true =>
    rw [h.withoutTemporary_eq hbefore]
    exact .discard hbefore h.temporary_ne_nil

lemma Progress.effect_replace (h : Progress tree writer tree)
    (hstage : writer.stage = .contentWritten)
    (hmade : tree.replace writer.temporary writer.path = .ok made) :
    Effect writer tree { writer with stage := .done } made := by
  have hholds := h.holds
  rw [HoldsAt, hstage] at hholds
  obtain ⟨content, modified, origin, place, horigin, hnode, htarget, hfolder, rfl⟩ :=
    replace_eq_ok hmade
  obtain rfl := h.resolve_temporary horigin
  obtain rfl := eq_spelled h.proper htarget
  obtain ⟨rfl, rfl⟩ : content = writer.content ∧ modified = writer.now := by
    rw [hholds.2] at hnode
    cases hnode
    exact ⟨rfl, rfl⟩
  rw [if_neg h.temporary_place.2]
  exact .replace (by rw [hstage]; rfl) (ne_nil_of_ne_folder hfolder) h.temporary_ne_nil

lemma Progress.effect_step (h : Progress tree writer tree)
    (hfree : writer.stage = .folderMade → tree.node? writer.temporary = none) :
    Effect writer tree (writer.step tree).1 (writer.step tree).2 := by
  rw [CacheWriter.step]
  cases hchange : writer.change tree with
  | error failure => exact h.effect_giveUp failure
  | ok change =>
    obtain ⟨stage, made⟩ := change
    change Effect writer tree { writer with stage := stage } made
    cases change_of_eq_ok hchange with
    | makeFolder hstage hmade =>
      exact .prepare (by rw [hstage]; rfl) rfl (h.makeFolders (fun _ => false) hmade).1
    | makeFile hstage hmade =>
      obtain ⟨place, hplace, -, rfl⟩ := write_eq_ok hmade
      obtain rfl := h.resolve_temporary hplace
      have hnone := hfree hstage
      rw [node?, hplace] at hnone
      exact .create (by rw [hstage]; rfl) hnone h.temporary_ne_nil h.temporary_place.2
    | writeContent hstage hmade =>
      obtain ⟨place, hplace, -, rfl⟩ := write_eq_ok hmade
      obtain rfl := h.resolve_temporary hplace
      exact .fill (by rw [hstage]; rfl) rfl h.temporary_ne_nil
    | replace hstage hmade => exact h.effect_replace hstage hmade
    | rest hfinished => exact .rest

/-- Without a temporary file a writer may as well choose another name for it. -/
lemma Effect.of_named {number : Nat} (hbefore : writer.stage.hasTemporary = false)
    (h : Effect (writer.named number) tree changed made) : Effect writer tree changed made := by
  cases h with
  | rest => exact .prepare hbefore hbefore (.refl _ _ tree)
  | prepare hbefore hafter hgrown => exact .prepare hbefore hafter hgrown
  | create hbefore hfree hroot hne => exact .create hbefore hfree hroot hne
  | fill hhas hafter hroot => exact absurd (hhas.symm.trans hbefore) (by decide)
  | replace hhas hroot hrootTemporary => exact absurd (hhas.symm.trans hbefore) (by decide)
  | discard hhas hroot => exact absurd (hhas.symm.trans hbefore) (by decide)

lemma Progress.named (h : Progress tree writer tree) (hstage : writer.stage = .folderMade)
    (number : Nat) : Progress tree (writer.named number) tree := by
  refine ⟨h.proper, ⟨number, rfl⟩, h.grown, h.wellFormed, h.old, ?_⟩
  have hnamed : (writer.named number).stage = .folderMade := hstage
  rw [HoldsAt, hnamed]
  trivial

lemma Effect.fields_eq (h : Effect writer tree changed made) :
    changed.path = writer.path ∧ changed.content = writer.content := by
  cases h with
  | _ => exact ⟨rfl, rfl⟩

/-- What holds after a deed. -/
structure Acted (writer : CacheWriter) (tree : FileTree) (changed : CacheWriter)
    (made : FileTree) : Prop where
  effect : Effect writer tree changed made
  grown : Grown (way tree writer.path) (isSpare (tree.spelled writer.path)) tree made
  wellFormed : made.WellFormed
  progress : changed.isFinished = false → Progress made changed made

lemma Effect.acted (h : Effect writer tree changed made) (hprogress : Progress tree changed made) :
    Acted writer tree changed made := by
  refine ⟨h, ?_, hprogress.wellFormed, hprogress.rebase⟩
  rw [← h.fields_eq.1]
  exact hprogress.grown

/-- Giving up is safe whatever the reason. -/
lemma Progress.acted_giveUp (h : Progress tree writer tree) (failure : Failure) :
    Acted writer tree (writer.giveUp failure tree).1 (writer.giveUp failure tree).2 := by
  -- The tree is the same as after a reason of the file system.
  have hgone : Progress tree (writer.giveUp .systemLimit tree).1
      (writer.giveUp .systemLimit tree).2 := h.giveUp fun _ => rfl
  exact ⟨h.effect_giveUp failure, hgone.grown, hgone.wellFormed, fun e => by cases e⟩

lemma Progress.acted_advance (h : Progress tree writer tree) (number : Nat) :
    Acted writer tree (writer.advance number tree).1 (writer.advance number tree).2 := by
  rw [advance]
  split
  · rename_i hstage
    split
    · exact Effect.rest.acted h
    · rename_i hfree
      have hnamed := h.named hstage number
      have heffect := hnamed.effect_step fun _ => by simpa using hfree
      exact (heffect.of_named (by rw [hstage]; rfl)).acted hnamed.step
  · rename_i hstage
    exact (h.effect_step fun hfolder => absurd hfolder hstage).acted h.step

lemma Progress.acted_makeSome (h : Progress tree writer tree) (hstage : writer.stage = .arrived)
    (components : Nat) : Acted writer tree writer
      ((tree.makeFolders (folderAfter writer.path components)).toOption.getD tree) := by
  have hmade : ∀ spare, Furthered (way tree writer.path) spare tree
      ((tree.makeFolders (folderAfter writer.path components)).toOption.getD tree) :=
    fun spare => furthered_of_folderAfter h.wellFormed h.proper components
  have hbefore : writer.stage.hasTemporary = false := by rw [hstage]; rfl
  have heffect : Effect writer tree writer _ := .prepare hbefore hbefore (hmade _).1
  refine heffect.acted ⟨h.proper, h.temporary, (hmade _).1, (hmade (fun _ => false)).2, ?_, ?_⟩
  · intro found modified hfound
    cases (hmade (fun _ => false)).1.files _ found modified hfound with
    | inl hfound => exact .inl hfound
    | inr hspare => cases hspare
  · rw [HoldsAt, hstage]
    trivial

lemma Progress.acted_writePart (h : Progress tree writer tree) (hstage : writer.stage = .fileMade)
    (length : Nat) : Acted writer tree writer
      ((tree.write writer.temporary (writer.content.take length) writer.now).toOption.getD
        tree) := by
  cases hmade : tree.write writer.temporary (writer.content.take length) writer.now with
  | error failure => exact Effect.rest.acted h
  | ok made =>
    have hhas : writer.stage.hasTemporary = true := by rw [hstage]; rfl
    obtain ⟨hgrown, hwellFormed, hresolve, hfile, hcache⟩ := h.write hmade
    have hprogress : Progress tree writer made := by
      refine ⟨h.proper, h.temporary, hgrown, hwellFormed, ?_, ?_⟩
      · exact fun _ _ hfound => .inl (hcache ▸ hfound)
      · rw [HoldsAt, hstage]
        exact ⟨_, hresolve, hfile⟩
    obtain ⟨place, hplace, -, rfl⟩ := write_eq_ok hmade
    obtain rfl := h.resolve_temporary hplace
    exact (Effect.fill hhas hhas h.temporary_ne_nil).acted hprogress

/-- Every deed has an effect, and lets the writer go on. -/
lemma Progress.acted (h : Progress tree writer tree) (deed : Deed) :
    Acted writer tree (writer.act deed tree).1 (writer.act deed tree).2 := by
  cases deed with
  | advance number => exact h.acted_advance number
  | makeSome components =>
    rw [act]
    split
    · rename_i hstage
      exact h.acted_makeSome hstage components
    · exact Effect.rest.acted h
  | writePart length =>
    rw [act]
    split
    · rename_i hstage
      exact h.acted_writePart hstage length
    · exact Effect.rest.acted h
  | fail failure => exact h.acted_giveUp failure

/-! ## Effects -/

lemma Keeps.contentAt_eq {ways besides : List Place} (h : Keeps ways besides tree made)
    (hplace : place ∉ besides) : made.contentAt place = tree.contentAt place := by
  rw [contentAt, contentAt]
  obtain hsame | ⟨hnone, hfolder, -⟩ := h place hplace
  · rw [hsame]
  · rw [hnone, hfolder]

lemma held_eq (hbefore : writer.stage.hasTemporary = true) :
    writer.held tree = [tree.spelled writer.temporary] :=
  if_pos hbefore

namespace Effect

/-- Nothing changes but the cache file, the temporary file and folders on the way. -/
lemma keeps (h : Effect writer tree changed made) :
    Keeps (way tree writer.path)
      (tree.spelled writer.path :: writer.held tree ++ changed.held tree) tree made := by
  cases h with
  | rest => exact .refl _ _ tree
  | prepare hbefore hafter hgrown => exact .of_grown hgrown
  | create hbefore hfree hroot hne => exact .put hroot (by simp [held, Stage.hasTemporary]) _
  | fill hbefore hafter hroot => exact .put hroot (by simp [held_eq hbefore]) _
  | replace hbefore hroot hrootTemporary =>
    exact (Keeps.put hroot (by simp) _).trans (.remove hrootTemporary (by simp [held_eq hbefore]))
  | discard hbefore hroot => exact .remove hroot (by simp [held_eq hbefore])

/-- A temporary file is put where nothing is. -/
lemma at?_of_held (h : Effect writer tree changed made) (hnew : place ∈ changed.held tree)
    (hold : place ∉ writer.held tree) : tree.at? place = none := by
  cases h with
  | rest => exact absurd hnew hold
  | prepare hbefore hafter hgrown => simp [held, hafter] at hnew
  | create hbefore hfree hroot hne =>
    rw [List.mem_singleton.1 hnew]
    exact hfree
  | fill hbefore hafter hroot =>
    rw [held_eq hbefore] at hold
    exact absurd (List.mem_singleton.1 (by simpa [held, hafter] using hnew)) (by simpa using hold)
  | replace hbefore hroot hrootTemporary => exact absurd hnew List.not_mem_nil
  | discard hbefore hroot => exact absurd hnew List.not_mem_nil

/-- Whoever gives up a temporary file takes it away. -/
lemma at?_of_not_held (h : Effect writer tree changed made) (hold : place ∈ writer.held tree)
    (hnew : place ∉ changed.held tree) : made.at? place = none := by
  cases h with
  | rest => exact absurd hold hnew
  | prepare hbefore hafter hgrown => simp [held, hbefore] at hold
  | create hbefore hfree hroot hne => simp [held, hbefore] at hold
  | fill hbefore hafter hroot =>
    rw [held_eq hbefore] at hold
    exact absurd hold (by simpa [held, hafter] using hnew)
  | replace hbefore hroot hrootTemporary =>
    rw [held_eq hbefore] at hold
    rw [List.mem_singleton.1 hold, at?_remove hrootTemporary, if_pos rfl]
  | discard hbefore hroot =>
    rw [held_eq hbefore] at hold
    rw [List.mem_singleton.1 hold, at?_remove hroot, if_pos rfl]

/-- The cache file's content changes only when it is replaced, by that of the writer. -/
lemma contentAt_eq (h : Effect writer tree changed made)
    (hdiffers : tree.spelled writer.temporary ≠ tree.spelled writer.path) :
    made.contentAt (tree.spelled writer.path) = tree.contentAt (tree.spelled writer.path) ∨
      changed.stage = .done ∧
        made.contentAt (tree.spelled writer.path) = some writer.content := by
  cases h with
  | rest => exact .inl rfl
  | prepare hbefore hafter hgrown =>
    exact .inl ((Keeps.of_grown hgrown).contentAt_eq List.not_mem_nil)
  | create hbefore hfree hroot hne =>
    left
    rw [contentAt, contentAt, at?_put hroot, if_neg hne]
  | fill hbefore hafter hroot =>
    left
    rw [contentAt, contentAt, at?_put hroot, if_neg hdiffers]
  | replace hbefore hroot hrootTemporary =>
    right
    refine ⟨rfl, ?_⟩
    rw [contentAt, at?_remove hrootTemporary, if_neg hdiffers, at?_put hroot, if_pos rfl]
  | discard hbefore hroot =>
    left
    rw [contentAt, contentAt, at?_remove hroot, if_neg hdiffers]

end Effect

end CacheWriter

end Nullability
