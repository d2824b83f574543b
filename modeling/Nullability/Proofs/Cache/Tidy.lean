import Nullability.Proofs.Cache.Save

/-!
# What saving leaves behind

A save that comes to its end, or gives up in order, changes nothing but this: missing folders on the
way to the cache file may be there, and at the place of the cache file there is the new one, unless
the save failed (`Leaves`). In particular the temporary file is gone; and since its name was free,
nothing else has been taken for it.
-/

namespace Nullability.CacheWriter

open FileTree

variable {writer : CacheWriter} {start tree made before between after : FileTree} {path : Path}
  {place : Place} {besides more way : List Place}

/-! ## Names that are free -/

lemma temporaryName_injective (name : String) : Function.Injective (temporaryName name) := by
  intro n m h
  have hlist := congrArg String.toList h
  simp only [temporaryName, String.toList_append] at hlist
  have hdigits := List.append_cancel_left (List.append_cancel_right hlist)
  have hnumber := congrArg (fun digits => Nat.ofDigitChars 10 digits 0) hdigits
  simpa [Nat.toString_eq_ofList_toDigits] using hnumber

/-- A name that is taken stands for an entry. -/
lemma mem_keys_of_taken {name : String} (hpath : path.Proper) (hname : Path.IsName name)
    (h : (tree.node? (path.append [name])).isSome = true) :
    tree.spelled path ++ [name] ∈ tree.nodes.keys := by
  have hproper : (path.append [name]).Proper :=
    hpath.append fun part hpart => List.mem_singleton.1 hpart ▸ hname
  rw [node?] at h
  cases hresolve : tree.resolve (path.append [name]) with
  | error failure =>
    rw [hresolve] at h
    cases h
  | ok place =>
    rw [hresolve] at h
    obtain rfl : place = tree.spelled path ++ [name] := by
      rw [eq_spelled hproper hresolve, spelled_append_name hname]
    obtain ⟨node, hnode⟩ : ∃ node, tree.at? (tree.spelled path ++ [name]) = some node :=
      Option.isSome_iff_exists.1 h
    rw [at?_of_ne (List.append_ne_nil_of_right_ne_nil _ (List.cons_ne_nil name []))] at hnode
    by_contra hmissing
    rw [(tree.nodes.get?_eq_none_iff _).2 hmissing] at hnode
    cases hnode

/-- There are more names than entries, so the temporary file gets a name that is free. -/
lemma node?_freshBeside (hpath : path.Proper) (tree : FileTree) :
    tree.node? (freshBeside tree path) = none := by
  rw [freshBeside]
  dsimp only
  cases hfind : (List.range (tree.nodes.size + 1)).find? (fun n => !(tree.node?
      (path.parent.append ["." ++ path.name ++ "." ++ toString n ++ ".tmp"])).isSome) with
  | some n =>
    have hfree := List.find?_some hfind
    rw [Option.getD_some]
    simpa using hfree
  | none =>
    have htaken := List.find?_eq_none.1 hfind
    let name := fun n => tree.spelled path.parent ++ [temporaryName path.name n]
    have hsubset : (List.range (tree.nodes.size + 1)).map name ⊆ tree.nodes.keys := by
      intro place hplace
      obtain ⟨n, hn, rfl⟩ := List.mem_map.1 hplace
      refine mem_keys_of_taken hpath.parent (isName_temporaryName hpath) ?_
      have htaken := htaken n hn
      rw [Bool.not_eq_true', Bool.not_eq_false] at htaken
      exact htaken
    have hnodup : ((List.range (tree.nodes.size + 1)).map name).Nodup := by
      refine List.nodup_range.map ?_
      intro n m h
      exact temporaryName_injective _ (List.singleton_inj.1 (List.append_cancel_left h))
    have hlength := (List.subperm_of_subset hnodup hsubset).length_le
    rw [List.length_map, List.length_range, OrderedMap.keys, Pairs.keys, List.length_map] at hlength
    exact absurd hlength (Nat.not_succ_le_self _)

/-! ## What stays -/

/-- Whether a tree is as before at all places but some, apart from new folders on the way. -/
def Keeps (way besides : List Place) (before after : FileTree) : Prop :=
  ∀ place ∉ besides, after.at? place = before.at? place ∨
    before.at? place = none ∧ after.at? place = some .folder ∧ place ∈ way

namespace Keeps

lemma refl (way besides : List Place) (tree : FileTree) : Keeps way besides tree tree :=
  fun _ _ => .inl rfl

lemma trans (h : Keeps way besides before between) (h' : Keeps way besides between after) :
    Keeps way besides before after := by
  intro place hplace
  obtain hsame' | ⟨hnone', hfolder', hway⟩ := h' place hplace
  · obtain hsame | ⟨hnone, hfolder, hway⟩ := h place hplace
    · exact .inl (hsame'.trans hsame)
    · exact .inr ⟨hnone, hsame'.trans hfolder, hway⟩
  · obtain hsame | ⟨hnone, hfolder, -⟩ := h place hplace
    · exact .inr ⟨hsame.symm.trans hnone', hfolder', hway⟩
    · rw [hnone'] at hfolder
      cases hfolder

lemma mono (h : Keeps way besides before after) (hsubset : besides ⊆ more) :
    Keeps way more before after :=
  fun place hplace => h place (fun hmem => hplace (hsubset hmem))

/-- What is missing was missing before. -/
lemma at?_eq_none (h : Keeps way besides before after) (hplace : place ∉ besides)
    (hnone : after.at? place = none) : before.at? place = none := by
  obtain hsame | ⟨hbefore, -, -⟩ := h place hplace
  · exact hsame.symm.trans hnone
  · exact hbefore

/-- A place where there is the same again need not be left out. -/
lemma restore (h : Keeps way [place] before after) (hsame : after.at? place = before.at? place) :
    Keeps way [] before after := by
  intro other _
  by_cases heq : other = place
  · subst heq
    exact .inl hsame
  · exact h other (fun hmem => heq (List.mem_singleton.1 hmem))

/-- Growth that writes to no place leaves everything as it is. -/
lemma of_grown (h : Grown way (fun _ => false) before after) : Keeps way besides before after := by
  intro place _
  cases hbefore : before.at? place with
  | some node =>
    have hsteady : steady (fun _ => false) before place = true := by
      cases node with
      | folder => exact steady_of_folder hbefore
      | file content modified => exact steady_of_file hbefore rfl
    exact .inl ((h.at?_of_steady hsteady).trans hbefore)
  | none =>
    cases hafter : after.at? place with
    | none => exact .inl rfl
    | some node =>
      cases node with
      | folder =>
        obtain hfolder | hway := h.folders place hafter
        · rw [hbefore] at hfolder
          cases hfolder
        · exact .inr ⟨rfl, rfl, hway⟩
      | file content modified =>
        obtain hfile | hspare := h.files place content modified hafter
        · rw [hbefore] at hfile
          cases hfile
        · cases hspare

lemma put (hroot : place ≠ []) (hmem : place ∈ besides) (node : Node) :
    Keeps way besides tree (tree.put place node) := by
  intro other hother
  have hne : place ≠ other := fun heq => hother (heq ▸ hmem)
  rw [at?_put hroot, if_neg hne]
  exact .inl rfl

lemma remove (hroot : place ≠ []) (hmem : place ∈ besides) :
    Keeps way besides tree (tree.remove place) := by
  intro other hother
  have hne : place ≠ other := fun heq => hother (heq ▸ hmem)
  rw [at?_remove hroot, if_neg hne]
  exact .inl rfl

end Keeps

/-! ## Steps -/

/-- What a writer has changed so far, and that nothing was in the place of its temporary file. -/
def Tidy (start : FileTree) (writer : CacheWriter) (tree : FileTree) : Prop :=
  let kept := fun besides => Keeps (CacheWriter.way start writer.path) besides start tree
  match writer.stage with
  | .arrived => kept [] ∧ ∀ made, tree.makeFolders writer.path.parent = .ok made →
      made.node? writer.temporary = none
  | .folderMade => kept [] ∧ tree.node? writer.temporary = none
  | .fileMade | .contentWritten =>
    start.at? (start.spelled writer.temporary) = none ∧ kept [start.spelled writer.temporary]
  | .done => kept [start.spelled writer.path]
  | .failed _ => kept []

namespace Progress

/-- Without its temporary file a writer has changed no file. -/
lemma keeps_delete (h : Progress start writer tree) {found : List UInt8}
    (hfree : start.at? (start.spelled writer.temporary) = none)
    (hkeeps : Keeps (CacheWriter.way start writer.path) [start.spelled writer.temporary] start tree)
    (hplace : tree.resolve writer.temporary = .ok (start.spelled writer.temporary))
    (hfile : tree.at? (start.spelled writer.temporary) = some (.file found writer.now)) :
    ∃ made, tree.delete writer.temporary = .ok made ∧
      Keeps (CacheWriter.way start writer.path) [] start made := by
  have hfolder : tree.at? (start.spelled writer.temporary) ≠ some .folder := by
    rw [hfile]
    exact fun e => by cases e
  have hroot := ne_nil_of_ne_folder hfolder
  refine ⟨_, delete_file h.wellFormed hplace hfile, ?_⟩
  refine (hkeeps.trans (.remove hroot List.mem_cons_self)).restore ?_
  rw [at?_remove hroot, if_pos rfl, hfree]

lemma tidy_giveUp (h : Progress start writer tree) (htidy : Tidy start writer tree)
    (hunfinished : writer.isFinished = false) (failure : Failure) :
    Tidy start (writer.giveUp failure tree).1 (writer.giveUp failure tree).2 := by
  have hholds := h.holds
  rw [HoldsAt] at hholds
  rw [Tidy] at htidy
  change Keeps (CacheWriter.way start writer.path) [] start (writer.withoutTemporary tree)
  rw [withoutTemporary]
  cases hstage : writer.stage with
  | arrived =>
    rw [hstage] at htidy
    exact htidy.1
  | folderMade =>
    rw [hstage] at htidy
    exact htidy.1
  | fileMade =>
    rw [hstage] at htidy hholds
    obtain ⟨found, hplace, hfile⟩ := hholds
    obtain ⟨made, hmade, hkeeps⟩ := h.keeps_delete htidy.1 htidy.2 hplace hfile
    rw [hmade]
    exact hkeeps
  | contentWritten =>
    rw [hstage] at htidy hholds
    obtain ⟨made, hmade, hkeeps⟩ := h.keeps_delete htidy.1 htidy.2 hholds.1 hholds.2
    rw [hmade]
    exact hkeeps
  | done =>
    rw [isFinished, hstage] at hunfinished
    cases hunfinished
  | failed failure =>
    rw [isFinished, hstage] at hunfinished
    cases hunfinished

/-- The temporary file is put where nothing was. -/
lemma tidy_makeFile (h : Progress start writer tree) (hfree : tree.node? writer.temporary = none)
    (hkeeps : Keeps (CacheWriter.way start writer.path) [] start tree)
    (hmade : tree.write writer.temporary [] writer.now = .ok made) :
    start.at? (start.spelled writer.temporary) = none ∧
      Keeps (CacheWriter.way start writer.path) [start.spelled writer.temporary] start made := by
  obtain ⟨place, hplace, hfolder, rfl⟩ := write_eq_ok hmade
  obtain rfl := h.resolve_temporary hplace
  rw [node?, hplace] at hfree
  refine ⟨hkeeps.at?_eq_none List.not_mem_nil hfree, ?_⟩
  exact (hkeeps.mono (List.nil_subset _)).trans
    (.put (ne_nil_of_ne_folder hfolder) List.mem_cons_self _)

lemma tidy_writeContent (h : Progress start writer tree)
    (hkeeps : Keeps (CacheWriter.way start writer.path) [start.spelled writer.temporary] start tree)
    (hmade : tree.write writer.temporary writer.content writer.now = .ok made) :
    Keeps (CacheWriter.way start writer.path) [start.spelled writer.temporary] start made := by
  obtain ⟨place, hplace, hfolder, rfl⟩ := write_eq_ok hmade
  obtain rfl := h.resolve_temporary hplace
  exact hkeeps.trans (.put (ne_nil_of_ne_folder hfolder) List.mem_cons_self _)

/-- When the temporary file has taken the place of the cache file, nothing is left where it was. -/
lemma tidy_replace (h : Progress start writer tree)
    (hfree : start.at? (start.spelled writer.temporary) = none)
    (hkeeps : Keeps (CacheWriter.way start writer.path) [start.spelled writer.temporary] start tree)
    (hplace : tree.resolve writer.temporary = .ok (start.spelled writer.temporary))
    (hmade : tree.replace writer.temporary writer.path = .ok made) :
    Keeps (CacheWriter.way start writer.path) [start.spelled writer.path] start made := by
  obtain ⟨-, hne⟩ := h.temporary_place
  obtain ⟨content, modified, origin, place, horigin, hnode, htarget, hfolder, rfl⟩ :=
    replace_eq_ok hmade
  obtain rfl : origin = start.spelled writer.temporary :=
    Except.ok.inj (horigin.symm.trans hplace)
  obtain rfl : place = start.spelled writer.path := by
    rw [eq_spelled h.proper htarget, h.grown.spelled_eq]
  rw [if_neg hne]
  have hroot := ne_nil_of_ne_folder hfolder
  have hrootTemporary : start.spelled writer.temporary ≠ [] := by
    intro e
    rw [e, at?_nil] at hfree
    cases hfree
  intro other hother
  have hother : start.spelled writer.path ≠ other := fun e => hother (List.mem_singleton.2 e.symm)
  rw [at?_remove hrootTemporary]
  split
  · rename_i heq
    rw [← heq, hfree]
    exact .inl rfl
  · rename_i hne'
    rw [at?_put hroot, if_neg hother]
    exact hkeeps other (fun hmem => hne' (List.mem_singleton.1 hmem).symm)

lemma isFinished_of_change_error {failure : Failure} (h : writer.change tree = .error failure) :
    writer.isFinished = false := by
  rw [isFinished]
  cases hstage : writer.stage with
  | done =>
    rw [change, hstage] at h
    cases h
  | failed reason =>
    rw [change, hstage] at h
    cases h
  | _ => rfl

/-- Every step stays tidy. -/
lemma tidy_step (h : Progress start writer tree) (htidy : Tidy start writer tree) :
    Tidy start (writer.step tree).1 (writer.step tree).2 := by
  rw [CacheWriter.step]
  cases hchange : writer.change tree with
  | error failure => exact h.tidy_giveUp htidy (isFinished_of_change_error hchange) failure
  | ok change =>
    obtain ⟨stage, made⟩ := change
    change Tidy start { writer with stage := stage } made
    have hholds := h.holds
    rw [HoldsAt] at hholds
    have hbefore := htidy
    rw [Tidy] at hbefore
    cases change_of_eq_ok hchange with
    | makeFolder hstage hmade =>
      rw [hstage] at hbefore
      have hgrown := (h.makeFolders (fun _ => false) hmade).1
      exact ⟨hbefore.1.trans (.of_grown hgrown), hbefore.2 made hmade⟩
    | makeFile hstage hmade =>
      rw [hstage] at hbefore
      exact h.tidy_makeFile hbefore.2 hbefore.1 hmade
    | writeContent hstage hmade =>
      rw [hstage] at hbefore
      exact ⟨hbefore.1, h.tidy_writeContent hbefore.2 hmade⟩
    | replace hstage hmade =>
      rw [hstage] at hbefore hholds
      exact h.tidy_replace hbefore.1 hbefore.2 hholds.1 hmade
    | rest hfinished => exact htidy

lemma tidy_steps (h : Progress start writer tree) (htidy : Tidy start writer tree) (n : Nat) :
    Tidy start (CacheWriter.steps n writer tree).1 (CacheWriter.steps n writer tree).2 := by
  induction n generalizing writer tree with
  | zero => exact htidy
  | succ n ih => exact ih h.step (h.tidy_step htidy)

end Progress

/-! ## Saves -/

variable {content : List UInt8} {now : Int}

/-- A writer that has just arrived has at most found new folders on its way. -/
lemma tidy_of_arrived (hpath : path.Proper)
    (hmade : Grown (CacheWriter.way start path) (fun _ => false) start made) :
    Tidy start (arriving made path content now) made := by
  refine ⟨.of_grown hmade, ?_⟩
  intro furnished hfurnished
  have hfree := node?_freshBeside hpath furnished
  have hmake : made.makeFolders path.parent = .ok furnished := hfurnished
  change furnished.node? (freshBeside ((made.makeFolders path.parent).toOption.getD made) path) = none
  rw [hmake]
  exact hfree

/-- What a save has left behind: nothing but folders, and the cache file unless it failed. -/
def Leaves (path : Path) (before : FileTree) (outcome : Except Failure Unit) (after : FileTree) :
    Prop :=
  match outcome with
  | .ok _ => Keeps (CacheWriter.way before path) [before.spelled path] before after
  | .error _ => Keeps (CacheWriter.way before path) [] before after

lemma Tidy.leaves (h : Tidy start writer tree) (hfinished : writer.isFinished = true) :
    Leaves writer.path start writer.outcome tree := by
  rw [Tidy] at h
  rw [isFinished] at hfinished
  cases hstage : writer.stage with
  | done =>
    have houtcome : writer.outcome = .ok () := by rw [outcome, hstage]
    rw [hstage] at h
    rw [houtcome]
    exact h
  | failed failure =>
    have houtcome : writer.outcome = .error failure := by rw [outcome, hstage]
    rw [hstage] at h
    rw [houtcome]
    exact h
  | _ =>
    rw [hstage] at hfinished
    cases hfinished

lemma leaves_run (htree : tree.WellFormed) (hpath : path.Proper) (content : List UInt8)
    (now : Int) :
    let finished := (arriving tree path content now).run tree
    Leaves path tree finished.1.outcome finished.2 := by
  have hprogress : Progress tree (arriving tree path content now) tree :=
    progress_of_arrived hpath fun spare => ⟨.refl _ spare tree, htree⟩
  have htidy := hprogress.tidy_steps (tidy_of_arrived hpath (.refl _ _ tree)) 4
  have hleaves := htidy.leaves (isFinished_steps _ tree (le_refl 4))
  rw [(fields_steps 4 (arriving tree path content now) tree).1] at hleaves
  exact hleaves

/-- A save up to a mishap, behind which the temporary file is taken away. -/
lemma leaves_runUntil (htree : tree.WellFormed) (hpath : path.Proper) {mishap : Mishap}
    (hclean : mishap.leaves = false) (content : List UInt8) (now : Int) :
    let finished := runUntil mishap path content now tree
    Leaves path tree finished.1.outcome finished.2 := by
  let made := (tree.makeFolders (folderAfter path mishap.folders)).toOption.getD tree
  have hmade : ∀ spare, Furthered (CacheWriter.way tree path) spare tree made :=
    fun spare => furthered_of_folderAfter htree hpath mishap.folders
  have hprogress : Progress tree (arriving made path content now) made :=
    progress_of_arrived hpath hmade
  have htidy := hprogress.tidy_steps (tidy_of_arrived hpath (hmade _).1) mishap.steps
  have hsteps := hprogress.steps mishap.steps
  obtain ⟨hpath', -⟩ := fields_steps mishap.steps (arriving made path content now) made
  rw [runUntil]
  change Leaves path tree
    (interrupt mishap.leaves (steps mishap.steps (arriving made path content now) made).1
      (steps mishap.steps (arriving made path content now) made).2).1.outcome
    (interrupt mishap.leaves (steps mishap.steps (arriving made path content now) made).1
      (steps mishap.steps (arriving made path content now) made).2).2
  rw [interrupt, hclean]
  split
  · rename_i hfinished
    have hleaves := htidy.leaves hfinished
    rw [hpath'] at hleaves
    exact hleaves
  · rename_i hunfinished
    have hgiveUp := hsteps.tidy_giveUp htidy (Bool.eq_false_of_not_eq_true hunfinished) .systemLimit
    have hleaves := hgiveUp.leaves rfl
    rw [giveUp, hpath'] at hleaves
    exact hleaves

end Nullability.CacheWriter
