import Nullability.Cache.Store
import Nullability.Proofs.FileTree.Operation

/-!
# Writing cache files

However far a writer comes, the tree has only grown (`FileTree.Grown`): there may be new folders on
the way to the cache file, and in its folder the cache file may be replaced. The temporary file is
there only between two steps. The cache file either is what it was or holds the whole content, and
every failure is one of the file system, unless there is a null character in the cache file's path.
-/

namespace Nullability.CacheWriter

open FileTree

/-- Whether a place has the name of a temporary file. -/
def isTemporary (place : Place) : Bool :=
  (Path.splitSuffix (place.getLast?.getD "")).2 = ".tmp"

/-- What is written to while a cache file at a place is saved: the cache file, and temporary
files. -/
def isSpare (cache place : Place) : Bool :=
  place = cache || isTemporary place

lemma isSpare_self (cache : Place) : isSpare cache cache = true := by
  rw [isSpare, decide_eq_true rfl]
  rfl

/-- The folders on the way to a path. -/
def way (tree : FileTree) (path : Path) : List Place :=
  path.parent.parts.inits.map (fun parts => tree.spelled ⟨path.anchor, parts⟩)

/-- A number of steps. -/
def steps : Nat → CacheWriter → FileTree → CacheWriter × FileTree
  | 0, writer, tree => (writer, tree)
  | n + 1, writer, tree =>
    let (writer, tree) := writer.step tree
    steps n writer tree

variable {writer : CacheWriter} {tree start made : FileTree} {path : Path} {n : Nat}

lemma mem_way {parts : List String} (h : parts <+: path.parent.parts) :
    tree.spelled ⟨path.anchor, parts⟩ ∈ way tree path :=
  List.mem_map.2 ⟨parts, (List.mem_inits parts _).2 h, rfl⟩

/-- Folders stay where they are, so the way stays the same. -/
lemma way_eq_of_grown {way : List Place} {spare : Place → Bool} (h : Grown way spare tree made)
    (path : Path) : CacheWriter.way made path = CacheWriter.way tree path :=
  List.map_congr_left fun parts _ => h.spelled_eq ⟨path.anchor, parts⟩

lemma run_eq_steps (writer : CacheWriter) (tree : FileTree) :
    writer.run tree = steps 4 writer tree := rfl

/-! ## Temporary files -/

/-- The name of a temporary file for a name. -/
def temporaryName (name : String) (n : Nat) : String :=
  "." ++ name ++ "." ++ toString n ++ ".tmp"

lemma exists_freshBeside (tree : FileTree) (path : Path) :
    ∃ n, freshBeside tree path = path.parent.append [temporaryName path.name n] :=
  ⟨_, rfl⟩

/-- The last point of such a name is the one in its ending. -/
lemma suffix_temporaryName (name : String) (n : Nat) :
    (Path.splitSuffix (temporaryName name n)).2 = ".tmp" := by
  have hreverse : (temporaryName name n).toList.reverse =
      'p' :: 'm' :: 't' :: '.' :: ("." ++ name ++ "." ++ toString n).toList.reverse := by
    rw [temporaryName, String.toList_append, List.reverse_append]
    rfl
  rw [Path.splitSuffix, hreverse]
  simp

/-- Such a name is longer than the name that it is for. -/
lemma temporaryName_ne (name : String) (n : Nat) : temporaryName name n ≠ name := by
  intro h
  have hlength := congrArg String.length h
  simp only [temporaryName, String.length_append] at hlength
  have hdot : (".").length = 1 := rfl
  omega

/-- No character comes in by such a name but digits, points and letters. -/
lemma mem_temporaryName {name : String} {c : Char} (hdigit : c.isDigit = false)
    (hother : c ∉ ".tmp".toList) : c ∈ (temporaryName name n).toList ↔ c ∈ name.toList := by
  have hdigits : c ∉ (toString n).toList := by
    intro h
    have hisDigit := Nat.isDigit_of_mem_toDigits (b := 10) (by decide) (by decide)
      (by simpa using h : c ∈ Nat.toDigits 10 n)
    rw [hdigit] at hisDigit
    cases hisDigit
  have hpoint : c ∉ ".".toList := fun h => hother (List.mem_cons.2 (.inl (List.mem_singleton.1 h)))
  simp only [temporaryName, String.toList_append, List.mem_append, hpoint, hdigits, hother,
    or_false, false_or]

/-- Such a name is a name, if the one that it is for is the last component of a path. -/
lemma isName_temporaryName (hpath : path.Proper) : Path.IsName (temporaryName path.name n) := by
  have hsuffix := suffix_temporaryName path.name n
  refine ⟨?_, ?_, ?_, ?_⟩
  · intro e
    rw [e] at hsuffix
    exact absurd hsuffix (by decide)
  · intro e
    rw [e] at hsuffix
    exact absurd hsuffix (by decide)
  · intro e
    rw [e] at hsuffix
    exact absurd hsuffix (by decide)
  · rw [mem_temporaryName (by decide) (by decide)]
    exact hpath.no_slash_name

/-- The path of a temporary file has a null character if that of the cache file has one. -/
lemma hasNull_temporary (path : Path) (n : Nat) :
    (path.parent.append [temporaryName path.name n]).hasNull = path.hasNull := by
  obtain ⟨anchor, parts⟩ := path
  have hname : (⟨anchor, [temporaryName (Path.name ⟨anchor, parts⟩) n]⟩ : Path).hasNull =
      (Path.name ⟨anchor, parts⟩).toList.contains '\x00' := by
    rw [Path.hasNull, List.any_cons, List.any_nil, Bool.or_false, Bool.eq_iff_iff,
      List.contains_iff_mem, List.contains_iff_mem, mem_temporaryName (by decide) (by decide)]
  rw [Path.hasNull_append, Path.parent, hname]
  cases parts using List.reverseRecOn with
  | nil => rfl
  | append_singleton before last _ =>
    simp [Path.hasNull, Path.name]

/-- A path with a further name spells a place inside the one that it spells. -/
lemma spelled_append_name {name : String} (hname : Path.IsName name) :
    tree.spelled (path.append [name]) = tree.spelled path ++ [name] := by
  have hstart : tree.start (path.append [name]) = tree.start path := rfl
  rw [spelled, spelled, hstart, Path.append, List.foldl_append, List.foldl_cons, List.foldl_nil,
    Path.foldPart, if_neg (not_or.2 ⟨hname.ne_empty, hname.ne_dot⟩), if_neg hname.ne_dots,
    List.reverse_cons]

/-- What a path spells, compared to its folder. -/
lemma spelled_cases (tree : FileTree) (hpath : path.Proper) :
    tree.spelled path = tree.spelled path.parent ∨
      tree.spelled path = (tree.spelled path.parent).dropLast ∨
      tree.spelled path = tree.spelled path.parent ++ [path.name] := by
  obtain ⟨anchor, parts⟩ := path
  induction parts using List.reverseRecOn with
  | nil => exact .inl rfl
  | append_singleton before last _ =>
    have hlast := hpath last List.mem_concat_self
    have hstart : tree.start ⟨anchor, before ++ [last]⟩ = tree.start ⟨anchor, before⟩ := rfl
    have hparent : Path.parent ⟨anchor, before ++ [last]⟩ = ⟨anchor, before⟩ := by
      rw [Path.parent, List.dropLast_concat]
    have hname : Path.name ⟨anchor, before ++ [last]⟩ = last := by
      rw [Path.name, List.getLast?_concat]
      rfl
    right
    rw [hparent, hname, spelled, spelled, hstart, List.foldl_append, List.foldl_cons,
      List.foldl_nil, Path.foldPart, if_neg (not_or.2 ⟨hlast.ne_empty, hlast.ne_dot⟩)]
    split
    · left
      rw [List.dropLast_reverse]
    · right
      rw [List.reverse_cons]

lemma spelled_temporary_ne (hpath : path.Proper) :
    tree.spelled (path.parent.append [temporaryName path.name n]) ≠ tree.spelled path := by
  rw [spelled_append_name (isName_temporaryName hpath)]
  obtain h | h | h := spelled_cases tree hpath
  · rw [h]
    exact fun e => List.cons_ne_nil _ _ (List.append_right_eq_self.1 e)
  · rw [h]
    intro e
    have hlength := congrArg List.length e
    rw [List.length_append, List.length_dropLast, List.length_singleton] at hlength
    omega
  · rw [h]
    intro e
    exact temporaryName_ne path.name n (List.singleton_inj.1 (List.append_cancel_left e))

lemma isSpare_temporary (hpath : path.Proper) (cache : Place) :
    isSpare cache (tree.spelled (path.parent.append [temporaryName path.name n])) = true := by
  rw [spelled_append_name (isName_temporaryName hpath), isSpare, isTemporary,
    List.getLast?_concat, Option.getD_some, suffix_temporaryName]
  simp

/-! ## Steps -/

/-- What a step does that succeeds. -/
inductive Change (writer : CacheWriter) (tree : FileTree) : Stage → FileTree → Prop where
  | makeFolder {made : FileTree} (hstage : writer.stage = .arrived)
    (hmade : tree.makeFolders writer.path.parent = .ok made) :
    Change writer tree .folderMade made
  | makeFile {made : FileTree} (hstage : writer.stage = .folderMade)
    (hmade : tree.write writer.temporary [] writer.now = .ok made) :
    Change writer tree .fileMade made
  | writeContent {made : FileTree} (hstage : writer.stage = .fileMade)
    (hmade : tree.write writer.temporary writer.content writer.now = .ok made) :
    Change writer tree .contentWritten made
  | replace {made : FileTree} (hstage : writer.stage = .contentWritten)
    (hmade : tree.replace writer.temporary writer.path = .ok made) :
    Change writer tree .done made
  | rest (hfinished : writer.isFinished = true) : Change writer tree writer.stage tree

lemma change_of_eq_ok {stage : Stage} (h : writer.change tree = .ok (stage, made)) :
    Change writer tree stage made := by
  rw [change] at h
  cases hstage : writer.stage with
  | arrived =>
    rw [hstage] at h
    obtain ⟨made', hmade, heq⟩ := Outcome.map_eq_ok.1 h
    obtain ⟨rfl, rfl⟩ := Prod.mk.inj heq
    exact .makeFolder hstage hmade
  | folderMade =>
    rw [hstage] at h
    obtain ⟨made', hmade, heq⟩ := Outcome.map_eq_ok.1 h
    obtain ⟨rfl, rfl⟩ := Prod.mk.inj heq
    exact .makeFile hstage hmade
  | fileMade =>
    rw [hstage] at h
    obtain ⟨made', hmade, heq⟩ := Outcome.map_eq_ok.1 h
    obtain ⟨rfl, rfl⟩ := Prod.mk.inj heq
    exact .writeContent hstage hmade
  | contentWritten =>
    rw [hstage] at h
    obtain ⟨made', hmade, heq⟩ := Outcome.map_eq_ok.1 h
    obtain ⟨rfl, rfl⟩ := Prod.mk.inj heq
    exact .replace hstage hmade
  | done =>
    rw [hstage] at h
    obtain ⟨rfl, rfl⟩ := Prod.mk.inj (Except.ok.inj h)
    exact hstage ▸ .rest (by rw [isFinished, hstage])
  | failed failure =>
    rw [hstage] at h
    obtain ⟨rfl, rfl⟩ := Prod.mk.inj (Except.ok.inj h)
    exact hstage ▸ .rest (by rw [isFinished, hstage])

/-- Whether there is no null character in the paths of the cache file and the temporary file. -/
def HasNoNull (writer : CacheWriter) : Prop :=
  writer.path.hasNull = false ∧ writer.temporary.hasNull = false

lemma hasNoNull_arriving (h : path.hasNull = false) (tree : FileTree) (content : List UInt8)
    (now : Int) : (arriving tree path content now).HasNoNull :=
  ⟨h, (hasNull_temporary path _).trans h⟩

/-- A step that fails does so for a reason of the file system. -/
lemma isFileSystem_of_change (hnull : writer.HasNoNull) {failure : Failure}
    (h : writer.change tree = .error failure) : failure.isFileSystem = true := by
  obtain ⟨hpath, htemporary⟩ := hnull
  rw [change] at h
  split at h
  · exact isFileSystem_of_makeFoldersFrom (Path.hasNull_parent hpath) (Outcome.map_eq_error.1 h)
  · exact (stops_of_write (Outcome.map_eq_error.1 h)).isFileSystem htemporary
  · exact (stops_of_write (Outcome.map_eq_error.1 h)).isFileSystem htemporary
  · exact isFileSystem_of_replace htemporary hpath (Outcome.map_eq_error.1 h)
  · cases h

/-! ## Progress -/

section Progress

variable {content : List UInt8} {now : Int}

/-- What holds at a stage besides the growth of the tree. -/
def HoldsAt (writer : CacheWriter) (cache temporary : Place) (tree : FileTree) : Prop :=
  match writer.stage with
  | .arrived | .folderMade => True
  | .fileMade => ∃ found, tree.resolve writer.temporary = .ok temporary ∧
      tree.at? temporary = some (.file found writer.now)
  | .contentWritten => tree.resolve writer.temporary = .ok temporary ∧
      tree.at? temporary = some (.file writer.content writer.now)
  | .done => tree.resolve writer.path = .ok cache ∧
      tree.at? cache = some (.file writer.content writer.now)
  | .failed failure => writer.path.hasNull = false → failure.isFileSystem = true

/-- What a writer has done to a tree so far, where the cache file and the temporary file have their
places. -/
structure Progress (start : FileTree) (writer : CacheWriter) (tree : FileTree) : Prop where
  proper : writer.path.Proper
  temporary : ∃ n, writer.temporary = writer.path.parent.append [temporaryName writer.path.name n]
  grown : Grown (way start writer.path) (isSpare (start.spelled writer.path)) start tree
  wellFormed : tree.WellFormed
  /-- A file at the cache file's place was there before, or is the new one. -/
  old : ∀ found modified, tree.at? (start.spelled writer.path) = some (.file found modified) →
    start.at? (start.spelled writer.path) = some (.file found modified) ∨ found = writer.content
  holds : HoldsAt writer (start.spelled writer.path) (start.spelled writer.temporary) tree

namespace Progress

/-- The temporary file's place is spare, and not that of the cache file. -/
lemma temporary_place (h : Progress start writer tree) :
    isSpare (start.spelled writer.path) (start.spelled writer.temporary) = true ∧
      start.spelled writer.temporary ≠ start.spelled writer.path := by
  obtain ⟨n, htemporary⟩ := h.temporary
  rw [htemporary]
  exact ⟨isSpare_temporary h.proper _, spelled_temporary_ne h.proper⟩

lemma temporary_proper (h : Progress start writer tree) : writer.temporary.Proper := by
  obtain ⟨n, htemporary⟩ := h.temporary
  rw [htemporary]
  refine h.proper.parent.append ?_
  intro name hname
  rw [List.mem_singleton.1 hname]
  exact isName_temporaryName h.proper

/-- The path of the temporary file leads to its place, if anywhere. -/
lemma resolve_temporary (h : Progress start writer tree) {place : Place}
    (hplace : tree.resolve writer.temporary = .ok place) :
    place = start.spelled writer.temporary := by
  rw [eq_spelled h.temporary_proper hplace, h.grown.spelled_eq]

/-- The way to the cache file's folder is made, and no file. -/
lemma makeFolders (h : Progress start writer tree) (spare : Place → Bool)
    (hmade : tree.makeFolders writer.path.parent = .ok made) :
    Furthered (way start writer.path) spare tree made := by
  refine furthered_of_makeFoldersFrom h.wellFormed h.proper.parent ?_ hmade
  intro parts hparts
  rw [h.grown.spelled_eq]
  exact mem_way hparts

lemma write (h : Progress start writer tree) {found : List UInt8}
    (hmade : tree.write writer.temporary found writer.now = .ok made) :
    Grown (way start writer.path) (isSpare (start.spelled writer.path)) tree made ∧
      made.WellFormed ∧
      made.resolve writer.temporary = .ok (start.spelled writer.temporary) ∧
      made.at? (start.spelled writer.temporary) = some (.file found writer.now) ∧
      made.at? (start.spelled writer.path) = tree.at? (start.spelled writer.path) := by
  obtain ⟨hspare, hne⟩ := h.temporary_place
  obtain ⟨place, hplace, hfolder, rfl⟩ := write_eq_ok hmade
  obtain rfl := h.resolve_temporary hplace
  have hroot := ne_nil_of_ne_folder hfolder
  have hgrown : Grown (way start writer.path) (isSpare (start.spelled writer.path)) tree
      (tree.put (start.spelled writer.temporary) (.file found writer.now)) :=
    .putFile hfolder hspare found writer.now
  refine ⟨hgrown, ?_, hgrown.resolve hplace, ?_, ?_⟩
  · exact h.wellFormed.putFile h.temporary_proper hplace hfolder found writer.now
  · rw [at?_put hroot, if_pos rfl]
  · rw [at?_put hroot, if_neg hne]

lemma delete (h : Progress start writer tree) {found : List UInt8}
    (hplace : tree.resolve writer.temporary = .ok (start.spelled writer.temporary))
    (hfile : tree.at? (start.spelled writer.temporary) = some (.file found writer.now)) :
    ∃ made, tree.delete writer.temporary = .ok made ∧
      Grown (way start writer.path) (isSpare (start.spelled writer.path)) tree made ∧
      made.WellFormed ∧
      made.at? (start.spelled writer.path) = tree.at? (start.spelled writer.path) := by
  obtain ⟨hspare, hne⟩ := h.temporary_place
  have hfolder : tree.at? (start.spelled writer.temporary) ≠ some .folder := by
    rw [hfile]
    exact fun e => by cases e
  refine ⟨_, delete_file h.wellFormed hplace hfile, .remove hfolder hspare,
    h.wellFormed.remove hfolder, ?_⟩
  rw [at?_remove (ne_nil_of_ne_folder hfolder), if_neg hne]

lemma replace (h : Progress start writer tree)
    (hplace : tree.resolve writer.temporary = .ok (start.spelled writer.temporary))
    (hfile : tree.at? (start.spelled writer.temporary) = some (.file writer.content writer.now))
    (hmade : tree.replace writer.temporary writer.path = .ok made) :
    Grown (way start writer.path) (isSpare (start.spelled writer.path)) tree made ∧
      made.WellFormed ∧ made.resolve writer.path = .ok (start.spelled writer.path) ∧
      made.at? (start.spelled writer.path) = some (.file writer.content writer.now) := by
  obtain ⟨hspare, hne⟩ := h.temporary_place
  obtain ⟨content, modified, origin, place, horigin, hnode, htarget, hfolder, rfl⟩ :=
    replace_eq_ok hmade
  obtain rfl : origin = start.spelled writer.temporary :=
    Except.ok.inj (horigin.symm.trans hplace)
  obtain rfl : place = start.spelled writer.path := by
    rw [eq_spelled h.proper htarget, h.grown.spelled_eq]
  obtain ⟨rfl, rfl⟩ : content = writer.content ∧ modified = writer.now := by
    rw [hfile] at hnode
    cases hnode
    exact ⟨rfl, rfl⟩
  have hroot := ne_nil_of_ne_folder hfolder
  -- The file is put at its new place, and then removed from the old one.
  have hput : Grown (way start writer.path) (isSpare (start.spelled writer.path)) tree
      (tree.put (start.spelled writer.path) (.file writer.content writer.now)) :=
    .putFile hfolder (isSpare_self _) writer.content writer.now
  have hwellFormed : (tree.put (start.spelled writer.path)
      (.file writer.content writer.now)).WellFormed :=
    h.wellFormed.putFile h.proper htarget hfolder writer.content writer.now
  have hstill : (tree.put (start.spelled writer.path) (.file writer.content writer.now)).at?
      (start.spelled writer.temporary) ≠ some .folder := by
    rw [at?_put hroot, if_neg (fun e => hne e.symm), hfile]
    exact fun e => by cases e
  rw [if_neg hne]
  have hgrown := hput.trans (.remove hstill hspare)
  refine ⟨hgrown, hwellFormed.remove hstill, hgrown.resolve htarget, ?_⟩
  rw [at?_remove (ne_nil_of_ne_folder hstill), if_neg hne, at?_put hroot, if_pos rfl]

lemma hasNoNull (h : Progress start writer tree) (hnull : writer.path.hasNull = false) :
    writer.HasNoNull := by
  obtain ⟨n, htemporary⟩ := h.temporary
  exact ⟨hnull, htemporary ▸ (hasNull_temporary writer.path n).trans hnull⟩

/-- Whoever gives up has taken the temporary file away. -/
lemma giveUp (h : Progress start writer tree) {failure : Failure}
    (hfailure : writer.path.hasNull = false → failure.isFileSystem = true) :
    Progress start (writer.giveUp failure tree).1 (writer.giveUp failure tree).2 := by
  -- At the two stages with a temporary file it is deleted, at the others there is none.
  have hdeleted : ∀ found, tree.resolve writer.temporary = .ok (start.spelled writer.temporary) →
      tree.at? (start.spelled writer.temporary) = some (.file found writer.now) →
      (writer.stage = .fileMade ∨ writer.stage = .contentWritten) →
      Progress start { writer with stage := .failed failure } (writer.withoutTemporary tree) := by
    intro found hplace hfile hstage
    obtain ⟨made, hmade, hgrown, hwellFormed, hcache⟩ := h.delete hplace hfile
    have hwithout : writer.withoutTemporary tree = made := by
      cases hstage with
      | inl hstage => simp [withoutTemporary, hstage, hmade]
      | inr hstage => simp [withoutTemporary, hstage, hmade]
    rw [hwithout]
    refine ⟨h.proper, h.temporary, h.grown.trans hgrown, hwellFormed, ?_, hfailure⟩
    intro found modified hold
    exact h.old found modified (hcache ▸ hold)
  have hkept : writer.withoutTemporary tree = tree →
      Progress start { writer with stage := .failed failure } (writer.withoutTemporary tree) := by
    intro hwithout
    rw [hwithout]
    exact ⟨h.proper, h.temporary, h.grown, h.wellFormed, h.old, hfailure⟩
  have hholds := h.holds
  rw [HoldsAt] at hholds
  rw [CacheWriter.giveUp]
  cases hstage : writer.stage with
  | fileMade =>
    rw [hstage] at hholds
    obtain ⟨found, hplace, hfile⟩ := hholds
    exact hdeleted found hplace hfile (.inl hstage)
  | contentWritten =>
    rw [hstage] at hholds
    exact hdeleted writer.content hholds.1 hholds.2 (.inr hstage)
  | arrived => exact hkept (by rw [withoutTemporary, hstage])
  | folderMade => exact hkept (by rw [withoutTemporary, hstage])
  | done => exact hkept (by rw [withoutTemporary, hstage])
  | failed failure' => exact hkept (by rw [withoutTemporary, hstage])

/-- A step that changes the tree. -/
lemma of_change (h : Progress start writer tree) {stage : Stage}
    (hgrown : Grown (way start writer.path) (isSpare (start.spelled writer.path)) tree made)
    (hmade : made.WellFormed)
    (hold : ∀ found modified, made.at? (start.spelled writer.path) = some (.file found modified) →
      tree.at? (start.spelled writer.path) = some (.file found modified) ∨
        found = writer.content)
    (hholds : HoldsAt { writer with stage := stage } (start.spelled writer.path)
      (start.spelled writer.temporary) made) :
    Progress start { writer with stage := stage } made := by
  refine ⟨h.proper, h.temporary, h.grown.trans hgrown, hmade, ?_, hholds⟩
  intro found modified hfound
  cases hold found modified hfound with
  | inl hfound => exact h.old found modified hfound
  | inr hcontent => exact .inr hcontent

/-- Every step is progress. -/
lemma step (h : Progress start writer tree) :
    Progress start (writer.step tree).1 (writer.step tree).2 := by
  rw [CacheWriter.step]
  cases hchange : writer.change tree with
  | error failure =>
    exact h.giveUp fun hnull => isFileSystem_of_change (h.hasNoNull hnull) hchange
  | ok change =>
    obtain ⟨stage, made⟩ := change
    have hholds := h.holds
    rw [HoldsAt] at hholds
    change Progress start { writer with stage := stage } made
    cases change_of_eq_ok hchange with
    | makeFolder hstage hmade =>
      obtain ⟨hgrown, hwellFormed⟩ := h.makeFolders (isSpare (start.spelled writer.path)) hmade
      refine h.of_change hgrown hwellFormed ?_ trivial
      -- Seen as growth that spares nothing, this leaves all files alone.
      intro found modified hfound
      cases (h.makeFolders (fun _ => false) hmade).1.files _ found modified hfound with
      | inl hfound => exact .inl hfound
      | inr hspare => cases hspare
    | makeFile hstage hmade =>
      obtain ⟨hgrown, hwellFormed, hresolve, hfile, hcache⟩ := h.write hmade
      exact h.of_change hgrown hwellFormed (fun _ _ hfound => .inl (hcache ▸ hfound))
        ⟨[], hresolve, hfile⟩
    | writeContent hstage hmade =>
      obtain ⟨hgrown, hwellFormed, hresolve, hfile, hcache⟩ := h.write hmade
      exact h.of_change hgrown hwellFormed (fun _ _ hfound => .inl (hcache ▸ hfound))
        ⟨hresolve, hfile⟩
    | replace hstage hmade =>
      rw [hstage] at hholds
      obtain ⟨hgrown, hwellFormed, hresolve, hcache⟩ := h.replace hholds.1 hholds.2 hmade
      refine h.of_change hgrown hwellFormed ?_ ⟨hresolve, hcache⟩
      intro found modified hfound
      rw [hcache] at hfound
      cases hfound
      exact .inr rfl
    | rest hfinished => exact h

/-- Any number of steps is progress. -/
lemma steps (h : Progress start writer tree) (n : Nat) :
    Progress start (CacheWriter.steps n writer tree).1 (CacheWriter.steps n writer tree).2 := by
  induction n generalizing writer tree with
  | zero => exact h
  | succ n ih => exact ih h.step

end Progress

/-- A writer that has just arrived has at most found new folders on its way. -/
lemma progress_of_arrived (hpath : path.Proper)
    (hmade : ∀ spare, Furthered (way start path) spare start made) :
    Progress start (arriving made path content now) made := by
  refine ⟨hpath, exists_freshBeside _ path, (hmade _).1, (hmade (fun _ => false)).2, ?_, trivial⟩
  intro found modified hfound
  cases (hmade (fun _ => false)).1.files _ found modified hfound with
  | inl hfound => exact .inl hfound
  | inr hspare => cases hspare

end Progress

end Nullability.CacheWriter
