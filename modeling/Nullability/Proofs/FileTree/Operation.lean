import Nullability.Proofs.FileTree.Growth

/-!
# Operations on trees

What has happened to a tree when an operation has succeeded: a folder or a file was put where a path
leads, a file was moved or taken away. An operation that fails does so for a reason of the file
system, unless there is a null character in the path (`Stops`).
-/

namespace Nullability.FileTree

variable {way : List Place} {spare : Place → Bool} {tree made before after : FileTree}
  {path : Path} {place : Place}

/-- The place that a path spells, seen from the current folder. -/
def spelled (tree : FileTree) (path : Path) : Place :=
  (path.parts.foldl Path.foldPart (tree.start path).reverse).reverse

/-- A path leads nowhere but to the place that it spells. -/
lemma eq_spelled (hpath : path.Proper) (h : tree.resolve path = .ok place) :
    place = tree.spelled path :=
  Path.foldlM_step_eq hpath (resolve_eq_ok_iff.1 h).2

lemma Grown.spelled_eq (h : Grown way spare before after) (path : Path) :
    after.spelled path = before.spelled path := by
  rw [spelled, spelled, h.start_eq]

/-! ## Failures -/

lemma isFileSystem_of_step {part : String} {failure : Failure}
    (h : tree.step place part = .error failure) : failure.isFileSystem = true := by
  rw [step] at h
  split at h
  · cases h
  · rw [← Except.error.inj h]
    rfl
  · rw [← Except.error.inj h]
    rfl

lemma isFileSystem_of_foldlM {parts : List String} {start : Place} {failure : Failure}
    (h : parts.foldlM tree.step start = .error failure) : failure.isFileSystem = true := by
  induction parts generalizing start with
  | nil => cases h
  | cons part rest ih =>
    rw [List.foldlM_cons] at h
    cases hstep : tree.step start part with
    | error failure' =>
      rw [hstep] at h
      rw [← Except.error.inj h]
      exact isFileSystem_of_step hstep
    | ok next =>
      rw [hstep] at h
      exact ih h

/-- What stops an operation on a path: a null character in it, or else the file system. -/
def Stops (path : Path) (failure : Failure) : Prop :=
  if path.hasNull then failure = .badValue else failure.isFileSystem = true

namespace Stops

lemma of_isFileSystem (hnull : path.hasNull = false) {failure : Failure}
    (h : failure.isFileSystem = true) : Stops path failure := by
  rw [Stops, if_neg (by simp [hnull])]
  exact h

lemma isFileSystem (hnull : path.hasNull = false) {failure : Failure} (h : Stops path failure) :
    failure.isFileSystem = true := by
  rwa [Stops, if_neg (by simp [hnull])] at h

lemma eq_badValue (hnull : path.hasNull = true) {failure : Failure} (h : Stops path failure) :
    failure = .badValue := by
  rwa [Stops, if_pos hnull] at h

lemma isFileSystem_or {failure : Failure} (h : Stops path failure) :
    failure.isFileSystem = true ∨ failure = .badValue := by
  cases hnull : path.hasNull with
  | false => exact .inl (h.isFileSystem hnull)
  | true => exact .inr (h.eq_badValue hnull)

lemma of_resolve {failure : Failure} (h : tree.resolve path = .error failure) :
    Stops path failure := by
  rw [resolve] at h
  rw [Stops]
  split
  · rename_i hnull
    rw [if_pos hnull] at h
    exact (Except.error.inj h).symm
  · rename_i hnull
    rw [if_neg hnull] at h
    exact isFileSystem_of_foldlM h

/-- What is done where a path leads is stopped as the path is, if what is done there fails for a
reason of the file system only. -/
lemma of_resolve_bind {α : Type} {act : Place → Except Failure α} {failure : Failure}
    (hact : ∀ place, act place = .error failure → failure.isFileSystem = true)
    (h : (tree.resolve path >>= act) = .error failure) : Stops path failure := by
  obtain h | ⟨place, hplace, h⟩ := Outcome.bind_eq_error.1 h
  · exact .of_resolve h
  · exact .of_isFileSystem (hasNull_of_resolve hplace) (hact place h)

end Stops

/-! ## Operations -/

/-- How one folder is made: it is put into a folder, where nothing was. -/
lemma makeFolder_eq_ok (h : tree.makeFolder path = .ok made) :
    ∃ place, tree.resolve path = .ok place ∧ tree.at? place = none ∧
      made = tree.put place .folder := by
  obtain ⟨place, hplace, h⟩ := Outcome.bind_eq_ok.1 h
  split at h
  · cases h
  · rename_i hnone
    exact ⟨place, hplace, hnone, (Except.ok.inj h).symm⟩
  · cases h
  · cases h

lemma stops_of_makeFolder {failure : Failure} (h : tree.makeFolder path = .error failure) :
    Stops path failure := by
  refine .of_resolve_bind (fun place h => ?_) h
  split at h
  · rw [← Except.error.inj h]
    rfl
  · cases h
  · rw [← Except.error.inj h]
    rfl
  · rw [← Except.error.inj h]
    rfl

lemma write_eq_ok {content : List UInt8} {modified : Int}
    (h : tree.write path content modified = .ok made) :
    ∃ place, tree.resolve path = .ok place ∧ tree.at? place ≠ some .folder ∧
      made = tree.put place (.file content modified) := by
  obtain ⟨place, hplace, h⟩ := Outcome.bind_eq_ok.1 h
  split at h
  · cases h
  · rename_i hfolder
    exact ⟨place, hplace, hfolder, (Except.ok.inj h).symm⟩

lemma stops_of_write {content : List UInt8} {modified : Int} {failure : Failure}
    (h : tree.write path content modified = .error failure) : Stops path failure := by
  refine .of_resolve_bind (fun place h => ?_) h
  split at h
  · rw [← Except.error.inj h]
    rfl
  · cases h

lemma stops_of_file {failure : Failure} (h : tree.file path = .error failure) :
    Stops path failure := by
  refine .of_resolve_bind (fun place h => ?_) h
  split at h
  · cases h
  · rw [← Except.error.inj h]
    rfl
  · rw [← Except.error.inj h]
    rfl

/-- How a file is moved: it is put where no folder is, and taken away from where it was. -/
lemma replace_eq_ok {source target : Path} (h : tree.replace source target = .ok made) :
    ∃ content modified origin place, tree.resolve source = .ok origin ∧
      tree.at? origin = some (.file content modified) ∧ tree.resolve target = .ok place ∧
      tree.at? place ≠ some .folder ∧
      made = if origin = place then tree.put place (.file content modified)
        else (tree.put place (.file content modified)).remove origin := by
  obtain ⟨⟨content, modified⟩, hfile, h⟩ := Outcome.bind_eq_ok.1 h
  obtain ⟨origin, horigin, hnode⟩ := file_eq_ok_iff.1 hfile
  obtain ⟨place, hplace, h⟩ := Outcome.bind_eq_ok.1 h
  split at h
  · cases h
  · split at h
    · cases h
    · rename_i hfolder
      obtain ⟨origin', horigin', h⟩ := Outcome.bind_eq_ok.1 h
      obtain rfl : origin = origin' := Except.ok.inj (horigin.symm.trans horigin')
      refine ⟨content, modified, origin, place, horigin, hnode, hplace, hfolder, ?_⟩
      exact (Except.ok.inj h).symm

lemma isFileSystem_of_replace {source target : Path} {failure : Failure}
    (hsource : source.hasNull = false) (htarget : target.hasNull = false)
    (h : tree.replace source target = .error failure) : failure.isFileSystem = true := by
  obtain h | ⟨file, -, h⟩ := Outcome.bind_eq_error.1 h
  · exact (stops_of_file h).isFileSystem hsource
  refine (Stops.of_resolve_bind (fun place h => ?_) h).isFileSystem htarget
  split at h
  · rw [← Except.error.inj h]
    rfl
  · split at h
    · rw [← Except.error.inj h]
      rfl
    · refine (Stops.of_resolve_bind (fun origin h => ?_) h).isFileSystem hsource
      cases h

/-- Deleting a file takes away nothing else. -/
lemma delete_file (htree : tree.WellFormed) {content : List UInt8} {modified : Int}
    (hplace : tree.resolve path = .ok place)
    (hfile : tree.at? place = some (.file content modified)) :
    tree.delete path = .ok (tree.remove place) := by
  -- Whatever lies below the place is deleted as well, but nothing lies below a file.
  have hnodes : tree.nodes.filter (fun other _ => !place.isPrefixOf other) =
      tree.nodes.erase place := by
    apply OrderedMap.ext
    apply List.filter_congr
    intro entry hentry
    have hnode := (mem_entries_iff (htree.nodes entry hentry).1).1 hentry
    by_cases heq : entry.1 = place
    · simp [heq]
    · have hnotBelow : place.isPrefixOf entry.1 = false := by
        rw [Bool.eq_false_iff, ne_eq, List.isPrefixOf_iff_prefix]
        intro hbelow
        refine heq (htree.eq_of_below ?_ hbelow hnode)
        rw [hfile]
        exact fun e => by cases e
      simp [heq, hnotBelow]
  refine Outcome.bind_eq_ok.2 ⟨place, hplace, ?_⟩
  rw [hfile, hnodes]
  rfl

/-! ## Making folders -/

/-- What making folders does: some of those on the way are new. -/
def Furthered (way : List Place) (spare : Place → Bool) (before after : FileTree) : Prop :=
  Grown way spare before after ∧ after.WellFormed

lemma furthered_of_makeFolder (htree : tree.WellFormed) (hpath : path.Proper)
    (hway : tree.spelled path ∈ way) (h : tree.makeFolder path = .ok made) :
    Furthered way spare tree made := by
  obtain ⟨place, hplace, hnone, rfl⟩ := makeFolder_eq_ok h
  have hreached := htree.reached hpath hplace
  have hroot : place ≠ [] := by
    intro e
    rw [e, at?_nil] at hnone
    cases hnone
  refine ⟨.putFolder hnone ?_, htree.put hreached (fun _ => rfl) hroot⟩
  rw [eq_spelled hpath hplace]
  exact hway

lemma furthered_of_ensureFolder (htree : tree.WellFormed) (hpath : path.Proper)
    (hway : tree.spelled path ∈ way) (h : tree.ensureFolder path = .ok made) :
    Furthered way spare tree made := by
  rw [ensureFolder] at h
  split at h
  · split at h
    · exact Except.ok.inj h ▸ ⟨.refl way spare tree, htree⟩
    · cases h
  · exact furthered_of_makeFolder htree hpath hway h

lemma furthered_of_makeFoldersFrom {fuel : Nat} (htree : tree.WellFormed) (hpath : path.Proper)
    (hway : ∀ parts, parts <+: path.parts → tree.spelled ⟨path.anchor, parts⟩ ∈ way)
    (h : makeFoldersFrom fuel tree path = .ok made) : Furthered way spare tree made := by
  have hself : tree.spelled path ∈ way := hway path.parts List.prefix_rfl
  -- The parent's way is part of the way, so the claim holds of the parent before the path itself.
  induction fuel generalizing path made with
  | zero => exact furthered_of_ensureFolder htree hpath hself h
  | succ fuel ih =>
    rw [makeFoldersFrom] at h
    split at h
    · split at h
      · cases h
      · obtain ⟨further, hparent, h⟩ := Outcome.bind_eq_ok.1 h
        have hwayParent : ∀ parts, parts <+: path.parent.parts →
            tree.spelled ⟨path.parent.anchor, parts⟩ ∈ way :=
          fun parts hparts => hway parts (hparts.trans (List.dropLast_prefix path.parts))
        obtain ⟨hgrown, hfurther⟩ := ih hpath.parent hwayParent hparent
          (hwayParent _ List.prefix_rfl)
        have hselfFurther : further.spelled path ∈ way := by
          rw [hgrown.spelled_eq]
          exact hself
        have hrest : Furthered way spare further made :=
          furthered_of_ensureFolder hfurther hpath hselfFurther h
        exact ⟨hgrown.trans hrest.1, hrest.2⟩
    · split at h
      · exact Except.ok.inj h ▸ ⟨.refl way spare tree, htree⟩
      · cases h
    · exact furthered_of_makeFolder htree hpath hself h

lemma stops_of_ensureFolder {failure : Failure}
    (h : tree.ensureFolder path = .error failure) : Stops path failure := by
  rw [ensureFolder] at h
  split at h
  · rename_i hmade
    split at h
    · cases h
    · rw [← Except.error.inj h]
      exact stops_of_makeFolder hmade
  · exact stops_of_makeFolder h

lemma isFileSystem_of_makeFoldersFrom {fuel : Nat} {failure : Failure}
    (hnull : path.hasNull = false) (h : makeFoldersFrom fuel tree path = .error failure) :
    failure.isFileSystem = true := by
  induction fuel generalizing path failure with
  | zero => exact (stops_of_ensureFolder h).isFileSystem hnull
  | succ fuel ih =>
    rw [makeFoldersFrom] at h
    split at h
    · split at h
      · rw [← Except.error.inj h]
        rfl
      · obtain h | ⟨further, -, h⟩ := Outcome.bind_eq_error.1 h
        · exact ih (Path.hasNull_parent hnull) h
        · exact (stops_of_ensureFolder h).isFileSystem hnull
    · rename_i hmade
      split at h
      · cases h
      · rw [← Except.error.inj h]
        exact (stops_of_makeFolder hmade).isFileSystem hnull
    · exact (stops_of_makeFolder h).isFileSystem hnull

/-- No folder is made for a path with a null character. -/
lemma makeFolders_of_hasNull (h : path.hasNull = true) :
    tree.makeFolders path = .error .badValue := by
  have hmake : tree.makeFolder path = .error .badValue := by
    rw [makeFolder, resolve_of_hasNull h]
    rfl
  have hfolder : tree.isFolder path = false := by
    rw [isFolder, node?, resolve_of_hasNull h]
    rfl
  rw [makeFolders]
  cases path.parts.length with
  | zero => rw [makeFoldersFrom, ensureFolder, hmake, hfolder]; rfl
  | succ fuel => rw [makeFoldersFrom, hmake, hfolder]; rfl

lemma stops_of_makeFolders {failure : Failure} (h : tree.makeFolders path = .error failure) :
    Stops path failure := by
  cases hnull : path.hasNull with
  | false => exact .of_isFileSystem hnull (isFileSystem_of_makeFoldersFrom hnull h)
  | true =>
    rw [makeFolders_of_hasNull hnull] at h
    rw [Stops, if_pos hnull]
    exact (Except.error.inj h).symm

end Nullability.FileTree
