import Nullability.Proofs.Cache.Moves

/-!
# Shared cache files are replaced as a whole

However the steps of saves and of readers interleave, and wherever they fail or break off, readers
find what was there at first or what one save wrote from beginning to end
(`SharedCache.readers_find_whole_saves`). Apart from that file and from new folders on the way to it
nothing changes but the temporary files of those saves that have not come to their end: each of them
has one at a place of its own, where nothing was.
-/

namespace Nullability

open FileTree CacheWriter

variable {start : FileTree} {shared : SharedCache} {before after : List CacheSave}
  {save : CacheSave} {writer : CacheWriter} {place : Place} {bytes : List UInt8}

namespace SharedCache

/-! ## A save that nobody disturbs -/

/-- The steps of a save, one after the other. -/
def alone (cache : AnnotationCache) (now : Int) (number : Nat) : List Move :=
  .begin cache now :: List.replicate 4 (.act 0 (.advance number))

/-- A writer that takes the number that it has does not change its mind. -/
lemma advance_eq_step {tree : FileTree} {number : Nat}
    (hnumber : (writer.named number).temporary = writer.temporary)
    (hfree : writer.stage = .folderMade → tree.node? writer.temporary = none) :
    writer.advance number tree = writer.step tree := by
  have hnamed : writer.named number = writer := by
    change { writer with temporary := (writer.named number).temporary } = writer
    rw [hnumber]
  rw [advance]
  split
  · rename_i hstage
    rw [hnamed, hfree hstage]
    rfl
  · rfl

lemma step_of_isFinished {tree : FileTree} (h : writer.isFinished = true) :
    writer.step tree = (writer, tree) := by
  obtain ⟨path, temporary, content, now, stage⟩ := writer
  cases stage with
  | done => rfl
  | failed failure => rfl
  | _ => cases h

lemma run_alone {path : Path} {cache : AnnotationCache} {number : Nat} {tree : FileTree} (n : Nat)
    (hprogress : Progress start writer tree) (htidy : Tidy start writer tree)
    (hnumber : (writer.named number).temporary = writer.temporary) :
    SharedCache.run (List.replicate n (.act 0 (.advance number)))
        ⟨path, tree, [⟨cache, writer, false⟩], []⟩ =
      ⟨path, (steps n writer tree).2, [⟨cache, (steps n writer tree).1, false⟩], []⟩ := by
  induction n generalizing writer tree with
  | zero => rfl
  | succ n ih =>
    have hfree : writer.stage = .folderMade → tree.node? writer.temporary = none := by
      intro hstage
      rw [Tidy, hstage] at htidy
      exact htidy.2
    have hstep : SharedCache.step ⟨path, tree, [⟨cache, writer, false⟩], []⟩
        (.act 0 (.advance number)) =
          ⟨path, (writer.step tree).2, [⟨cache, (writer.step tree).1, false⟩], []⟩ := by
      cases hfinished : writer.isFinished with
      | true => simp [SharedCache.step, hfinished, step_of_isFinished hfinished]
      | false => simp [SharedCache.step, hfinished, CacheWriter.act, advance_eq_step hnumber hfree]
    have hnumber' : ((writer.step tree).1.named number).temporary =
        (writer.step tree).1.temporary := by
      rw [CacheWriter.step]
      cases writer.change tree with
      | error failure => exact hnumber
      | ok change => exact hnumber
    rw [List.replicate_succ, run, List.foldl_cons, hstep]
    exact ih hprogress.step (hprogress.tidy_step htidy) hnumber'

/-- Without anyone else, the cache is stored. -/
lemma exists_run_alone {tree : FileTree} {path : Path} (htree : tree.WellFormed)
    (hpath : path.Proper) (cache : AnnotationCache) (now : Int) :
    ∃ number, ((opened path tree).run (alone cache now number)).tree =
      (cache.store path now tree).2 := by
  cases hbytes : cache.toBytes with
  | error failure =>
    refine ⟨0, ?_⟩
    simp [alone, run, SharedCache.step, opened, AnnotationCache.store, hbytes]
  | ok content =>
    have hprogress : Progress tree (arriving tree path content now) tree :=
      progress_of_arrived hpath fun spare => ⟨.refl _ spare tree, htree⟩
    have htidy : Tidy tree (arriving tree path content now) tree :=
      tidy_of_arrived hpath (.refl _ _ tree)
    obtain ⟨number, hnumber⟩ := hprogress.temporary
    refine ⟨number, ?_⟩
    have hbegun : (opened path tree).step (.begin cache now) =
        ⟨path, tree, [⟨cache, arriving tree path content now, false⟩], []⟩ := by
      rw [SharedCache.step, hbytes]
      rfl
    rw [alone, run, List.foldl_cons, hbegun]
    refine (congrArg SharedCache.tree (run_alone 4 hprogress htidy hnumber.symm)).trans ?_
    rw [AnnotationCache.store, hbytes, ← run_eq_steps]
    dsimp only
    split
    · rfl
    · rfl

/-! ## Whole contents -/

lemma step_path (shared : SharedCache) (move : Move) : (shared.step move).path = shared.path := by
  cases move with
  | begin cache now =>
    rw [SharedCache.step]
    split
    · rfl
    · rfl
  | act index deed =>
    rw [SharedCache.step]
    split
    · split
      · rfl
      · rfl
    · rfl
  | kill index =>
    rw [SharedCache.step]
    split
    · rfl
    · rfl
  | read =>
    rw [SharedCache.step]
    split
    · rfl
    · rfl

lemma run_path (moves : List Move) (shared : SharedCache) :
    (shared.run moves).path = shared.path := by
  induction moves generalizing shared with
  | nil => rfl
  | cons move rest ih => exact (ih (shared.step move)).trans (shared.step_path move)

/-- Whatever saves and readers do to a cache file in turn, a reader that finds the file finds what
was there at the start, or the whole of a cache whose save has replaced it. And a save that has come
to an end, well or not, has left nothing behind but folders on the way: all other changes are
temporary files of saves that have not come to an end. -/
theorem readers_find_whole_saves {path : Path} (hstart : start.WellFormed) (hpath : path.Proper)
    (moves : List Move) :
    let shared := (opened path start).run moves
    (∀ bytes ∈ shared.seen, start.contentAt (start.spelled path) = some bytes ∨
      ∃ save ∈ shared.saves, save.writer.stage = .done ∧ save.cache.pack = .ok bytes) ∧
    ∀ place ≠ start.spelled path,
      (∀ save ∈ shared.saves, save.writer.stage.hasTemporary = true →
        place ≠ start.spelled save.writer.temporary) →
      shared.tree.at? place = start.at? place ∨
        start.at? place = none ∧ shared.tree.at? place = some .folder ∧ place ∈ way start path := by
  intro shared
  have hsound : Sound start shared := (sound_opened hstart hpath).run moves
  have hshared : shared.path = path := run_path moves (opened path start)
  refine ⟨?_, ?_⟩
  · intro bytes hbytes
    have hoffers := hsound.seen bytes hbytes
    rw [Offers, hshared] at hoffers
    exact hoffers
  · intro place hcache hsaves
    have hkeeps := hsound.keeps
    rw [hshared] at hkeeps
    refine hkeeps place ?_
    rw [List.mem_cons, not_or]
    refine ⟨hcache, fun hplace => ?_⟩
    obtain ⟨save, hsave, hheld⟩ := List.mem_flatMap.1 hplace
    obtain ⟨hhas, hspelled⟩ := mem_held.1 hheld
    rw [hsound.grown.spelled_eq] at hspelled
    exact hsaves save hsave hhas hspelled

/-- A folder with a cache file. -/
def sampleTree : FileTree :=
  ⟨.ofList [(["w"], .folder), (["w", "c"], .folder), (["w", "c", "a.cache"], .file [1, 2, 3] 1)],
    ["w"], []⟩

/-- Two saves, of which the first fails halfway through its content; one reader comes before and one
after the second replaces the file. -/
def sampleMoves : List Move :=
  [.begin ⟨.time 5, .empty⟩ 2, .begin ⟨.time 7, .empty⟩ 3, .act 0 (.advance 0), .act 0 (.advance 0),
    .act 0 (.writePart 9), .read, .act 1 (.advance 0), .act 1 (.advance 0), .act 1 (.advance 1),
    .act 1 (.advance 1), .act 0 (.fail .systemLimit), .act 1 (.advance 1), .read, .kill 1]

theorem readers_find_whole_saves_sample :
    let path := Path.ofText "c/a.cache"
    let shared := (opened path sampleTree).run sampleMoves
    sampleTree.WellFormed ∧ path.Proper ∧ shared.seen.length = 2 ∧
      ∀ bytes ∈ shared.seen, sampleTree.contentAt (sampleTree.spelled path) = some bytes ∨
        ∃ save ∈ shared.saves, save.writer.stage = .done ∧ save.cache.pack = .ok bytes := by
  intro path shared
  have htree : sampleTree.WellFormed := by decide +kernel
  have hpath : path.Proper := by decide +kernel
  have hseen : shared.seen.length = 2 := by decide +kernel
  exact ⟨htree, hpath, hseen, (readers_find_whole_saves htree hpath sampleMoves).1⟩

end SharedCache

end Nullability
