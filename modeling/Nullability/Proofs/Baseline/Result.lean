import Nullability.Proofs.AnnotationMap.Compaction
import Nullability.Proofs.Baseline.Refusal
import Nullability.Proofs.Cache.Tidy

/-!
# What a baseline is, and what making it leaves behind

A baseline that is made is the map of the cache file, if that is not empty and not older than any
document; then no document is read and no file is changed. Otherwise it is the compacted map of all
documents, and of the files at most the cache file is another one than before (`create_eq_ok`).
-/

namespace Nullability.Baseline

open FileTree CacheWriter

variable {b : Baseline} {w w' : Workspace} {before after tree : FileTree} {documents : List Path}
  {time now : Int} {map all : AnnotationMap} {mishap : Option Mishap}

/-! ## Maps of cache files -/

/-- Whether the cache file holds a map, not an empty one, with a stamp that is not before some time. -/
def HoldsFresh (b : Baseline) (tree : FileTree) (time : Int) (map : AnnotationMap) : Prop :=
  ∃ bytes cache, tree.read b.cachePath = .ok bytes ∧
    AnnotationCache.unpack b.cachePath.text bytes = .ok cache ∧ cache.map = map ∧
    map.isEmpty = false ∧ time ≤ cache.stamp.nanoseconds

lemma holdsFresh_iff (htold : tree.denial? b.cachePath = none) :
    b.HoldsFresh tree time map ↔ ∃ cache, b.usable tree = .ok (some cache) ∧
      cache.map = map ∧ cache.isStale time = false := by
  constructor
  · rintro ⟨bytes, cache, hread, hunpack, rfl, hempty, htime⟩
    have hload : AnnotationCache.load tree b.cachePath = .ok cache :=
      Outcome.bind_eq_ok.2 ⟨bytes, hread, hunpack⟩
    exact ⟨cache, usable_eq_some_iff.2 ⟨htold, hload, hempty⟩, rfl,
      decide_eq_false (not_lt.2 htime)⟩
  · rintro ⟨cache, husable, rfl, hfresh⟩
    obtain ⟨-, hload, hempty⟩ := usable_eq_some_iff.1 husable
    obtain ⟨bytes, hread, hunpack⟩ := Outcome.bind_eq_ok.1 hload
    exact ⟨bytes, cache, hread, hunpack, rfl, hempty, not_lt.1 (of_decide_eq_false hfresh)⟩

lemma not_holdsFresh_of_isOutdated (htold : tree.denial? b.cachePath = none)
    (h : b.IsOutdated tree time) : ¬ ∃ held, b.HoldsFresh tree time held := by
  rintro ⟨held, hholds⟩
  obtain ⟨cache, husable, -, hfresh⟩ := (holdsFresh_iff htold).1 hholds
  rw [h cache husable] at hfresh
  cases hfresh

/-! ## Maps of documents -/

/-- Whether a map is what is left of another one without the entries of which nothing is known: at
least one entry, and enough for the same answers. -/
structure Condenses (map all : AnnotationMap) : Prop where
  eq : map = all.compact
  nonempty : map.isEmpty = false
  informed : ∀ entry ∈ map.entries, entry.2.isEmpty = false
  answers : ∀ id aspect, map.answers id aspect = all.answers id aspect

lemma condenses_of_merged (h : b.merged tree documents = .ok map) :
    ∃ all, mergeDocuments tree documents .empty = .ok all ∧ Condenses map all := by
  obtain ⟨all, hall, hmap⟩ := Outcome.bind_eq_ok.1 h
  split at hmap
  · cases hmap
  · rename_i hnonempty
    obtain rfl := Except.ok.inj hmap
    exact ⟨all, hall, rfl, Bool.eq_false_of_not_eq_true hnonempty,
      fun _ => AnnotationMap.isEmpty_of_mem_compact, all.answers_compact⟩

/-! ## Files -/

/-- What has become of the files when some bytes were to be saved as the cache file: missing folders
on the way are there, and nothing else has changed but the cache file. If saving failed, not even
that has. -/
structure Saves (b : Baseline) (bytes : List UInt8) (before : FileTree)
    (saved : Except Failure Unit) (after : FileTree) : Prop where
  current : after.current = before.current
  content : saved = .ok () → after.read b.cachePath = .ok bytes
  leaves : Leaves b.cachePath before saved after

lemma saves_of_saved {bytes : List UInt8} {modified : Int} {saved : Except Failure Unit}
    (h : Saved b.cachePath bytes modified before saved after)
    (hleaves : Leaves b.cachePath before saved after) : b.Saves bytes before saved after := by
  refine ⟨h.grown.current, ?_, hleaves⟩
  intro hok
  obtain ⟨hresolve, hfile⟩ := h.saved hok
  exact Outcome.map_eq_ok.2 ⟨_, file_eq_ok_iff.2 ⟨_, hresolve, hfile⟩, rfl⟩

lemma leaves_writerUntil (htree : before.WellFormed) (hpath : b.cachePath.Proper)
    (hclean : ∀ m ∈ mishap, m.leaves = false) (bytes : List UInt8) (modified : Int) :
    let ended := writerUntil mishap b.cachePath bytes modified before
    Leaves b.cachePath before ended.1.outcome ended.2 := by
  cases mishap with
  | none => exact leaves_run htree hpath bytes modified
  | some mishap => exact leaves_runUntil htree hpath (hclean mishap rfl) bytes modified

/-- Writing saves, if a mishap lets the temporary file be taken away. -/
lemma saves_of_writeUntil {cache : AnnotationCache} {bytes : List UInt8} {between : Workspace}
    {saved : Except Failure Unit} (hpack : cache.pack = .ok bytes) (hpath : b.cachePath.Proper)
    (htree : w.tree.WellFormed) (hclean : ∀ m ∈ mishap, m.leaves = false)
    (hbetween : w.Leads between)
    (hwrite : writeUntil mishap b.cachePath cache between =
      (saved, { between with tree := after })) :
    b.Saves bytes w.tree saved after := by
  obtain ⟨rfl, hwritten⟩ := eq_writerUntil hpack hbetween hwrite
  rw [hwritten]
  exact saves_of_saved (saved_writerUntil htree hpath mishap bytes between.now)
    (leaves_writerUntil htree hpath hclean bytes between.now)

/-! ## The baseline -/

/-- A baseline that is made, where `time` is the greatest time of a document that is found, is what
the cache file holds, and then no document is read and no file is changed. Or the cache file holds
no such map; then it is the compacted map of the documents in the order in which they are found, and
this map with the time is saved, or the files of before are left and that is reported. -/
theorem create_eq_ok (htree : w.tree.WellFormed) (hpath : b.cachePath.Proper)
    (hclean : ∀ m ∈ mishap, m.leaves = false) (h : b.createAt now mishap w = (.ok map, w')) :
    ∃ documents times time, b.discovered w.tree = .ok documents ∧ documents ≠ [] ∧
      documents.mapM (fun document => (w.tree.file document).map Prod.snd) = .ok times ∧
      times.max? = some time ∧
      ((b.HoldsFresh w.tree time map ∧ w'.documents = w.documents ∧ w'.tree = w.tree) ∨
        (¬ ∃ held, b.HoldsFresh w.tree time held) ∧ ∃ all bytes saved,
          mergeDocuments w.tree documents .empty = .ok all ∧ Condenses map all ∧
          (⟨.time time, map⟩ : AnnotationCache).pack = .ok bytes ∧
          b.Saves bytes w.tree saved w'.tree ∧
          ∀ failure, saved = .error failure →
            failure.isFileSystem = true ∧ b.ReportsUnsaved w w') := by
  have hending := ending b mishap { w with now := now }
  rw [createAt_eq_ok h] at hending
  cases hending with
  | @reused documents time cache _ hdocuments hne htime husable hfresh hleads hunread =>
    obtain ⟨times, htimes, hmax⟩ := newest_eq_ok.1 htime
    have hholds : b.HoldsFresh w.tree time cache.map :=
      (holdsFresh_iff (told_of_usable husable)).2 ⟨cache, husable, rfl, hfresh⟩
    exact ⟨documents, times, time, hdocuments, hne, htimes, hmax,
      .inl ⟨hholds, hunread, hleads.tree⟩⟩
  | @rebuilt documents time _ bytes saved between _ hdocuments hne htime htold houtdated hmerged
      hpack hbetween hwrite hreason =>
    obtain ⟨times, htimes, hmax⟩ := newest_eq_ok.1 htime
    obtain ⟨all, hall, hmap⟩ := condenses_of_merged hmerged
    have hwellFormed : ({ w with now := now } : Workspace).tree.WellFormed := htree
    have hsaves := saves_of_writeUntil hpack hpath hwellFormed hclean hbetween hwrite
    exact ⟨documents, times, time, hdocuments, hne, htimes, hmax, .inr
      ⟨not_holdsFresh_of_isOutdated htold houtdated, all, bytes, saved, hall, hmap, hpack, hsaves,
        hreason⟩⟩

/-- A save that gives up when its temporary file is written. -/
def sampleMishap : Mishap := ⟨1, 3, false⟩

theorem create_eq_ok_sample :
    let b := sampleBaseline "sys"
    let w := sampleWorkspace (some (samplePath "sys"))
    w.tree.WellFormed ∧ b.cachePath.Proper ∧ sampleMishap.leaves = false ∧
      ∃ map w' time bytes saved, b.createAt 2 (some sampleMishap) w = (.ok map, w') ∧
        (⟨.time time, map⟩ : AnnotationCache).pack = .ok bytes ∧
        b.Saves bytes w.tree saved w'.tree := by
  intro b w
  have htree : w.tree.WellFormed := by decide +kernel
  have hpath : b.cachePath.Proper := by decide +kernel
  have hclean : ∀ m ∈ some sampleMishap, m.leaves = false := by decide
  -- There is a baseline, and there was no cache file.
  have hrun : (b.createAt 2 (some sampleMishap) w).1.toOption.isSome = true ∧
      (w.tree.read b.cachePath).toOption = none := by
    decide +kernel
  obtain ⟨hsome, hmissing⟩ := hrun
  cases hmade : b.createAt 2 (some sampleMishap) w with
  | mk outcome w' =>
    rw [hmade] at hsome
    cases outcome with
    | error failure => cases hsome
    | ok map =>
      obtain ⟨documents, times, time, -, -, -, -, hheld |
        ⟨-, all, bytes, saved, -, -, hpack, hsaves, -⟩⟩ := create_eq_ok htree hpath hclean hmade
      · obtain ⟨⟨bytes, cache, hread, -⟩, -⟩ := hheld
        rw [hread] at hmissing
        cases hmissing
      · exact ⟨htree, hpath, rfl, map, w', time, bytes, saved, rfl, hpack, hsaves⟩

end Nullability.Baseline
