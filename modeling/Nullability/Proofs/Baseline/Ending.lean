import Nullability.Proofs.Baseline.Availability

/-!
# How making the baseline ends

Making the baseline ends with a failure for one of six reasons, and then it has not changed a file
(`Refusal`). Or it ends with the map of the cache file, or with the map of the documents, which is
written to the cache file; or, if there is a null character in the path of the cache file, writing it
fails when folders on the way may be made (`Ending`). Nothing is assumed about the files here, nor
about the save.
-/

namespace Nullability

open FileTree

namespace Baseline

open CacheWriter

variable {b : Baseline} {w w' : Workspace} {tree : FileTree} {documents : List Path} {time : Int}
  {map : AnnotationMap} {cache : AnnotationCache} {mishap : Option Mishap} {failure : Failure}
  {outcome : Except Failure AnnotationMap}

/-- Writing a cache to a path with a null character fails when folders on the way may be made. -/
structure IsBarred (path : Path) (before : FileTree) (failure : Failure) (after : FileTree) : Prop where
  hasNull : path.hasNull = true
  failure : failure = .badValue
  folders : before.WellFormed → path.Proper → Grown (way before path) (fun _ => false) before after

/-- The writer fails for a reason of the file system, or it is barred. -/
lemma isFileSystem_or_isBarred {path : Path} {bytes : List UInt8} {now : Int}
    (h : (writerUntil mishap path bytes now tree).1.outcome = .error failure) :
    failure.isFileSystem = true ∨
      IsBarred path tree failure (writerUntil mishap path bytes now tree).2 := by
  cases hnull : path.hasNull with
  | false =>
    cases mishap with
    | none => exact .inl (isFileSystem_of_run hnull h)
    | some mishap => exact .inl (isFileSystem_of_runUntil hnull h)
  | true =>
    cases mishap with
    | none =>
      obtain ⟨hreason, hfolders⟩ := barred_run hnull bytes now tree
      exact (hreason failure h).imp id fun hvalue => ⟨hnull, hvalue, hfolders⟩
    | some mishap =>
      obtain ⟨hreason, hfolders⟩ := barred_runUntil hnull mishap bytes now tree
      exact (hreason failure h).imp id fun hvalue => ⟨hnull, hvalue, hfolders⟩

lemma toBytes_eq_error (h : cache.toBytes = .error failure) :
    failure = .outOfRange ∨ failure = .badValue := by
  rw [AnnotationCache.toBytes] at h
  split at h
  · cases h
  · exact .inl (Except.error.inj h).symm
  · exact .inr (Except.error.inj h).symm

lemma pack_of_toBytes {bytes : List UInt8} (h : cache.toBytes = .ok bytes) :
    cache.pack = .ok bytes := by
  rw [AnnotationCache.toBytes] at h
  split at h
  · rename_i hpack
    rw [hpack, Except.ok.inj h]
  · cases h
  · cases h

/-- What cannot be packed is not written. -/
lemma writeUntil_of_toBytes (h : cache.toBytes = .error failure) (mishap : Option Mishap)
    (path : Path) (w : Workspace) : writeUntil mishap path cache w = (.error failure, w) := by
  cases mishap with
  | none => rw [writeUntil, writeCache, AnnotationCache.store, h]
  | some mishap => rw [writeUntil, h]

/-! ## Reasons to fail -/

/-- Why there is no baseline: the failure that making it ends in. -/
inductive Refusal (b : Baseline) (tree : FileTree) : Failure → Prop
  /-- The folders cannot be scanned. -/
  | unscanned {failure : Failure} (h : b.discovered tree = .error failure) : Refusal b tree failure
  /-- No document is found. -/
  | missing (h : b.discovered tree = .ok []) :
    Refusal b tree (.fault (.documentsMissing b.patterns))
  /-- The time of a document cannot be told. -/
  | untimed {documents : List Path} {failure : Failure} (h : b.discovered tree = .ok documents)
    (hne : documents ≠ []) (htime : newest tree documents = .error failure) :
    Refusal b tree failure
  /-- The cache file cannot be read. -/
  | unread {documents : List Path} {time : Int} {failure : Failure}
    (h : b.discovered tree = .ok documents) (hne : documents ≠ [])
    (htime : newest tree documents = .ok time) (husable : b.usable tree = .error failure) :
    Refusal b tree failure
  /-- The documents cannot be merged. -/
  | unmerged {documents : List Path} {time : Int} {failure : Failure} {found : Option AnnotationCache}
    (h : b.discovered tree = .ok documents) (hne : documents ≠ [])
    (htime : newest tree documents = .ok time) (husable : b.usable tree = .ok found)
    (houtdated : b.IsOutdated tree time) (hmerged : b.merged tree documents = .error failure) :
    Refusal b tree failure
  /-- The cache of the documents cannot be packed. -/
  | unpacked {documents : List Path} {time : Int} {map : AnnotationMap} {failure : Failure}
    (h : b.discovered tree = .ok documents) (hne : documents ≠ [])
    (htime : newest tree documents = .ok time) (hmerged : b.merged tree documents = .ok map)
    (hpack : (⟨.time time, map⟩ : AnnotationCache).toBytes = .error failure) :
    Refusal b tree failure

/-- How making the baseline ends, with its outcome and the workspace in the end. -/
inductive Ending (b : Baseline) (mishap : Option Mishap) (w : Workspace) :
    Except Failure AnnotationMap → Workspace → Prop
  | refused {failure : Failure} {w' : Workspace} (h : b.Refusal w.tree failure)
    (hleads : w.Leads w') : Ending b mishap w (.error failure) w'
  /-- The cache is used. -/
  | reused {documents : List Path} {time : Int} {cache : AnnotationCache} {w' : Workspace}
    (h : b.discovered w.tree = .ok documents) (hne : documents ≠ [])
    (htime : newest w.tree documents = .ok time)
    (husable : b.usable w.tree = .ok (some cache)) (hfresh : cache.isStale time = false)
    (hleads : w.Leads w') (hdocuments : w'.documents = w.documents) :
    Ending b mishap w (.ok cache.map) w'
  /-- The documents are merged, and the cache file is written. -/
  | rebuilt {documents : List Path} {time : Int} {map : AnnotationMap} {bytes : List UInt8}
    {saved : Except Failure Unit} {between w' : Workspace}
    (h : b.discovered w.tree = .ok documents) (hne : documents ≠ [])
    (htime : newest w.tree documents = .ok time) (htold : w.tree.denial? b.cachePath = none)
    (houtdated : b.IsOutdated w.tree time) (hmerged : b.merged w.tree documents = .ok map)
    (hpack : (⟨.time time, map⟩ : AnnotationCache).pack = .ok bytes) (hbetween : w.Leads between)
    (hwrite : writeUntil mishap b.cachePath ⟨.time time, map⟩ between =
      (saved, { between with tree := w'.tree }))
    (hsaved : ∀ failure, saved = .error failure →
      failure.isFileSystem = true ∧ b.ReportsUnsaved w w') :
    Ending b mishap w (.ok map) w'
  /-- The documents are merged, but there is a null character in the path of the cache file. -/
  | barred {documents : List Path} {time : Int} {map : AnnotationMap} {failure : Failure}
    {w' : Workspace} (h : b.discovered w.tree = .ok documents) (hne : documents ≠ [])
    (htime : newest w.tree documents = .ok time) (hmerged : b.merged w.tree documents = .ok map)
    (hbarred : IsBarred b.cachePath w.tree failure w'.tree) : Ending b mishap w (.error failure) w'

/-- Saving the map of the documents ends in one of these ways. -/
lemma ending_of_merged {rebuilt : Workspace} {found : Option AnnotationCache}
    (h : b.discovered w.tree = .ok documents) (hne : documents ≠ [])
    (htime : newest w.tree documents = .ok time) (husable : b.usable w.tree = .ok found)
    (houtdated : b.IsOutdated w.tree time) (hmerged : b.merged w.tree documents = .ok map)
    (hleads : w.Leads rebuilt) :
    let made := (do
      b.saveWith (writeUntil mishap b.cachePath) ⟨.time time, map⟩
      return map : Job AnnotationMap) rebuilt
    Ending b mishap w made.1 made.2 := by
  intro made
  cases hbytes : (⟨.time time, map⟩ : AnnotationCache).toBytes with
  | error failure =>
    -- A cache that cannot be packed is no matter of the file system, so that failure is passed on.
    have hwrite := writeUntil_of_toBytes hbytes mishap b.cachePath rebuilt
    have hreason : failure.isFileSystem = false := by
      obtain rfl | rfl := toBytes_eq_error hbytes
      · rfl
      · rfl
    obtain ⟨saved, hsave, htree, hevents⟩ := saveWith_eq_error b hwrite hreason
    have hmade : made = (.error failure, saved) := Job.bind_of_error hsave
    rw [hmade]
    exact .refused (.unpacked h hne htime hmerged hbytes) (hleads.trans ⟨htree, hevents⟩)
  | ok bytes =>
    have hpack : (⟨.time time, map⟩ : AnnotationCache).pack = .ok bytes := pack_of_toBytes hbytes
    have hwrite := writeUntil_eq hpack mishap b.cachePath rebuilt
    by_cases hreason : ∀ failure,
        (writerUntil mishap b.cachePath bytes rebuilt.now rebuilt.tree).1.outcome = .error failure →
          failure.isFileSystem = true
    · obtain ⟨saved, hsave, htree, -, hunsaved⟩ := saveWith_eq b rebuilt hwrite hreason
      have hmade : made = (.ok map, saved) := Job.bind_of_ok hsave
      rw [← htree] at hwrite
      rw [hmade]
      refine .rebuilt h hne htime (told_of_usable husable) houtdated hmerged hpack hleads hwrite ?_
      intro failure hfailure
      exact ⟨hreason failure hfailure, (hunsaved failure hfailure).of_leads hleads⟩
    · -- What is no failure of the file system is due to the path, and is passed on.
      simp only [not_forall] at hreason
      obtain ⟨failure, hfailure, hreason⟩ := hreason
      have hbarred := (isFileSystem_or_isBarred hfailure).resolve_left hreason
      rw [hfailure] at hwrite
      obtain ⟨saved, hsave, htree, -⟩ :=
        saveWith_eq_error b hwrite (Bool.eq_false_of_not_eq_true hreason)
      have hmade : made = (.error failure, saved) := Job.bind_of_error hsave
      rw [hmade]
      rw [← htree, hleads.tree] at hbarred
      exact .barred h hne htime hmerged hbarred

lemma ending_of_outdated {between : Workspace} {found : Option AnnotationCache}
    (h : b.discovered w.tree = .ok documents) (hne : documents ≠ [])
    (htime : newest w.tree documents = .ok time) (husable : b.usable w.tree = .ok found)
    (houtdated : b.IsOutdated w.tree time) (hleads : w.Leads between) :
    let made := b.rebuildWith (writeUntil mishap b.cachePath) documents time between
    Ending b mishap w made.1 made.2 := by
  intro made
  obtain ⟨rebuilt, hrebuild, hleads'⟩ := rebuild_eq b documents time between
  rw [hleads.tree] at hrebuild
  have hbetween := hleads.trans hleads'
  cases hmerged : b.merged w.tree documents with
  | error failure =>
    rw [hmerged] at hrebuild
    have hmade : made = (.error failure, rebuilt) := Job.bind_of_error hrebuild
    rw [hmade]
    exact .refused (.unmerged h hne htime husable houtdated hmerged) hbetween
  | ok map =>
    rw [hmerged] at hrebuild
    have hmade : made = (do
        b.saveWith (writeUntil mishap b.cachePath) ⟨.time time, map⟩
        return map : Job AnnotationMap) rebuilt :=
      Job.bind_of_ok hrebuild
    rw [hmade]
    exact ending_of_merged h hne htime husable houtdated hmerged hbetween

/-- Making the baseline ends in one of these ways. -/
lemma ending (b : Baseline) (mishap : Option Mishap) (w : Workspace) :
    let made := b.obtainWith (writeUntil mishap b.cachePath) w
    Ending b mishap w made.1 made.2 := by
  intro made
  obtain ⟨scanned, hscan, hleads, hdocuments⟩ := findDocuments_eq b w
  cases h : b.discovered w.tree with
  | error failure =>
    rw [h] at hscan
    have hmade : made = (.error failure, scanned) := Job.bind_of_error hscan
    rw [hmade]
    exact .refused (.unscanned h) hleads
  | ok documents =>
    rw [h] at hscan
    cases documents with
    | nil =>
      have hmade : made = (.error (.fault (.documentsMissing b.patterns)), scanned) :=
        Job.bind_of_ok hscan
      rw [hmade]
      exact .refused (.missing h) hleads
    | cons first rest =>
      have hne : first :: rest ≠ [] := List.cons_ne_nil first rest
      cases htime : newest w.tree (first :: rest) with
      | error failure =>
        have hinspect : Job.inspect (fun tree => newest tree (first :: rest)) scanned =
            (.error failure, scanned) := by
          rw [Job.inspect, hleads.tree, htime]
        have hmade : made = (.error failure, scanned) :=
          (Job.bind_of_ok hscan).trans (Job.bind_of_error hinspect)
        rw [hmade]
        exact .refused (.untimed h hne htime) hleads
      | ok time =>
        obtain ⟨read, hread, hdocuments', hcases⟩ :=
          obtainWith_cases (writeUntil mishap b.cachePath) h hne htime
        obtain ⟨failure, husable, hmade⟩ | ⟨found, husable, houtdated, hmade⟩ |
          ⟨cache, husable, hfresh, hmade⟩ := hcases
        · change made = _ at hmade
          rw [hmade]
          exact .refused (.unread h hne htime husable) hread
        · change made = _ at hmade
          rw [hmade]
          exact ending_of_outdated h hne htime husable houtdated hread
        · change made = _ at hmade
          rw [hmade]
          exact .reused h hne htime husable hfresh (hread.report _) hdocuments'

/-- Without a mishap, this is how the baseline is made. -/
lemma createAt_none (b : Baseline) (w : Workspace) : b.createAt w.now none w = b.create w := rfl

lemma createAt_eq_error {now : Int} (h : b.createAt now mishap w = (.error failure, w')) :
    ∃ inner, b.asFault inner = failure ∧
      b.obtainWith (writeUntil mishap b.cachePath) { w with now := now } = (.error inner, w') := by
  rw [createAt, createWith] at h
  cases hobtain : b.obtainWith (writeUntil mishap b.cachePath) { w with now := now } with
  | mk outcome made =>
    rw [hobtain] at h
    obtain ⟨houtcome, rfl⟩ := Prod.mk.inj h
    cases outcome with
    | error inner => exact ⟨inner, Except.error.inj houtcome, rfl⟩
    | ok map => cases houtcome

lemma createAt_eq_ok {now : Int} (h : b.createAt now mishap w = (.ok map, w')) :
    b.obtainWith (writeUntil mishap b.cachePath) { w with now := now } = (.ok map, w') := by
  rw [createAt, createWith] at h
  cases hobtain : b.obtainWith (writeUntil mishap b.cachePath) { w with now := now } with
  | mk outcome made =>
    rw [hobtain] at h
    obtain ⟨houtcome, rfl⟩ := Prod.mk.inj h
    cases outcome with
    | error inner => cases houtcome
    | ok made => rw [Except.ok.inj houtcome]

end Baseline

end Nullability
