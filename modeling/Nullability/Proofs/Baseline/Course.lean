import Nullability.Proofs.Baseline.Afresh

/-!
# How the baseline is made

The courses that making the baseline can take (`Baseline.Course`), for any way of writing the cache
file that fails for reasons of the file system at most: the scan fails or finds nothing, the times
cannot be told, the cache file cannot be read for an unusual reason, its cache is used, or the
documents are merged and, unless that fails, the cache file is written.
-/

namespace Nullability.Baseline

variable {b : Baseline} {write : AnnotationCache → Job Unit} {w : Workspace}

/-- Whether what is in the cache file cannot be used for documents of some time. -/
def IsOutdated (b : Baseline) (tree : FileTree) (time : Int) : Prop :=
  ∀ cache, b.usable tree = .ok (some cache) → cache.isStale time = true

/-- The course that making the baseline takes, with its outcome and the workspace in the end. -/
inductive Course (b : Baseline) (write : AnnotationCache → Job Unit) (w : Workspace) :
    Except Failure AnnotationMap → Workspace → Prop where
  /-- The folders cannot be scanned. -/
  | unscanned {failure : Failure} {w' : Workspace} (h : b.discovered w.tree = .error failure)
    (hleads : w.Leads w') (hdocuments : w'.documents = w.documents) :
    Course b write w (.error failure) w'
  /-- No document is found. -/
  | missing {w' : Workspace} (h : b.discovered w.tree = .ok [])
    (hleads : w.Leads w') (hdocuments : w'.documents = w.documents) :
    Course b write w (.error (.fault (.documentsMissing b.patterns))) w'
  /-- The time of a document cannot be told. -/
  | untimed {documents : List Path} {failure : Failure} {w' : Workspace}
    (h : b.discovered w.tree = .ok documents) (hne : documents ≠ [])
    (htime : newest w.tree documents = .error failure)
    (hleads : w.Leads w') (hdocuments : w'.documents = w.documents) :
    Course b write w (.error failure) w'
  /-- The cache file cannot be read. -/
  | unread {documents : List Path} {time : Int} {failure : Failure} {w' : Workspace}
    (h : b.discovered w.tree = .ok documents) (htime : newest w.tree documents = .ok time)
    (husable : b.usable w.tree = .error failure)
    (hleads : w.Leads w') (hdocuments : w'.documents = w.documents) :
    Course b write w (.error failure) w'
  /-- The cache is used. -/
  | reused {documents : List Path} {time : Int} {cache : AnnotationCache} {w' : Workspace}
    (h : b.discovered w.tree = .ok documents) (hne : documents ≠ [])
    (htime : newest w.tree documents = .ok time)
    (husable : b.usable w.tree = .ok (some cache)) (hfresh : cache.isStale time = false)
    (hleads : w.Leads w') (hdocuments : w'.documents = w.documents) :
    Course b write w (.ok cache.map) w'
  /-- The documents cannot be merged. -/
  | unmerged {documents : List Path} {time : Int} {failure : Failure} {w' : Workspace}
    (h : b.discovered w.tree = .ok documents) (hne : documents ≠ [])
    (htime : newest w.tree documents = .ok time) (houtdated : b.IsOutdated w.tree time)
    (hmerged : b.merged w.tree documents = .error failure) (hleads : w.Leads w') :
    Course b write w (.error failure) w'
  /-- The documents are merged, and the cache file is written. -/
  | rebuilt {documents : List Path} {time : Int} {map : AnnotationMap} {outcome : Except Failure Unit}
    {between w' : Workspace} (h : b.discovered w.tree = .ok documents) (hne : documents ≠ [])
    (htime : newest w.tree documents = .ok time) (houtdated : b.IsOutdated w.tree time)
    (hmerged : b.merged w.tree documents = .ok map) (hbetween : w.Leads between)
    (hwrite : write ⟨.time time, map⟩ between = (outcome, { between with tree := w'.tree }))
    (hevents : between.events <+: w'.events)
    (hunsaved : ∀ failure, outcome = .error failure → b.ReportsUnsaved w w') :
    Course b write w (.ok map) w'

/-- Whether writing the cache of the documents fails for reasons of the file system at most. -/
def Writes (b : Baseline) (write : AnnotationCache → Job Unit) (w : Workspace) : Prop :=
  ∀ documents time map, b.discovered w.tree = .ok documents → newest w.tree documents = .ok time →
    b.merged w.tree documents = .ok map → ∀ between, w.Leads between → ∃ outcome written,
      write ⟨.time time, map⟩ between = (outcome, { between with tree := written }) ∧
        ∀ failure, outcome = .error failure → failure.isFileSystem = true

/-- What was reported since some moment was reported since an earlier one. -/
lemma ReportsUnsaved.of_leads {between w' : Workspace} (h : b.ReportsUnsaved between w')
    (hleads : w.Leads between) : b.ReportsUnsaved w w' := by
  have hdrop : w'.events.drop between.events.length =
      (w'.events.drop w.events.length).drop (between.events.length - w.events.length) := by
    rw [List.drop_drop, Nat.add_sub_cancel' hleads.events.length_le]
  rw [ReportsUnsaved, hdrop] at h
  exact List.mem_of_mem_drop h

/-- Where documents are found, all depends on the cache file: it cannot be read, or it is outdated, or
its cache is used. -/
lemma obtainWith_cases {documents : List Path} {time : Int} (write : AnnotationCache → Job Unit)
    (h : b.discovered w.tree = .ok documents) (hne : documents ≠ [])
    (htime : newest w.tree documents = .ok time) :
    ∃ between, w.Leads between ∧ between.documents = w.documents ∧
      ((∃ failure, b.usable w.tree = .error failure ∧
          b.obtainWith write w = (.error failure, between)) ∨
        (∃ found, b.usable w.tree = .ok found ∧ b.IsOutdated w.tree time ∧
          b.obtainWith write w = b.rebuildWith write documents time between) ∨
        ∃ cache, b.usable w.tree = .ok (some cache) ∧ cache.isStale time = false ∧
          b.obtainWith write w =
            (.ok cache.map, between.report (reused b.cachePath cache.map.size))) := by
  obtain ⟨scanned, hscan, hleads, hdocuments⟩ := findDocuments_eq b w
  obtain ⟨read, hread, hleads', hdocuments'⟩ := cached?_eq b scanned
  refine ⟨read, hleads.trans hleads', hdocuments'.trans hdocuments, ?_⟩
  rw [h] at hscan
  rw [hleads.tree] at hread
  have hnonempty : ¬documents.isEmpty = true := by simpa using hne
  -- The scan and the times are behind; what is left depends on the cache file.
  have hinspect : Job.inspect (fun tree => newest tree documents) scanned = (.ok time, scanned) := by
    rw [Job.inspect, hleads.tree, htime]
  rw [obtainWith, Job.bind_of_ok hscan, if_neg hnonempty, Job.bind_of_ok hinspect]
  cases husable : b.usable w.tree with
  | error failure =>
    rw [husable] at hread
    exact .inl ⟨failure, rfl, Job.bind_of_error hread⟩
  | ok found =>
    rw [husable] at hread
    rw [Job.bind_of_ok hread]
    cases found with
    | none =>
      refine .inr (.inl ⟨none, rfl, ?_, rfl⟩)
      intro cache hcache
      rw [husable] at hcache
      cases hcache
    | some cache =>
      cases hstale : cache.isStale time with
      | true =>
        refine .inr (.inl ⟨some cache, rfl, ?_, ?_⟩)
        · intro cache' hcache'
          rw [husable] at hcache'
          cases hcache'
          exact hstale
        · simp only [hstale, if_true]
      | false =>
        refine .inr (.inr ⟨cache, rfl, hstale, ?_⟩)
        simp only [hstale, Bool.false_eq_true, if_false]
        rfl

lemma rebuildWith_course {documents : List Path} {time : Int} {between : Workspace}
    (hwrites : b.Writes write w) (h : b.discovered w.tree = .ok documents) (hne : documents ≠ [])
    (htime : newest w.tree documents = .ok time) (houtdated : b.IsOutdated w.tree time)
    (hleads : w.Leads between) :
    Course b write w (b.rebuildWith write documents time between).1
      (b.rebuildWith write documents time between).2 := by
  obtain ⟨rebuilt, hrebuild, hleads'⟩ := rebuild_eq b documents time between
  rw [hleads.tree] at hrebuild
  rw [rebuildWith]
  cases hmerged : b.merged w.tree documents with
  | error failure =>
    rw [hmerged] at hrebuild
    rw [Job.bind_of_error hrebuild]
    exact .unmerged h hne htime houtdated hmerged (hleads.trans hleads')
  | ok map =>
    rw [hmerged] at hrebuild
    rw [Job.bind_of_ok hrebuild]
    obtain ⟨outcome, written, hwrite, hfailed⟩ :=
      hwrites documents time map h htime hmerged rebuilt (hleads.trans hleads')
    obtain ⟨w', hsave, htree, hevents, hunsaved⟩ := saveWith_eq b rebuilt hwrite hfailed
    rw [Job.bind_of_ok hsave]
    have hwrite' : write ⟨.time time, map⟩ rebuilt =
        (outcome, { rebuilt with tree := w'.tree }) := by
      rw [hwrite, htree]
    exact .rebuilt h hne htime houtdated hmerged (hleads.trans hleads') hwrite' hevents
      fun failure hfailure => (hunsaved failure hfailure).of_leads (hleads.trans hleads')

lemma obtainWith_course (hwrites : b.Writes write w) :
    Course b write w (b.obtainWith write w).1 (b.obtainWith write w).2 := by
  obtain ⟨scanned, hscan, hleads, hdocuments⟩ := findDocuments_eq b w
  cases h : b.discovered w.tree with
  | error failure =>
    rw [h] at hscan
    rw [obtainWith, Job.bind_of_error hscan]
    exact .unscanned h hleads hdocuments
  | ok documents =>
    rw [h] at hscan
    by_cases hempty : documents = []
    · subst hempty
      rw [obtainWith, Job.bind_of_ok hscan]
      exact .missing h hleads hdocuments
    · cases htime : newest w.tree documents with
      | error failure =>
        have hnonempty : ¬documents.isEmpty = true := by simpa using hempty
        have hinspect : Job.inspect (fun tree => newest tree documents) scanned =
            (.error failure, scanned) := by
          rw [Job.inspect, hleads.tree, htime]
        rw [obtainWith, Job.bind_of_ok hscan, if_neg hnonempty, Job.bind_of_error hinspect]
        exact .untimed h hempty htime hleads hdocuments
      | ok time =>
        obtain ⟨read, hread, hdocuments', hcases⟩ := obtainWith_cases write h hempty htime
        rcases hcases with ⟨failure, husable, hobtain⟩ | ⟨found, -, houtdated, hobtain⟩ |
          ⟨cache, husable, hfresh, hobtain⟩
        · rw [hobtain]
          exact .unread h htime husable hread hdocuments'
        · rw [hobtain]
          exact rebuildWith_course hwrites h hempty htime houtdated hread
        · rw [hobtain]
          exact .reused h hempty htime husable hfresh (hread.report _) hdocuments'

end Nullability.Baseline
