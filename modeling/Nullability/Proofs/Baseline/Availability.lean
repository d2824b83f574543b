import Nullability.Proofs.Baseline.History

/-!
# When the cache file decides

The cache file is there to save work: whatever is wrong with it, the baseline should be made from the
documents. That is so with four exceptions (`Baseline.exists_create_iff`). If the system does not tell
whether the cache file is there, that is passed on. A cache file with a list or a map as the key of a
map is not counted as damaged, and the failure of reading it is passed on. And if the cache of the
documents has to be saved, it is passed on that it cannot be packed, because a time or a length does
not fit the format, or that there is a null character in the path, though the map is there.
-/

namespace Nullability.Baseline

open FileTree Outcome

variable {b : Baseline} {w : Workspace} {tree : FileTree} {documents : List Path} {time : Int}
  {map : AnnotationMap}

/-! ## Reading the cache file -/

/-- Whether the cache file is one with a bad key. -/
def HasBadKey (b : Baseline) (tree : FileTree) : Prop :=
  ∃ bytes, tree.read b.cachePath = .ok bytes ∧ AnnotationCache.HasBadKey bytes

lemma isTolerable_of_isDamagedCache {failure : Failure} (h : failure.isDamagedCache = true) :
    isTolerable failure = true := by
  unfold Failure.isDamagedCache at h
  split at h
  · rfl
  · rfl
  · cases h

lemma isTolerable_of_isFileSystem {failure : Failure} (h : failure.isFileSystem = true) :
    isTolerable failure = true := by
  unfold isTolerable
  split
  · rfl
  · rfl
  · exact h

lemma counted_eq_error {read : Except Failure AnnotationCache} {failure : Failure} :
    counted read = .error failure ↔ read = .error failure ∧ isTolerable failure = false := by
  cases read with
  | ok cache => simp [counted]
  | error reason =>
    change (if isTolerable reason then Except.ok none else .error reason) = _ ↔ _
    split_ifs with htolerable
    · constructor
      · intro h
        cases h
      · rintro ⟨h, hfailure⟩
        rw [← Except.error.inj h, htolerable] at hfailure
        cases hfailure
    · constructor
      · intro h
        obtain rfl := Except.error.inj h
        exact ⟨rfl, Bool.eq_false_of_not_eq_true htolerable⟩
      · rintro ⟨h, -⟩
        rw [Except.error.inj h]

/-- A file is read, or it is not for a reason of the file system, or it cannot be unpacked. -/
lemma load_eq_error {failure : Failure} (hisFile : tree.isFile b.cachePath = true)
    (h : AnnotationCache.load tree b.cachePath = .error failure) :
    isTolerable failure = true ∨ failure = .badType ∧ b.HasBadKey tree := by
  obtain hread | ⟨bytes, hread, hunpack⟩ := Outcome.bind_eq_error.1 h
  · obtain ⟨place, content, hresolve, -⟩ := exists_contentAt_of_isFile hisFile
    have hstops : Stops b.cachePath failure := stops_of_file (Outcome.map_eq_error.1 hread)
    exact .inl (isTolerable_of_isFileSystem (hstops.isFileSystem (hasNull_of_resolve hresolve)))
  · obtain hdamaged | hbad := AnnotationCache.isDamagedCache_or_hasBadKey hunpack
    · exact .inl (isTolerable_of_isDamagedCache hdamaged)
    · rw [AnnotationCache.unpack_of_hasBadKey hbad] at hunpack
      exact .inr ⟨(Except.error.inj hunpack).symm, bytes, hread, hbad⟩

/-- Why the cache file can be neither read nor given up: the system does not tell whether it is there,
or it has a bad key. -/
lemma usable_eq_error {failure : Failure} : b.usable tree = .error failure ↔
    (∃ denial, tree.denial? b.cachePath = some denial ∧ failure = denial.failure) ∨
      tree.denial? b.cachePath = none ∧ failure = .badType ∧ b.HasBadKey tree := by
  cases hdenial : tree.denial? b.cachePath with
  | some denial =>
    rw [usable_of_denial hdenial]
    simp [eq_comm]
  | none =>
    rw [usable_eq hdenial]
    simp only [reduceCtorEq, false_and, exists_false, false_or, true_and]
    constructor
    · intro h
      split_ifs at h with hisFile
      obtain ⟨hload, htolerable⟩ := counted_eq_error.1 h
      obtain htolerable' | hbad := load_eq_error hisFile hload
      · rw [htolerable] at htolerable'
        cases htolerable'
      · exact hbad
    · rintro ⟨rfl, bytes, hread, hbad⟩
      have hload : AnnotationCache.load tree b.cachePath = .error .badType :=
        Outcome.bind_eq_error.2 (.inr ⟨bytes, hread, AnnotationCache.unpack_of_hasBadKey hbad _⟩)
      rw [if_pos (isFile_of_read hread)]
      exact counted_eq_error.2 ⟨hload, rfl⟩

/-- The cache file is no reason to fail if the system tells whether it is there, and it has no bad
key. -/
lemma exists_usable_iff : (∃ found, b.usable tree = .ok found) ↔
    tree.denial? b.cachePath = none ∧ ¬ b.HasBadKey tree := by
  constructor
  · rintro ⟨found, h⟩
    have hnone : ∀ failure, b.usable tree ≠ .error failure := by
      intro failure hfailure
      rw [h] at hfailure
      cases hfailure
    have htold : tree.denial? b.cachePath = none := by
      rw [Option.eq_none_iff_forall_ne_some]
      exact fun denial hdenial => hnone _ (usable_of_denial hdenial)
    exact ⟨htold, fun hbad => hnone _ (usable_eq_error.2 (.inr ⟨htold, rfl, hbad⟩))⟩
  · rintro ⟨htold, hkeys⟩
    cases h : b.usable tree with
    | ok found => exact ⟨found, rfl⟩
    | error failure =>
      obtain ⟨denial, hdenial, -⟩ | ⟨-, -, hbad⟩ := usable_eq_error.1 h
      · rw [htold] at hdenial
        cases hdenial
      · exact absurd hbad hkeys

lemma told_of_usable {found : Option AnnotationCache} (h : b.usable tree = .ok found) :
    tree.denial? b.cachePath = none :=
  (exists_usable_iff.1 ⟨found, h⟩).1

lemma counted_eq_some {read : Except Failure AnnotationCache} {cache : AnnotationCache} :
    counted read = .ok (some cache) ↔ read = .ok cache ∧ cache.map.isEmpty = false := by
  cases read with
  | error reason =>
    change (if isTolerable reason then Except.ok none else .error reason) = _ ↔ _
    split_ifs
    · simp
    · simp
  | ok found =>
    change Except.ok (if found.map.isEmpty then none else some found) = _ ↔ _
    split_ifs with hempty
    · constructor
      · intro h
        cases h
      · rintro ⟨h, hcache⟩
        rw [← Except.ok.inj h, hempty] at hcache
        cases hcache
    · constructor
      · intro h
        obtain rfl := Option.some.inj (Except.ok.inj h)
        exact ⟨rfl, Bool.eq_false_of_not_eq_true hempty⟩
      · rintro ⟨h, -⟩
        rw [Except.ok.inj h]

/-- A cache can be used if the system tells of its file, it can be read and is not empty. -/
lemma usable_eq_some_iff {cache : AnnotationCache} : b.usable tree = .ok (some cache) ↔
    tree.denial? b.cachePath = none ∧ AnnotationCache.load tree b.cachePath = .ok cache ∧
      cache.map.isEmpty = false := by
  cases hdenial : tree.denial? b.cachePath with
  | some denial =>
    rw [usable_of_denial hdenial]
    simp
  | none =>
    rw [usable_eq hdenial]
    constructor
    · intro h
      split_ifs at h
      · exact ⟨rfl, counted_eq_some.1 h⟩
      · cases h
    · rintro ⟨-, hload, hempty⟩
      obtain ⟨bytes, hread, -⟩ := Outcome.bind_eq_ok.1 hload
      rw [if_pos (isFile_of_read hread)]
      exact counted_eq_some.2 ⟨hload, hempty⟩

/-! ## Writing the cache file -/

lemma exists_file_of_mergeDocuments {m all : AnnotationMap}
    (h : mergeDocuments tree documents m = .ok all) :
    ∀ document ∈ documents, ∃ modified, (tree.file document).map Prod.snd = .ok modified := by
  induction documents generalizing m with
  | nil =>
    intro document hmem
    cases hmem
  | cons first rest ih =>
    obtain ⟨content, hread, h⟩ := Outcome.bind_eq_ok.1 h
    obtain ⟨loaded, -, h⟩ := Outcome.bind_eq_ok.1 h
    intro document hmem
    rcases List.mem_cons.1 hmem with rfl | hrest
    · obtain ⟨⟨_, modified⟩, hfile, -⟩ := Outcome.map_eq_ok.1 hread
      exact ⟨modified, Outcome.map_eq_ok.2 ⟨_, hfile, rfl⟩⟩
    · exact ih h document hrest

lemma exists_newest_of_merged (hne : documents ≠ []) (h : b.merged tree documents = .ok map) :
    ∃ time, newest tree documents = .ok time := by
  obtain ⟨all, hall, -⟩ := Outcome.bind_eq_ok.1 h
  exact exists_newest_of_times hne (exists_file_of_mergeDocuments hall)

/-- Whether saving a cache can be tried and given up: it can be packed, and if there is a null
character in the path of the cache file, that is not noticed, since making the folder of the file
fails before. -/
structure CanSave (b : Baseline) (tree : FileTree) (cache : AnnotationCache) : Prop where
  packs : ∃ bytes, cache.pack = .ok bytes
  stops : b.cachePath.hasNull = true → ∃ failure,
    tree.makeFolders b.cachePath.parent = .error failure ∧ failure.isFileSystem = true

/-- A cache that can be packed is written, unless the file system does not allow it, or there is a null
character in the path. -/
lemma exists_writeCache {path : Path} {cache : AnnotationCache} {bytes : List UInt8}
    (hpack : cache.pack = .ok bytes) (w : Workspace) :
    ∃ outcome written, writeCache path cache w = (outcome, { w with tree := written }) ∧
      (path.hasNull = false → ∀ failure, outcome = .error failure → failure.isFileSystem = true) ∧
      (path.hasNull = true → outcome = match w.tree.makeFolders path.parent with
        | .error failure => .error failure
        | .ok _ => .error .badValue) := by
  let finished := (CacheWriter.arriving w.tree path bytes w.now).run w.tree
  refine ⟨finished.1.outcome, finished.2, ?_, ?_, ?_⟩
  · rw [writeCache, store_eq hpack]
  · exact fun hnull failure => CacheWriter.isFileSystem_of_run hnull
  · exact fun hnull => CacheWriter.run_of_hasNull hnull bytes w.now w.tree

/-- A cache that cannot be packed cannot be written, for no reason of the file system. -/
lemma exists_writeCache_error {path : Path} {cache : AnnotationCache}
    (hpack : ¬ ∃ bytes, cache.pack = .ok bytes) (w : Workspace) :
    ∃ failure, writeCache path cache w = (.error failure, w) ∧ failure.isFileSystem = false := by
  have hbytes : ∃ failure, cache.toBytes = .error failure ∧ failure.isFileSystem = false := by
    rw [AnnotationCache.toBytes]
    cases h : cache.pack with
    | ok bytes => exact absurd ⟨bytes, h⟩ hpack
    | error fault =>
      cases fault with
      | integerTooLarge => exact ⟨_, rfl, rfl⟩
      | tooLong => exact ⟨_, rfl, rfl⟩
  obtain ⟨failure, hbytes, hreason⟩ := hbytes
  refine ⟨failure, ?_, hreason⟩
  rw [writeCache, AnnotationCache.store, hbytes]

lemma IsOpen.canSave {cache : AnnotationCache} (h : b.IsOpen tree) (hfits : cache.Fits) :
    b.CanSave tree cache := by
  refine ⟨AnnotationCache.exists_pack hfits, fun hnull => ?_⟩
  rw [h.noNull] at hnull
  cases hnull

/-- A cache can be saved or given up if that fails for reasons of the file system at most. -/
lemma exists_writeCache_of_canSave {cache : AnnotationCache} {w : Workspace}
    (h : b.CanSave w.tree cache) :
    ∃ outcome written, writeCache b.cachePath cache w = (outcome, { w with tree := written }) ∧
      ∀ failure, outcome = .error failure → failure.isFileSystem = true := by
  obtain ⟨bytes, hbytes⟩ := h.packs
  obtain ⟨outcome, written, hwrite, hreason, hbarred⟩ := exists_writeCache hbytes w
  refine ⟨outcome, written, hwrite, ?_⟩
  cases hnull : b.cachePath.hasNull with
  | false => exact hreason hnull
  | true =>
    obtain ⟨failure, hmake, hfailure⟩ := h.stops hnull
    rw [hbarred hnull, hmake]
    exact fun other hother => Except.error.inj hother ▸ hfailure

/-- Otherwise it fails for another reason. -/
lemma exists_writeCache_of_not_canSave {cache : AnnotationCache} {w : Workspace}
    (h : ¬ b.CanSave w.tree cache) :
    ∃ failure written, writeCache b.cachePath cache w =
      (.error failure, { w with tree := written }) ∧ failure.isFileSystem = false := by
  by_cases hpack : ∃ bytes, cache.pack = .ok bytes
  · obtain ⟨bytes, hbytes⟩ := hpack
    obtain ⟨outcome, written, hwrite, -, hbarred⟩ := exists_writeCache hbytes w
    have hnull : b.cachePath.hasNull = true := by
      by_contra hnull
      exact h ⟨⟨bytes, hbytes⟩, fun e => absurd e hnull⟩
    rw [hbarred hnull] at hwrite
    cases hmake : w.tree.makeFolders b.cachePath.parent with
    | error failure =>
      rw [hmake] at hwrite
      refine ⟨failure, written, hwrite, Bool.eq_false_iff.2 fun hreason => ?_⟩
      exact h ⟨⟨bytes, hbytes⟩, fun _ => ⟨failure, hmake, hreason⟩⟩
    | ok made =>
      rw [hmake] at hwrite
      exact ⟨.badValue, written, hwrite, rfl⟩
  · obtain ⟨failure, hwrite, hreason⟩ := exists_writeCache_error hpack w
    exact ⟨failure, w.tree, hwrite, hreason⟩

/-- Whether the map that was merged is handed out depends on whether its cache can be saved or given
up. -/
lemma rebuildWith_eq_ok_iff {between : Workspace}
    (hmerged : b.merged between.tree documents = .ok map) {made : AnnotationMap} :
    (b.rebuildWith (writeCache b.cachePath) documents time between).1 = .ok made ↔
      made = map ∧ b.CanSave between.tree ⟨.time time, map⟩ := by
  obtain ⟨rebuilt, hrebuild, hleads⟩ := rebuild_eq b documents time between
  rw [hmerged] at hrebuild
  rw [rebuildWith, Job.bind_of_ok hrebuild, ← hleads.tree]
  -- Only a failure of the file system is taken for a cache that could not be saved.
  by_cases hsaves : b.CanSave rebuilt.tree ⟨.time time, map⟩
  · obtain ⟨outcome, written, hwrite, hreason⟩ := exists_writeCache_of_canSave hsaves
    obtain ⟨w', hsave, -⟩ := saveWith_eq b rebuilt hwrite hreason
    rw [Job.bind_of_ok hsave]
    constructor
    · intro h
      exact ⟨(Except.ok.inj h).symm, hsaves⟩
    · rintro ⟨rfl, -⟩
      rfl
  · obtain ⟨failure, written, hwrite, hreason⟩ := exists_writeCache_of_not_canSave hsaves
    obtain ⟨w', hsave, -⟩ := saveWith_eq_error b hwrite hreason
    rw [Job.bind_of_error hsave]
    constructor
    · intro h
      cases h
    · rintro ⟨-, h⟩
      exact absurd h hsaves

/-! ## Making the baseline -/

lemma create_eq_ok_iff : (b.create w).1 = .ok map ↔
    (b.obtainWith (writeCache b.cachePath) w).1 = .ok map := by
  rw [create, createWith]
  cases hobtain : b.obtainWith (writeCache b.cachePath) w with
  | mk outcome w' =>
    cases outcome with
    | error failure =>
      constructor
      · intro h
        cases h
      · intro h
        cases h
    | ok made => exact Iff.rfl

/-- Whether there is a baseline depends on whether the system tells of the cache file, on the keys in
it, and on whether the cache of the documents can be saved or given up if that has to be tried. -/
lemma exists_create_iff_of_newest (hdiscovered : b.discovered w.tree = .ok documents)
    (hne : documents ≠ []) (htime : newest w.tree documents = .ok time)
    (hmerged : b.merged w.tree documents = .ok map) :
    (∃ made, (b.create w).1 = .ok made ∧ made.isEmpty = false) ↔
      w.tree.denial? b.cachePath = none ∧ ¬ b.HasBadKey w.tree ∧
        (b.IsOutdated w.tree time → b.CanSave w.tree ⟨.time time, map⟩) := by
  obtain ⟨between, hleads, -, hcases⟩ :=
    obtainWith_cases (writeCache b.cachePath) hdiscovered hne htime
  simp only [create_eq_ok_iff]
  rw [← and_assoc, ← exists_usable_iff]
  rcases hcases with ⟨failure, husable, hobtain⟩ | ⟨found, husable, houtdated, hobtain⟩ |
    ⟨cache, husable, hfresh, hobtain⟩
  · rw [hobtain, husable]
    constructor
    · rintro ⟨made, hmade, -⟩
      cases hmade
    · rintro ⟨⟨found, hfound⟩, -⟩
      cases hfound
  · rw [hobtain]
    have hempty : map.isEmpty = false := isEmpty_of_merged hmerged
    rw [← hleads.tree] at hmerged ⊢
    simp only [rebuildWith_eq_ok_iff hmerged]
    rw [hleads.tree]
    constructor
    · rintro ⟨made, ⟨-, hsaves⟩, -⟩
      exact ⟨⟨found, husable⟩, fun _ => hsaves⟩
    · rintro ⟨-, hsaves⟩
      exact ⟨map, ⟨rfl, hsaves houtdated⟩, hempty⟩
  · rw [hobtain]
    constructor
    · rintro -
      refine ⟨⟨some cache, husable⟩, fun houtdated => ?_⟩
      have hstale := houtdated cache husable
      rw [hfresh] at hstale
      cases hstale
    · rintro -
      exact ⟨cache.map, rfl, (usable_eq_some_iff.1 husable).2.2⟩

/-- Where documents are found and can be merged into a map that is not empty, there is a baseline,
just unless the system does not tell whether the cache file is there, or the cache file has a bad key,
or the documents have to be merged and their cache can be neither saved nor given up. -/
theorem exists_create_iff (hdiscovered : b.discovered w.tree = .ok documents)
    (hne : documents ≠ []) (hmerged : b.merged w.tree documents = .ok map) :
    ∃ time, newest w.tree documents = .ok time ∧
      ((∃ made, (b.create w).1 = .ok made ∧ made.isEmpty = false) ↔
        w.tree.denial? b.cachePath = none ∧ ¬ b.HasBadKey w.tree ∧
          (b.IsOutdated w.tree time → b.CanSave w.tree ⟨.time time, map⟩)) := by
  obtain ⟨time, htime⟩ := exists_newest_of_merged hne hmerged
  exact ⟨time, htime, exists_create_iff_of_newest hdiscovered hne htime hmerged⟩

/-- A workspace with one document and a cache file. -/
def cachedWorkspace (cacheFile : List UInt8) : Workspace :=
  let w := sampleWorkspace (some (samplePath "sys"))
  { w with tree :=
      (install w.tree (.ofText "cache/annotations.cache") cacheFile 1).toOption.getD w.tree }

/-- The document is found and read, whatever the cache file is, and the cache file is as well. -/
lemma cachedWorkspace_facts (cacheFile : List UInt8)
    (h : let w := cachedWorkspace cacheFile
      let document := Path.ofText (samplePath "sys")
      (install (sampleWorkspace (some (samplePath "sys"))).tree (.ofText "cache/annotations.cache")
        cacheFile 1).toOption.isSome = true ∧
      ((sampleBaseline "sys").discovered w.tree).toOption = some [document] ∧
      (newest w.tree [document]).toOption = some 1 ∧
      (w.tree.read document).toOption = some (sampleDocument "A")) :
    let b := sampleBaseline "sys"
    let w := cachedWorkspace cacheFile
    let documents := [Path.ofText (samplePath "sys")]
    b.discovered w.tree = .ok documents ∧ newest w.tree documents = .ok 1 ∧
      b.merged w.tree documents = .ok (sampleMap ["A"]) ∧
      w.tree.read b.cachePath = .ok cacheFile := by
  obtain ⟨hinstall, hdiscovered, hnewest, hread⟩ := h
  have htree : (sampleWorkspace (some (samplePath "sys"))).tree.WellFormed := by decide +kernel
  obtain ⟨after, hafter⟩ := Option.isSome_iff_exists.1 hinstall
  have hcached : (cachedWorkspace cacheFile).tree = after := by
    rw [cachedWorkspace, hafter]
    rfl
  refine ⟨eq_ok_of_toOption hdiscovered, eq_ok_of_toOption hnewest, ?_, ?_⟩
  · exact merged_of_sampleDocument (eq_ok_of_toOption hread)
  · rw [hcached]
    exact read_of_install htree (Path.proper_ofText _) (eq_ok_of_toOption hafter)

/-- A cache file that is too short is given up. -/
theorem exists_create_iff_sample :
    let w := cachedWorkspace [1, 2, 3]
    (sampleBaseline "sys").discovered w.tree = .ok [.ofText (samplePath "sys")] ∧
      ∃ made, ((sampleBaseline "sys").create w).1 = .ok made ∧ made.isEmpty = false := by
  intro w
  obtain ⟨hdiscovered, hnewest, hmerged, hread⟩ :=
    cachedWorkspace_facts [1, 2, 3] (by decide +kernel)
  have hfits : (⟨.time 1, sampleMap ["A"]⟩ : AnnotationCache).Fits := by decide +kernel
  obtain ⟨time, htime, hcreate⟩ := exists_create_iff hdiscovered (by decide) hmerged
  obtain rfl : 1 = time := Except.ok.inj (hnewest.symm.trans htime)
  have hopen : (sampleBaseline "sys").IsOpen w.tree := by decide +kernel
  refine ⟨hdiscovered, hcreate.2 ⟨hopen.told, ?_, fun _ => hopen.canSave hfits⟩⟩
  rintro ⟨found, hfound, content, hcontent, -⟩
  obtain rfl := Except.ok.inj (hread.symm.trans hfound)
  cases hcontent

/-- A content with a list as the key of a map, behind a header that is in order. -/
def badKeyFile : List UInt8 :=
  AnnotationCache.enclose [0x81, 0x90, 0xc0]

lemma hasBadKey_badKeyFile : AnnotationCache.HasBadKey badKeyFile := by
  have hunpack : AnnotationCache.unpack "" badKeyFile = .error .badType := by
    have hlength : ([0x81, 0x90, 0xc0] : List UInt8).length < 0x100000000 := by decide
    have hread : Cache.Message.read [0x81, 0x90, 0xc0] = .error .badKey := by cbv
    have hcontent := AnnotationCache.unpack_enclose_append hlength "" []
    rwa [List.append_nil, AnnotationCache.ofContent, hread] at hcontent
  obtain hdamaged | hbad := AnnotationCache.isDamagedCache_or_hasBadKey hunpack
  · cases hdamaged
  · exact hbad

/-- With this cache file there is no baseline, though the documents can be merged. -/
theorem not_exists_create_of_badKeyFile :
    ¬ ∀ (b : Baseline) (w : Workspace) (documents : List Path) (map : AnnotationMap),
      b.discovered w.tree = .ok documents → documents ≠ [] →
      b.merged w.tree documents = .ok map →
        ∃ made, (b.create w).1 = .ok made ∧ made.isEmpty = false := by
  intro hclaim
  obtain ⟨hdiscovered, hnewest, hmerged, hread⟩ :=
    cachedWorkspace_facts badKeyFile (by decide +kernel)
  have hmade := hclaim _ _ _ _ hdiscovered (by decide) hmerged
  have hkeys := ((exists_create_iff_of_newest hdiscovered (by decide) hnewest hmerged).1 hmade).2.1
  exact hkeys ⟨badKeyFile, hread, hasBadKey_badKeyFile⟩

/-- So there is a baseline if the cache file can be looked for and has no bad key, and the cache of the
documents fits the format, whatever else is wrong with the cache file and wherever it is. -/
theorem exists_create_of_fits (hdiscovered : b.discovered w.tree = .ok documents)
    (hne : documents ≠ []) (hmerged : b.merged w.tree documents = .ok map) (hopen : b.IsOpen w.tree)
    (hkeys : ¬ b.HasBadKey w.tree) (hfits : b.Fits w.tree) :
    ∃ made, (b.create w).1 = .ok made ∧ made.isEmpty = false := by
  obtain ⟨time, htime⟩ := exists_newest_of_merged hne hmerged
  refine (exists_create_iff_of_newest hdiscovered hne htime hmerged).2
    ⟨hopen.told, hkeys, fun _ => ⟨hfits.exists_pack hdiscovered htime hmerged, fun hnull => ?_⟩⟩
  rw [hopen.noNull] at hnull
  cases hnull

end Nullability.Baseline
