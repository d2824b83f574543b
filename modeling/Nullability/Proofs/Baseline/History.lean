import Nullability.Proofs.Baseline.Saving

/-!
# Histories of the baseline

Documents are added and replaced, the cache file is deleted and damaged, and the baseline is made
again and again (`Step`). As long as new documents are newer than all before them, every tree is
sound, and so the baseline always is the one that is made without a cache file. It takes two
conditions: the cache file can be looked for (`IsStart.isOpen`), and folders that are made for it
must not reveal documents that could not be found before, which happens if a root of the
installations goes through such a folder and back out of it (`IsStart.safe`).
-/

namespace Nullability.Baseline

open FileTree CacheWriter

variable {b : Baseline} {known : List Int} {tree before after : FileTree} {w : Workspace}

/-! ## Steps -/

/-- Something that is done to the files from outside. -/
inductive Edit where
  /-- A document is added, or replaced, at some time. Missing folders are made. -/
  | install (path : String) (content : List UInt8) (modified : Int)
  | deleteCache
  /-- The cache file is cut. -/
  | cutCache (length : Nat) (modified : Int)
  deriving DecidableEq

/-- What happens between two looks at the files: an edit, or the baseline is made at some time. -/
inductive Step where
  | edit (change : Edit)
  | create (now : Int) (mishap : Option Mishap)
  deriving DecidableEq

/-- Writes a file, and makes its folder if it is missing. -/
def install (tree : FileTree) (path : Path) (content : List UInt8) (modified : Int) :
    Except Failure FileTree := do
  (← tree.makeFolders path.parent).write path content modified

/-- The tree after an edit. -/
def Edit.apply (b : Baseline) (tree : FileTree) : Edit → Except Failure FileTree
  | install path content modified => Baseline.install tree (.ofText path) content modified
  | deleteCache => tree.delete b.cachePath
  | cutCache length modified => do
    let content ← tree.read b.cachePath
    tree.write b.cachePath (content.take length) modified

/-- Makes the baseline at some time; saving it may meet with a mishap. -/
def createAt (b : Baseline) (now : Int) (mishap : Option Mishap) : Job AnnotationMap := fun w =>
  b.createWith (writeUntil mishap b.cachePath) { w with now := now }

/-- The workspace after a step. An edit that fails is none. -/
def Step.take (b : Baseline) (w : Workspace) : Step → Workspace
  | .edit change => { w with tree := (change.apply b w.tree).toOption.getD w.tree }
  | .create now mishap => (b.createAt now mishap w).2

/-- The workspace after some steps. -/
def run (b : Baseline) (w : Workspace) (steps : List Step) : Workspace :=
  steps.foldl (Step.take b) w

/-! ## Histories -/

/-- The times of all documents that are found. -/
def times (b : Baseline) (tree : FileTree) : List Int :=
  ((b.discovered tree).toOption.getD []).filterMap fun document =>
    (tree.file document).toOption.map Prod.snd

/-- Whether a path leads to a document, if documents are found, and not to the cache file. -/
def LeadsToDocument (b : Baseline) (tree : FileTree) (path : Path) : Prop :=
  (tree.resolve path).toOption ≠ some (b.cachePlace tree) ∧
    ∀ documents ∈ (b.discovered tree).toOption, ∃ document ∈ documents,
      (tree.resolve document).toOption = (tree.resolve path).toOption

/-- Whether an edit may follow when some times are known: a document has to be newer than all
before it, and a cache file that is deleted or cut short has to be there. -/
def Edit.IsAdmitted (b : Baseline) (known : List Int) (tree : FileTree) : Edit → Prop
  | install path content modified => (∀ time ∈ known, time < modified) ∧
    ∃ after ∈ (Baseline.install tree (.ofText path) content modified).toOption,
      b.LeadsToDocument after (.ofText path)
  | deleteCache => tree.isFile b.cachePath = true
  | cutCache length _ => ∃ content ∈ (tree.read b.cachePath).toOption, length < content.length

/-- Whether a step may follow. A baseline that is made has to fit the format of cache files. -/
def Step.IsAdmitted (b : Baseline) (known : List Int) (tree : FileTree) : Step → Prop
  | .edit change => change.IsAdmitted b known tree
  | .create _ _ => b.Fits tree

/-- Whether steps may follow one after the other, where the cache file is never a document. -/
def AreAdmitted (b : Baseline) : (known : List Int) → Workspace → List Step → Prop
  | _, w, [] => b.KeepsApart w.tree
  | known, w, next :: rest => b.KeepsApart w.tree ∧ next.IsAdmitted b known w.tree ∧
    AreAdmitted b (known ++ b.times (next.take b w).tree) (next.take b w) rest

/-- Where a history starts: without a cache file, which can be looked for, and with roots that retreat
safely. -/
structure IsStart (b : Baseline) (tree : FileTree) : Prop where
  wellFormed : tree.WellFormed
  path : b.cachePath.Proper
  isOpen : b.IsOpen tree
  safe : b.RetreatsSafely tree
  missing : tree.contentAt (b.cachePlace tree) = none

instance (b : Baseline) (tree : FileTree) (path : Path) :
    Decidable (b.LeadsToDocument tree path) :=
  inferInstanceAs (Decidable (_ ∧ ∀ documents ∈ (b.discovered tree).toOption, _))

instance (b : Baseline) (known : List Int) (tree : FileTree) :
    (next : Step) → Decidable (next.IsAdmitted b known tree)
  | .edit (.install path content modified) => inferInstanceAs (Decidable (_ ∧
      ∃ after ∈ (install tree (.ofText path) content modified).toOption, _))
  | .edit .deleteCache => inferInstanceAs (Decidable (_ = true))
  | .edit (.cutCache _ _) =>
    inferInstanceAs (Decidable (∃ content ∈ (tree.read b.cachePath).toOption, _))
  | .create _ _ => inferInstanceAs (Decidable (∀ cache ∈ (b.freshCache tree).toOption, _))

instance decidableAreAdmitted (b : Baseline) : (known : List Int) → (w : Workspace) →
    (steps : List Step) → Decidable (b.AreAdmitted known w steps)
  | _, _, [] => inferInstanceAs (Decidable (b.KeepsApart _))
  | known, w, next :: rest =>
    have := decidableAreAdmitted b (known ++ b.times (next.take b w).tree) (next.take b w) rest
    inferInstanceAs (Decidable (_ ∧ _ ∧ _))

instance (b : Baseline) (tree : FileTree) : Decidable (b.IsStart tree) :=
  decidable_of_iff
    (tree.WellFormed ∧ b.cachePath.Proper ∧ b.IsOpen tree ∧ b.RetreatsSafely tree ∧
      tree.contentAt (b.cachePlace tree) = none)
    ⟨fun ⟨wellFormed, path, isOpen, safe, missing⟩ => ⟨wellFormed, path, isOpen, safe, missing⟩,
      fun ⟨wellFormed, path, isOpen, safe, missing⟩ => ⟨wellFormed, path, isOpen, safe, missing⟩⟩

/-! ## Soundness -/

lemma mem_times {documents : List Path} {time : Int}
    (hdocuments : b.discovered tree = .ok documents) (htime : newest tree documents = .ok time) :
    time ∈ b.times tree := by
  obtain ⟨document, hmem, content, hfile⟩ := mem_of_newest htime
  rw [times, hdocuments]
  refine List.mem_filterMap.2 ⟨document, hmem, ?_⟩
  rw [hfile]
  rfl

lemma Remains.mono {more : List Int} {found : List UInt8} (h : b.Remains known tree found)
    (hmore : known ⊆ more) : b.Remains more tree found := by
  obtain ⟨time, map, bytes, hpack, hbegins, hempty, hknown, hrecalls⟩ := h
  exact ⟨time, map, bytes, hpack, hbegins, hempty, hmore hknown, hrecalls⟩

lemma Sound.mono {more : List Int} (h : b.Sound known tree) (hmore : known ⊆ more) :
    b.Sound more tree := by
  refine ⟨h.wellFormed, h.isOpen, h.safe, h.apart, ?_, ?_⟩
  · intro documents time hdocuments htime
    exact hmore (h.times documents time hdocuments htime)
  · intro found modified hfile
    exact (h.cache found modified hfile).mono hmore

lemma IsStart.sound (h : b.IsStart tree) (hapart : b.KeepsApart tree) :
    b.Sound (b.times tree) tree := by
  refine ⟨h.wellFormed, h.isOpen, h.safe, hapart, fun _ _ => mem_times, ?_⟩
  intro found modified hfile
  have hmissing := h.missing
  rw [contentAt, hfile] at hmissing
  cases hmissing

/-- What installing a file does: there may be new folders, and the file is there. -/
lemma install_eq_ok {path : Path} {content : List UInt8} {modified : Int}
    (htree : before.WellFormed) (hpath : path.Proper)
    (h : install before path content modified = .ok after) :
    ∃ place, after.resolve path = .ok place ∧ after.at? place = some (.file content modified) ∧
      Grown (way before path) (fun other => other = place) before after ∧ after.WellFormed := by
  obtain ⟨made, hmade, hwrite⟩ := Outcome.bind_eq_ok.1 h
  obtain ⟨place, hplace, hfolder, rfl⟩ := write_eq_ok hwrite
  have hfurthered : Furthered (way before path) (fun other => decide (other = place)) before made := by
    refine furthered_of_makeFoldersFrom htree hpath.parent ?_ hmade
    intro parts hparts
    exact mem_way hparts
  obtain ⟨hgrown, hwellFormed⟩ := hfurthered
  have hput : Grown (way before path) (fun other => decide (other = place)) made
      (made.put place (.file content modified)) :=
    .putFile hfolder (decide_eq_true rfl) content modified
  have hroot := ne_nil_of_ne_folder hfolder
  refine ⟨place, hput.resolve hplace, ?_, hgrown.trans hput, ?_⟩
  · rw [at?_put hroot, if_pos rfl]
  · exact hwellFormed.putFile hpath hplace hfolder content modified

/-- What was installed is read again. -/
lemma read_of_install {path : Path} {content : List UInt8} {modified : Int}
    (htree : before.WellFormed) (hpath : path.Proper)
    (h : install before path content modified = .ok after) : after.read path = .ok content := by
  obtain ⟨place, hplace, hfile, -⟩ := install_eq_ok htree hpath h
  exact Outcome.map_eq_ok.2 ⟨_, file_eq_ok_iff.2 ⟨place, hplace, hfile⟩, rfl⟩

/-- A document that is newer than all before it makes every cache stale. -/
lemma Sound.install (h : b.Sound known before) {path : Path} {content : List UInt8}
    {modified : Int} (hpath : path.Proper) (hnewer : ∀ time ∈ known, time < modified)
    (hinstall : Baseline.install before path content modified = .ok after)
    (hleads : b.LeadsToDocument after path) (hapart : b.KeepsApart after) :
    b.Sound (known ++ b.times after) after := by
  obtain ⟨place, hresolve, hfile, hgrown, hwellFormed⟩ :=
    install_eq_ok h.wellFormed hpath hinstall
  obtain ⟨hcache, hfinds⟩ := hleads
  refine ⟨hwellFormed, h.isOpen.of_grown hgrown, h.safe.of_grown hgrown, hapart, ?_, ?_⟩
  · intro documents time hdocuments htime
    exact List.mem_append_right known (mem_times hdocuments htime)
  · intro found modified' hfound
    have hplace : b.cachePlace after = b.cachePlace before := hgrown.spelled_eq b.cachePath
    -- The document was not installed in place of the cache file, so this was there before.
    have hold : before.at? (b.cachePlace before) = some (.file found modified') := by
      rw [hplace] at hfound
      cases hgrown.files _ found modified' hfound with
      | inl hold => exact hold
      | inr hspare =>
        rw [hresolve, hplace] at hcache
        exact absurd (congrArg some (of_decide_eq_true hspare).symm) hcache
    obtain ⟨time, map, bytes, hpack, hbegins, hempty, hknown, -⟩ := h.cache _ _ hold
    refine ⟨time, map, bytes, hpack, hbegins, hempty, List.mem_append_left _ hknown, ?_⟩
    intro documents newer hdocuments htime
    -- The document is found, and newer than whatever was packed before.
    left
    obtain ⟨document, hmem, hdocument⟩ := hfinds documents (by rw [hdocuments]; rfl)
    have hthere : after.resolve document = .ok place := by
      rw [hresolve] at hdocument
      cases hresolved : after.resolve document with
      | error failure =>
        rw [hresolved] at hdocument
        cases hdocument
      | ok there =>
        rw [hresolved] at hdocument
        exact congrArg Except.ok (Option.some.inj hdocument)
    have hle := le_newest htime hmem (file_eq_ok_iff.2 ⟨place, hthere, hfile⟩)
    exact lt_of_lt_of_le (hnewer time hknown) hle

/-- Where a cache file is, its path leads to what is left of a cache. -/
lemma Sound.cacheFile (h : b.Sound known tree) (hpath : b.cachePath.Proper)
    (hisFile : tree.isFile b.cachePath = true) :
    tree.resolve b.cachePath = .ok (b.cachePlace tree) ∧ ∃ content modified,
      tree.at? (b.cachePlace tree) = some (.file content modified) ∧
        b.Remains known tree content := by
  obtain ⟨place, content, hresolve, hcontent⟩ := exists_contentAt_of_isFile hisFile
  obtain rfl : place = b.cachePlace tree := eq_spelled hpath hresolve
  refine ⟨hresolve, ?_⟩
  rw [contentAt] at hcontent
  split at hcontent
  · rename_i found modified hfile
    exact ⟨found, modified, hfile, h.cache found modified hfile⟩
  · cases hcontent

lemma Sound.deleteCache (h : b.Sound known before) (hpath : b.cachePath.Proper)
    (hisFile : before.isFile b.cachePath = true) (hdelete : before.delete b.cachePath = .ok after)
    (hapart : b.KeepsApart after) : b.Sound known after := by
  obtain ⟨hresolve, content, modified, hfile, -⟩ := h.cacheFile hpath hisFile
  have hfolder : before.at? (b.cachePlace before) ≠ some .folder := by
    rw [hfile]
    exact fun e => by cases e
  rw [delete_file h.wellFormed hresolve hfile] at hdelete
  obtain rfl := Except.ok.inj hdelete
  refine h.touched (.remove hfolder ?_) (h.wellFormed.remove hfolder) hapart ?_
  · exact isSpare_self _
  · intro found modified' hfound
    rw [at?_remove (ne_nil_of_ne_folder hfolder), if_pos rfl] at hfound
    cases hfound

lemma Sound.cutCache (h : b.Sound known before) (hpath : b.cachePath.Proper) {content : List UInt8}
    {length : Nat} {modified : Int} (hread : before.read b.cachePath = .ok content)
    (hwrite : before.write b.cachePath (content.take length) modified = .ok after)
    (hapart : b.KeepsApart after) : b.Sound known after := by
  obtain ⟨⟨content', modified'⟩, hfile, rfl⟩ := Outcome.map_eq_ok.1 hread
  obtain ⟨place, hplace, hcontent⟩ := file_eq_ok_iff.1 hfile
  obtain ⟨place', hplace', hfolder, rfl⟩ := write_eq_ok hwrite
  obtain rfl : place = b.cachePlace before := eq_spelled hpath hplace
  obtain rfl : b.cachePlace before = place' := Except.ok.inj (hplace.symm.trans hplace')
  have hroot := ne_nil_of_ne_folder hfolder
  refine h.touched (.putFile hfolder (isSpare_self _) _ _) ?_ hapart ?_
  · exact h.wellFormed.putFile hpath hplace hfolder _ modified
  · intro found modified'' hfound
    rw [at?_put hroot, if_pos rfl] at hfound
    cases hfound
    exact (h.cache _ _ hcontent).of_append (List.take_prefix length content')

lemma createAt_eq (b : Baseline) (now : Int) (mishap : Option Mishap) (w : Workspace) :
    b.createAt now mishap w =
      ((b.obtainWith (writeUntil mishap b.cachePath) { w with now := now }).1.mapError b.asFault,
        (b.obtainWith (writeUntil mishap b.cachePath) { w with now := now }).2) := by
  rw [createAt, createWith]

@[simp] lemma Step.take_create (b : Baseline) (w : Workspace) (now : Int)
    (mishap : Option Mishap) :
    (Step.create now mishap).take b w = (b.createAt now mishap w).2 := rfl

lemma Sound.course (h : b.Sound known w.tree) (hpath : b.cachePath.Proper) (hfits : b.Fits w.tree)
    (now : Int) (mishap : Option Mishap) :
    ∃ outcome, (b.createAt now mishap w).1 = outcome.mapError b.asFault ∧
      Course b (writeUntil mishap b.cachePath) { w with now := now } outcome
        (b.createAt now mishap w).2 := by
  have hsound : b.Sound known { w with now := now }.tree := h
  rw [createAt_eq]
  exact ⟨_, rfl, obtainWith_course (hsound.writes hpath hfits mishap)⟩

/-- Where documents are found and a cache is not out of date, its map is the baseline. -/
lemma createAt_of_usable {documents : List Path} {time : Int} {cache : AnnotationCache}
    (hdiscovered : b.discovered w.tree = .ok documents) (hne : documents ≠ [])
    (htime : newest w.tree documents = .ok time) (husable : b.usable w.tree = .ok (some cache))
    (hfresh : cache.isStale time = false) (now : Int) (mishap : Option Mishap) :
    (b.createAt now mishap w).1 = .ok cache.map ∧ (b.createAt now mishap w).2.tree = w.tree := by
  have hnow : b.discovered { w with now := now }.tree = .ok documents := hdiscovered
  obtain ⟨between, hleads, -, hcases⟩ :=
    obtainWith_cases (writeUntil mishap b.cachePath) hnow hne htime
  rw [createAt, createWith]
  rcases hcases with ⟨failure, hread, -⟩ | ⟨found, -, houtdated, -⟩ |
    ⟨found, hfound, -, hobtain⟩
  · cases husable.symm.trans hread
  · cases hfresh.symm.trans (houtdated cache husable)
  · obtain rfl : cache = found := Option.some.inj (Except.ok.inj (husable.symm.trans hfound))
    rw [hobtain]
    exact ⟨rfl, hleads.tree⟩

/-- From a sound tree, the baseline is made that is made without a cache file. -/
lemma Sound.createAt_eq (h : b.Sound known w.tree) (hpath : b.cachePath.Proper)
    (hfits : b.Fits w.tree) (now : Int) (mishap : Option Mishap) :
    (b.createAt now mishap w).1 = b.afresh w.tree := by
  obtain ⟨outcome, houtcome, hcourse⟩ := h.course hpath hfits now mishap
  have hnow : b.Sound known { w with now := now }.tree := h
  rw [houtcome, hnow.outcome_eq hpath hcourse]
  rfl

/-- What was made and saved is settled. -/
lemma Sound.isSettled_createAt (h : b.Sound known w.tree) (hpath : b.cachePath.Proper)
    (hfits : b.Fits w.tree) {now : Int} {mishap : Option Mishap} {map : AnnotationMap}
    (hmap : (b.createAt now mishap w).1 = .ok map)
    (hsaved : ¬b.ReportsUnsaved w (b.createAt now mishap w).2)
    (hapart : b.KeepsApart (b.createAt now mishap w).2.tree) :
    b.IsSettled (b.createAt now mishap w).2.tree := by
  obtain ⟨outcome, houtcome, hcourse⟩ := h.course hpath hfits now mishap
  have hnow : b.Sound known { w with now := now }.tree := h
  rw [hmap] at houtcome
  cases outcome with
  | error failure => cases houtcome
  | ok map' => exact hnow.isSettled hpath hfits hcourse hsaved hapart

/-- In a settled tree, the baseline is made without a document being read or a file being
changed. -/
lemma IsSettled.createAt (hsettled : b.IsSettled w.tree) (h : b.Sound known w.tree)
    (hpath : b.cachePath.Proper) (hfits : b.Fits w.tree) (now : Int) (mishap : Option Mishap) :
    (b.createAt now mishap w).2.documents = w.documents ∧
      (b.createAt now mishap w).2.tree = w.tree := by
  obtain ⟨outcome, -, hcourse⟩ := h.course hpath hfits now mishap
  have hnow : b.IsSettled { w with now := now }.tree := hsettled
  exact hnow.unchanged hcourse

/-- Every step that may follow leads from a sound tree to a sound one. -/
lemma Sound.take (h : b.Sound known w.tree) (hpath : b.cachePath.Proper) {next : Step}
    (hadmitted : next.IsAdmitted b known w.tree) (hapart : b.KeepsApart (next.take b w).tree) :
    b.Sound (known ++ b.times (next.take b w).tree) (next.take b w).tree := by
  cases next with
  | edit change =>
    cases happly : change.apply b w.tree with
    | error failure =>
      rw [Step.take, happly] at hapart ⊢
      exact h.mono (List.subset_append_left known _)
    | ok after =>
      rw [Step.take, happly] at hapart ⊢
      change b.KeepsApart after at hapart
      change b.Sound (known ++ b.times after) after
      cases change with
      | install path content modified =>
        obtain ⟨hnewer, after', hafter, hleads⟩ := hadmitted
        rw [Edit.apply] at happly
        rw [happly] at hafter
        obtain rfl : after = after' := Option.some.inj hafter
        exact h.install (Path.proper_ofText path) hnewer happly hleads hapart
      | deleteCache =>
        exact (h.deleteCache hpath hadmitted happly hapart).mono (List.subset_append_left known _)
      | cutCache length modified =>
        obtain ⟨content, hread, hwrite⟩ := Outcome.bind_eq_ok.1 happly
        exact (h.cutCache hpath hread hwrite hapart).mono (List.subset_append_left known _)
  | create now mishap =>
    rw [Step.take_create] at hapart ⊢
    obtain ⟨outcome, -, hcourse⟩ := h.course hpath hadmitted now mishap
    have hsound : b.Sound known { w with now := now }.tree := h
    obtain ⟨htouches, hwellFormed, hcache⟩ := hsound.touches hpath hadmitted hcourse
    exact (h.touched htouches hwellFormed hapart hcache).mono (List.subset_append_left known _)

lemma AreAdmitted.keepsApart {steps : List Step} (h : b.AreAdmitted known w steps) :
    b.KeepsApart w.tree := by
  cases steps with
  | nil => exact h
  | cons next rest => exact h.1

/-- After any steps the tree is sound, and the rest of the history is still to come. -/
lemma Sound.run (h : b.Sound known w.tree) (hpath : b.cachePath.Proper) {steps rest : List Step}
    (hadmitted : b.AreAdmitted known w (steps ++ rest)) :
    ∃ more, b.Sound more (b.run w steps).tree ∧ b.AreAdmitted more (b.run w steps) rest := by
  -- With each step more times are known.
  induction steps generalizing known w with
  | nil => exact ⟨known, h, hadmitted⟩
  | cons next steps ih =>
    obtain ⟨-, hnext, hrest⟩ := hadmitted
    exact ih (h.take hpath hnext hrest.keepsApart) hrest

/-- From a sound tree the baseline can be made again and again, if the cache file does not have the
ending of documents. -/
lemma Sound.areAdmitted (h : b.Sound known w.tree) (hpath : b.cachePath.Proper)
    (hending : Documents.hasEnding ⟨.root, b.cachePlace w.tree⟩ = false) (hfits : b.Fits w.tree)
    (creations : List (Int × Option Mishap)) :
    b.AreAdmitted known w (creations.map fun made => .create made.1 made.2) := by
  -- Nothing but the cache file changes from one time to the next.
  induction creations generalizing known w with
  | nil => exact h.apart
  | cons made rest ih =>
    obtain ⟨outcome, -, hcourse⟩ := h.course hpath hfits made.1 made.2
    have hnow : b.Sound known { w with now := made.1 }.tree := h
    obtain ⟨htouches, hwellFormed, -⟩ := hnow.touches hpath hfits hcourse
    rw [← Step.take_create] at htouches hwellFormed
    have hending' : Documents.hasEnding ⟨.root, b.cachePlace
        (Step.take b w (.create made.1 made.2)).tree⟩ = false := by
      rw [htouches.cachePlace_eq]
      exact hending
    have hapart := keepsApart_of_ending hwellFormed hending'
    refine ⟨h.apart, hfits, ih (h.take hpath hfits hapart) hending' ?_⟩
    exact Fits.of_touches hfits htouches h.wellFormed hwellFormed h.safe h.apart hapart

/-- In a history, whenever the baseline is made, it is the one that is made without a cache file: the
same map in the same order, or the same failure. And once it was made and saved, it is made again
without any document being read or any file being changed. -/
theorem create_eq_afresh (hstart : b.IsStart w.tree) {steps rest : List Step} {now : Int}
    {mishap : Option Mishap}
    (hadmitted : b.AreAdmitted (b.times w.tree) w (steps ++ .create now mishap :: rest)) :
    let here := b.run w steps
    let made := b.createAt now mishap here
    made.1 = b.afresh here.tree ∧
      ∀ map now' mishap' rest', rest = .create now' mishap' :: rest' → made.1 = .ok map →
        ¬b.ReportsUnsaved here made.2 →
          (b.createAt now' mishap' made.2).2.documents = made.2.documents ∧
            (b.createAt now' mishap' made.2).2.tree = made.2.tree := by
  have hpath := hstart.path
  obtain ⟨known, hsound, hapart, hfits, hrest⟩ :=
    (hstart.sound hadmitted.keepsApart).run hpath hadmitted
  refine ⟨hsound.createAt_eq hpath hfits now mishap, ?_⟩
  intro map now' mishap' rest' hfollows hmap hsaved
  have hafter := hsound.take hpath hfits hrest.keepsApart
  rw [hfollows] at hrest
  obtain ⟨hapart', hfits', -⟩ := hrest
  rw [Step.take_create] at hafter hapart' hfits'
  have hsettled := hsound.isSettled_createAt hpath hfits hmap hsaved hapart'
  exact hsettled.createAt hafter hpath hfits' now' mishap'

/-! ## Examples -/

/-- A baseline with a root that is still to be chosen. -/
def sampleBaseline (systemRoot : String) : Baseline :=
  ⟨⟨systemRoot, "user", "nuget", "cache/annotations.cache"⟩, .default,
    .ofText "cache/annotations.cache"⟩

/-- The path of a document below a root. -/
def samplePath (root : String) : String :=
  root ++ "/JetBrains/Installations/ReSharperPlatformVs15/ExternalAnnotations/L.xml"

/-- A document that says that one type is annotated. -/
def sampleDocument (name : String) : List UInt8 :=
  Text.utf8 ("<assembly><member name=\"T:" ++ name ++ "\"><attribute " ++
    "ctor=\"M:JetBrains.Annotations.CanBeNullAttribute.#ctor\"/></member></assembly>")

/-- The map of documents that say that types are annotated, one each. -/
def sampleMap (names : List String) : AnnotationMap :=
  .ofList (names.map fun name => (name, ⟨"T", true, .empty⟩))

lemma loadOutcome_sampleDocument_A (source : String) :
    AnnotationMap.loadOutcome .empty source (sampleDocument "A") = .ok (sampleMap ["A"]) :=
  AnnotationMap.loadOutcome_of_ascii (by decide +kernel) (by decide +kernel) (by decide +kernel)
    source

lemma merged_of_sampleDocument {path : Path} (hread : tree.read path = .ok (sampleDocument "A")) :
    b.merged tree [path] = .ok (sampleMap ["A"]) := by
  refine merged_of_mergeDocuments ?_ (by decide +kernel) (by decide +kernel)
  refine Outcome.bind_eq_ok.2 ⟨_, hread, ?_⟩
  exact Outcome.bind_eq_ok.2 ⟨_, loadOutcome_sampleDocument_A path.text, rfl⟩

/-- A workspace in which there is at most one document, that may or may not be found. -/
def sampleWorkspace (document : Option String) : Workspace :=
  let tree := FileTree.withCurrent ["w"]
  match document with
  | none => .ofTree tree 0
  | some path =>
    .ofTree ((install tree (.ofText path) (sampleDocument "A") 1).toOption.getD tree) 0

/-- A document is added. -/
def sampleSteps : List Step :=
  [.edit (.install (samplePath "sys") (sampleDocument "A") 1)]

theorem create_eq_afresh_sample :
    let b := sampleBaseline "sys"
    let w := sampleWorkspace none
    b.IsStart w.tree ∧
      b.AreAdmitted (b.times w.tree) w (sampleSteps ++ [.create 2 none, .create 3 none]) ∧
      (b.createAt 2 none (b.run w sampleSteps)).1 = b.afresh (b.run w sampleSteps).tree := by
  intro b w
  let installed := b.run w sampleSteps
  let document := Path.ofText (samplePath "sys")
  have hstart : b.IsStart w.tree := by decide +kernel
  -- All that has to be known of the document is computed at once.
  have hinstalled : (∀ next ∈ sampleSteps, next.IsAdmitted b (b.times w.tree) w.tree) ∧
      b.KeepsApart w.tree ∧ b.KeepsApart installed.tree ∧
      Documents.hasEnding ⟨.root, b.cachePlace installed.tree⟩ = false ∧
      (b.discovered installed.tree).toOption = some [document] ∧
      (newest installed.tree [document]).toOption = some 1 ∧
      (installed.tree.read document).toOption = some (sampleDocument "A") ∧
      (⟨.time 1, sampleMap ["A"]⟩ : AnnotationCache).Fits := by
    decide +kernel
  obtain ⟨hinstall, hapart, hapart', hending, hdiscovered, hnewest, hread, hfits⟩ := hinstalled
  have hmerged : b.merged installed.tree [document] = _ :=
    merged_of_sampleDocument (Outcome.eq_ok_of_toOption hread)
  have hfits' : b.Fits installed.tree := fits_of_merged (Outcome.eq_ok_of_toOption hdiscovered)
    (Outcome.eq_ok_of_toOption hnewest) hmerged hfits
  have hnext := hinstall _ (List.mem_singleton_self _)
  have hsound := (hstart.sound hapart).take hstart.path hnext hapart'
  have hadmitted : b.AreAdmitted (b.times w.tree) w
      (sampleSteps ++ [.create 2 none, .create 3 none]) :=
    ⟨hapart, hnext, hsound.areAdmitted hstart.path hending hfits' [(2, none), (3, none)]⟩
  exact ⟨hstart, hadmitted, (create_eq_afresh hstart hadmitted).1⟩

/-- A history that makes a folder for the cache file through which an older document is found. -/
def revealingSteps : List Step :=
  [.edit (.install (samplePath "user") (sampleDocument "B") 2), .create 3 none]

/-- The tree after that history: the cache file is there. -/
def revealedTree (installed : FileTree) : FileTree :=
  (installed.put ["w", "cache"] .folder).put ["w", "cache", "annotations.cache"]
    (.file [88, 65, 78, 67, 1, 0, 11, 0, 0, 0, 209, 44, 146, 157, 223, 129, 193, 137, 146, 2, 145,
      146, 161, 66, 147, 161, 84, 195, 128] 3)

lemma loadOutcome_sampleDocument_B (source : String) :
    AnnotationMap.loadOutcome .empty source (sampleDocument "B") = .ok (sampleMap ["B"]) ∧
      (sampleMap ["A"]).loadOutcome source (sampleDocument "B") = .ok (sampleMap ["A", "B"]) := by
  have hdetect : Xml.Encoding.detect? (sampleDocument "B") =
      some (.utf8, sampleDocument "B") := by
    decide +kernel
  have hlead : Xml.beginsDeclaration (Xml.Encoding.utf8.lead [] (sampleDocument "B")) = false := by
    decide +kernel
  constructor
  · exact AnnotationMap.loadOutcome_of_ascii hdetect hlead (by decide +kernel) source
  · exact AnnotationMap.loadOutcome_of_ascii hdetect hlead (by decide +kernel) source

lemma merged_of_sampleDocument_B {path : Path}
    (hread : tree.read path = .ok (sampleDocument "B")) :
    b.merged tree [path] = .ok (sampleMap ["B"]) := by
  refine merged_of_mergeDocuments ?_ (by decide +kernel) (by decide +kernel)
  refine Outcome.bind_eq_ok.2 ⟨_, hread, ?_⟩
  exact Outcome.bind_eq_ok.2 ⟨_, (loadOutcome_sampleDocument_B path.text).1, rfl⟩

lemma merged_of_sampleDocuments {older newer : Path}
    (holder : tree.read older = .ok (sampleDocument "A"))
    (hnewer : tree.read newer = .ok (sampleDocument "B")) :
    b.merged tree [older, newer] = .ok (sampleMap ["A", "B"]) := by
  refine merged_of_mergeDocuments ?_ (by decide +kernel) (by decide +kernel)
  refine Outcome.bind_eq_ok.2 ⟨_, holder, ?_⟩
  refine Outcome.bind_eq_ok.2 ⟨_, loadOutcome_sampleDocument_A older.text, ?_⟩
  refine Outcome.bind_eq_ok.2 ⟨_, hnewer, ?_⟩
  exact Outcome.bind_eq_ok.2 ⟨_, (loadOutcome_sampleDocument_B newer.text).2, rfl⟩

/-- The condition on roots is needed: when the folder of the cache file is there, a root that goes
through it and back out leads to an older document, but the cache is not stale. -/
theorem create_ne_afresh_of_revealed :
    let b := sampleBaseline "cache/../sys"
    let w := sampleWorkspace (some (samplePath "sys"))
    w.tree.WellFormed ∧ b.cachePath.Proper ∧ b.IsOpen w.tree ∧
      w.tree.contentAt (b.cachePlace w.tree) = none ∧
      b.AreAdmitted (b.times w.tree) w (revealingSteps ++ [.create 4 none]) ∧
      (b.createAt 4 none (b.run w revealingSteps)).1 ≠
        b.afresh (b.run w revealingSteps).tree := by
  intro b w
  let older := Path.ofText (samplePath "cache/../sys")
  let newer := Path.ofText (samplePath "user")
  let first : Step := .edit (.install (samplePath "user") (sampleDocument "B") 2)
  -- The workspaces are named, so that nothing is computed but where that is asked for.
  obtain ⟨installed, hinstall⟩ : ∃ installed, first.take b w = installed := ⟨_, rfl⟩
  obtain ⟨saved, hsave⟩ : ∃ saved, (Step.create 3 none).take b installed = saved := ⟨_, rfl⟩
  have hrun : b.run w revealingSteps = saved := by
    rw [← hsave, ← hinstall, run, revealingSteps, List.foldl_cons, List.foldl_cons, List.foldl_nil]
  have hstart : w.tree.WellFormed ∧ b.cachePath.Proper ∧ b.IsOpen w.tree ∧
      w.tree.contentAt (b.cachePlace w.tree) = none ∧
      Documents.hasEnding ⟨.root, b.cachePlace w.tree⟩ = false ∧
      first.IsAdmitted b (b.times w.tree) w.tree := by
    decide +kernel
  have hinstalled : installed.tree.WellFormed ∧
      Documents.hasEnding ⟨.root, b.cachePlace installed.tree⟩ = false ∧
      (b.discovered installed.tree).toOption = some [newer] ∧
      (newest installed.tree [newer]).toOption = some 2 ∧
      (installed.tree.read newer).toOption = some (sampleDocument "B") := by
    rw [← hinstall]
    decide +kernel
  have htree : saved.tree = revealedTree installed.tree := by
    rw [← hsave, ← hinstall]
    decide +kernel
  have hsaved : saved.tree.WellFormed ∧
      Documents.hasEnding ⟨.root, b.cachePlace saved.tree⟩ = false ∧
      (b.discovered saved.tree).toOption = some [older, newer] ∧
      (newest saved.tree [older, newer]).toOption = some 2 ∧
      (saved.tree.read older).toOption = some (sampleDocument "A") ∧
      (saved.tree.read newer).toOption = some (sampleDocument "B") ∧
      (b.usable saved.tree).toOption = some (some ⟨.time 2, sampleMap ["B"]⟩) := by
    rw [htree, ← hinstall]
    decide +kernel
  obtain ⟨hwellFormed, hproper, hopen, hmissing, hending, hadmitted⟩ := hstart
  obtain ⟨hwellFormed', hending', hdiscovered, hnewest, hread⟩ := hinstalled
  obtain ⟨hwellFormed'', hending'', hdiscovered', hnewest', holder, hnewer, husable⟩ := hsaved
  have hdiscovered' := Outcome.eq_ok_of_toOption hdiscovered'
  have hmerged : b.merged installed.tree [newer] = _ :=
    merged_of_sampleDocument_B (Outcome.eq_ok_of_toOption hread)
  have hmerged' : b.merged saved.tree [older, newer] = _ :=
    merged_of_sampleDocuments (Outcome.eq_ok_of_toOption holder) (Outcome.eq_ok_of_toOption hnewer)
  -- The cache is used, though there is an older document that it does not have.
  obtain ⟨hmade, hkept⟩ := createAt_of_usable hdiscovered' (List.cons_ne_nil _ _)
    (Outcome.eq_ok_of_toOption hnewest') (Outcome.eq_ok_of_toOption husable) rfl 4 none
  have hapart := keepsApart_of_ending hwellFormed'' hending''
  have hrest : b.KeepsApart (b.createAt 4 none saved).2.tree := by
    rw [hkept]
    exact hapart
  refine ⟨hwellFormed, hproper, hopen, hmissing, ?_, ?_⟩
  · change b.AreAdmitted (b.times w.tree) w [first, .create 3 none, .create 4 none]
    refine ⟨keepsApart_of_ending hwellFormed hending, hadmitted, ?_⟩
    rw [hinstall]
    refine ⟨keepsApart_of_ending hwellFormed' hending', ?_, ?_⟩
    · exact fits_of_merged (Outcome.eq_ok_of_toOption hdiscovered)
        (Outcome.eq_ok_of_toOption hnewest) hmerged (by decide +kernel)
    rw [hsave]
    refine ⟨hapart, ?_, hrest⟩
    exact fits_of_merged hdiscovered' (Outcome.eq_ok_of_toOption hnewest') hmerged'
      (by decide +kernel)
  · rw [hrun, hmade, afresh_of_merged hdiscovered' (List.cons_ne_nil _ _) hmerged']
    intro h
    have hmaps : sampleMap ["B"] ≠ sampleMap ["A", "B"] := by decide +kernel
    exact hmaps (Except.ok.inj h)

end Nullability.Baseline
