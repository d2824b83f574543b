import Nullability.Proofs.Baseline.Afresh
import Nullability.Proofs.Cache.Writer
import Nullability.Proofs.Installation.Stability

/-!
# The baseline of grown trees

Whatever happens to the cache file changes nothing that the baseline is made from: if documents are
found afterwards, they are the same as before, with the same times and the same map. All that has to
be known is that the cache file is none of them, and that folders made for it reveal no others.
-/

namespace Nullability.Baseline

open FileTree Installation

variable {b : Baseline} {tree before after : FileTree} {documents : List Path} {path : Path}
  {place : Place}

/-- Where the cache file is, if it is there. -/
def cachePlace (b : Baseline) (tree : FileTree) : Place :=
  tree.spelled b.cachePath

/-- What saving the cache file writes to. -/
def spare (b : Baseline) (tree : FileTree) : Place → Bool :=
  CacheWriter.isSpare (b.cachePlace tree)

/-- Whether the cache file is none of the documents that are found. -/
def KeepsApart (b : Baseline) (tree : FileTree) : Prop :=
  ∀ documents ∈ (b.discovered tree).toOption, ∀ document ∈ documents,
    (tree.resolve document).toOption ≠ some (b.cachePlace tree)

instance (b : Baseline) (tree : FileTree) : Decidable (b.KeepsApart tree) :=
  inferInstanceAs (Decidable (∀ documents ∈ (b.discovered tree).toOption, _))

/-- How a tree changes if nothing but the cache file is saved, damaged or deleted. -/
def TouchesCache (b : Baseline) (before after : FileTree) : Prop :=
  Grown (CacheWriter.way before b.cachePath) (b.spare before) before after

/-! ## Documents -/

lemma not_isTemporary (h : IsDocument tree path place) : CacheWriter.isTemporary place = false := by
  have hending := h.ending
  rw [Documents.hasEnding, Path.suffix, h.name] at hending
  rw [CacheWriter.isTemporary, decide_eq_false_iff_not]
  intro htemporary
  rw [htemporary] at hending
  exact absurd hending (by decide)

/-- Then there is no document where saving writes to. -/
lemma KeepsApart.spared (h : b.KeepsApart tree) (htree : tree.WellFormed) :
    Spared (b.spare tree) tree b.locations b.scanner := by
  intro documents hdocuments document hmem place hresolve
  have hdiscovered : documents ∈ (b.discovered tree).toOption := by
    rw [discovered, hdocuments]
    rfl
  have hapart := h documents hdiscovered document hmem
  obtain ⟨there, hdocument⟩ := isDocument_of_mem_discovered htree hdocuments hmem
  obtain rfl : there = place := Except.ok.inj (hdocument.resolve.symm.trans hresolve)
  rw [hresolve] at hapart
  have hcache : there ≠ b.cachePlace tree := fun e => hapart (congrArg some e)
  rw [spare, CacheWriter.isSpare, not_isTemporary hdocument, decide_eq_false hcache]
  rfl

/-- A cache file that does not have the ending of documents is none of them. -/
lemma keepsApart_of_ending (htree : tree.WellFormed)
    (hending : Documents.hasEnding ⟨.root, b.cachePlace tree⟩ = false) : b.KeepsApart tree := by
  intro documents hdocuments document hmem hresolve
  have hdiscovered := Outcome.eq_ok_of_toOption (Option.mem_def.1 hdocuments)
  obtain ⟨place, hdocument⟩ := isDocument_of_mem_discovered htree hdiscovered hmem
  rw [hdocument.resolve] at hresolve
  obtain rfl : place = b.cachePlace tree := Option.some.inj hresolve
  have hsame := hdocument.ending
  rw [Documents.hasEnding, Path.suffix, hdocument.name] at hsame
  exact Bool.false_ne_true (hending.symm.trans hsame)

/-- A document that saving does not write to is still the same. -/
lemma file_of_grown {way : List Place} {spare : Place → Bool} (h : Grown way spare before after)
    (hdocument : IsDocument before path place) (hspare : spare place = false) :
    after.file path = before.file path := by
  obtain ⟨content, modified, hfile⟩ := hdocument.file
  rw [file_eq_ok_iff.2 ⟨place, hdocument.resolve, hfile⟩]
  exact file_eq_ok_iff.2 ⟨place, h.resolve hdocument.resolve, h.at?_of_file hfile hspare⟩

/-! ## Times and maps -/

/-- The newest time is the greatest one of the documents' times, of which there are some. -/
lemma newest_eq_ok {time : Int} :
    newest tree documents = .ok time ↔ ∃ times,
      documents.mapM (fun path => (tree.file path).map Prod.snd) = .ok times ∧
        times.max? = some time := by
  rw [newest, Outcome.bind_eq_ok]
  refine exists_congr fun times => and_congr_right fun _ => ?_
  cases times with
  | nil =>
    constructor
    · intro h
      cases h
    · intro h
      cases h
  | cons first rest =>
    rw [List.max?_cons']
    exact ⟨fun h => congrArg some (Except.ok.inj h), fun h => congrArg Except.ok (Option.some.inj h)⟩

lemma newest_congr (h : ∀ document ∈ documents, after.file document = before.file document) :
    newest after documents = newest before documents := by
  have htimes : documents.mapM (fun path => (after.file path).map Prod.snd) =
      documents.mapM (fun path => (before.file path).map Prod.snd) :=
    Outcome.mapM_congr fun document hmem => congrArg (Except.map Prod.snd) (h document hmem)
  rw [newest, htimes]
  rfl

lemma mergeDocuments_congr {m : AnnotationMap}
    (h : ∀ document ∈ documents, after.file document = before.file document) :
    mergeDocuments after documents m = mergeDocuments before documents m := by
  induction documents generalizing m with
  | nil => rfl
  | cons document rest ih =>
    have hread : after.read document = before.read document := by
      rw [FileTree.read, FileTree.read, h document List.mem_cons_self]
    have hrest : ∀ m, mergeDocuments after rest m = mergeDocuments before rest m :=
      fun m => ih (fun other hmem => h other (List.mem_cons_of_mem document hmem))
    rw [mergeDocuments, mergeDocuments, hread]
    simp only [hrest]

lemma merged_congr (h : ∀ document ∈ documents, after.file document = before.file document) :
    b.merged after documents = b.merged before documents := by
  rw [merged, merged, mergeDocuments_congr h]

/-- Of the times of documents one is the greatest. -/
lemma exists_newest_of_times (hne : documents ≠ [])
    (h : ∀ document ∈ documents, ∃ time, (tree.file document).map Prod.snd = .ok time) :
    ∃ time, newest tree documents = .ok time := by
  obtain ⟨times, htimes⟩ := Outcome.exists_mapM h
  cases times with
  | nil => exact absurd (List.forall₂_nil_right_iff.1 (Outcome.mapM_eq_ok.1 htimes)) hne
  | cons first rest => exact ⟨_, newest_eq_ok.2 ⟨first :: rest, htimes, List.max?_cons'⟩⟩

lemma exists_newest (htree : tree.WellFormed) (h : b.discovered tree = .ok documents)
    (hne : documents ≠ []) : ∃ time, newest tree documents = .ok time := by
  refine exists_newest_of_times hne ?_
  intro document hmem
  obtain ⟨place, hdocument⟩ := isDocument_of_mem_discovered htree h hmem
  obtain ⟨content, modified, hfile⟩ := hdocument.file
  exact ⟨modified, Outcome.map_eq_ok.2
    ⟨_, file_eq_ok_iff.2 ⟨place, hdocument.resolve, hfile⟩, rfl⟩⟩

lemma le_newest {time modified : Int} {content : List UInt8}
    (h : newest tree documents = .ok time) (hmem : path ∈ documents)
    (hfile : tree.file path = .ok (content, modified)) : modified ≤ time := by
  obtain ⟨times, htimes, hmax⟩ := newest_eq_ok.1 h
  obtain ⟨found, hfound, htime⟩ := Outcome.exists_result htimes hmem
  rw [hfile] at htime
  obtain rfl : modified = found := Except.ok.inj htime
  exact (List.max?_eq_some_iff.1 hmax).2 modified hfound

lemma mem_of_newest {time : Int} (h : newest tree documents = .ok time) :
    ∃ document ∈ documents, ∃ content, tree.file document = .ok (content, time) := by
  obtain ⟨times, htimes, hmax⟩ := newest_eq_ok.1 h
  obtain ⟨document, hmem, htime⟩ :=
    Outcome.exists_item htimes (List.max?_eq_some_iff.1 hmax).1
  obtain ⟨⟨content, _⟩, hfile, rfl⟩ := Outcome.map_eq_ok.1 htime
  exact ⟨document, hmem, content, hfile⟩

/-! ## Changes to the cache file -/

lemma TouchesCache.refl (b : Baseline) (tree : FileTree) : b.TouchesCache tree tree :=
  Grown.refl _ _ tree

lemma TouchesCache.cachePlace_eq (h : b.TouchesCache before after) :
    b.cachePlace after = b.cachePlace before :=
  Grown.spelled_eq h b.cachePath

/-- Whether no root of the installations gets out of a folder that is made for the cache file. -/
def RetreatsSafely (b : Baseline) (tree : FileTree) : Prop :=
  RootsRetreatSafely (CacheWriter.way tree b.cachePath) tree b.locations b.scanner

instance (b : Baseline) (tree : FileTree) : Decidable (b.RetreatsSafely tree) :=
  inferInstanceAs (Decidable (∀ root ∈ Installation.roots b.locations b.scanner, _))

/-- Folders stay, so the roots are still safe. -/
lemma RetreatsSafely.of_grown {way : List Place} {spare : Place → Bool}
    (hsafe : b.RetreatsSafely before) (h : Grown way spare before after) :
    b.RetreatsSafely after := by
  intro root hroot
  rw [CacheWriter.way_eq_of_grown h, h.start_eq]
  exact FileTree.RetreatsSafely.mono (hsafe root hroot) fun place => h.at?_of_folder

/-- The cache file can still be looked for. -/
lemma IsOpen.of_grown {way : List Place} {spare : Place → Bool} (h : b.IsOpen before)
    (hgrown : Grown way spare before after) : b.IsOpen after :=
  ⟨h.noNull, (hgrown.denial?_eq b.cachePath).trans h.told⟩

/-- Documents that are found after a change to the cache file were found before, with the same
times and the same map. -/
lemma TouchesCache.unchanged (h : b.TouchesCache before after) (hbefore : before.WellFormed)
    (hafter : after.WellFormed) (hsafe : b.RetreatsSafely before)
    (hapart : b.KeepsApart before) (hapartAfter : b.KeepsApart after)
    (hdocuments : b.discovered after = .ok documents) :
    b.discovered before = .ok documents ∧
      newest after documents = newest before documents ∧
      b.merged after documents = b.merged before documents := by
  have hspared := hapart.spared hbefore
  have hsparedAfter := hapartAfter.spared hafter
  rw [spare, h.cachePlace_eq] at hsparedAfter
  have hdiscovered : b.discovered before = .ok documents :=
    discovered_of_grown h hbefore hafter hsafe hspared hsparedAfter hdocuments
  have hfiles : ∀ document ∈ documents, after.file document = before.file document := by
    intro document hmem
    obtain ⟨place, hdocument⟩ := isDocument_of_mem_discovered hbefore hdiscovered hmem
    exact file_of_grown h hdocument (hspared _ hdiscovered document hmem place hdocument.resolve)
  exact ⟨hdiscovered, newest_congr hfiles, merged_congr hfiles⟩

end Nullability.Baseline
