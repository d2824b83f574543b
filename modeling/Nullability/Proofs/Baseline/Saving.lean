import Nullability.Proofs.Baseline.Sound
import Nullability.Proofs.Cache.Save

/-!
# Making the baseline from a sound tree

Making the baseline leaves a sound tree sound, however far the save comes. Once the cache file is
saved, the baseline is taken from there, without a document being read (`Baseline.IsSettled`).
-/

namespace Nullability.Baseline

open FileTree CacheWriter

variable {b : Baseline} {known : List Int} {tree before after : FileTree} {w w' : Workspace}
  {write : AnnotationCache → Job Unit} {outcome : Except Failure AnnotationMap}

/-! ## Saving -/

/-- Writes a cache to a file, up to a mishap if there is one. -/
def writeUntil (mishap : Option Mishap) (path : Path) (cache : AnnotationCache) : Job Unit :=
  fun w =>
    match mishap with
    | none => writeCache path cache w
    | some mishap =>
      match cache.toBytes with
      | .error failure => (.error failure, w)
      | .ok bytes =>
        let (writer, tree) := runUntil mishap path bytes w.now w.tree
        (writer.outcome, { w with tree := tree })

/-- A cache that can be packed is stored by a writer that takes all its steps. -/
lemma store_eq {cache : AnnotationCache} {bytes : List UInt8} (hpack : cache.pack = .ok bytes)
    (path : Path) (now : Int) :
    let finished := (arriving tree path bytes now).run tree
    cache.store path now tree = (finished.1.outcome, finished.2) := by
  intro finished
  rw [AnnotationCache.store, AnnotationCache.toBytes, hpack, CacheWriter.outcome]
  cases hstage : finished.1.stage with
  | _ => simp only [finished, hstage]

/-- The writer in the end, with the files that it leaves, if a mishap may stop it. -/
def writerUntil (mishap : Option Mishap) (path : Path) (bytes : List UInt8) (now : Int)
    (tree : FileTree) : CacheWriter × FileTree :=
  match mishap with
  | none => (arriving tree path bytes now).run tree
  | some mishap => runUntil mishap path bytes now tree

/-- What can be packed is written as far as its writer comes. -/
lemma writeUntil_eq {cache : AnnotationCache} {bytes : List UInt8} (hpack : cache.pack = .ok bytes)
    (mishap : Option Mishap) (path : Path) (w : Workspace) :
    writeUntil mishap path cache w = ((writerUntil mishap path bytes w.now w.tree).1.outcome,
      { w with tree := (writerUntil mishap path bytes w.now w.tree).2 }) := by
  cases mishap with
  | none =>
    rw [writeUntil, writeCache, store_eq hpack]
    rfl
  | some mishap =>
    rw [writeUntil, AnnotationCache.toBytes, hpack]
    rfl

/-- What a write comes to is what its writer comes to, from the files of before. -/
lemma eq_writerUntil {mishap : Option Mishap} {path : Path} {cache : AnnotationCache}
    {bytes : List UInt8} {saved : Except Failure Unit} {between : Workspace}
    (hpack : cache.pack = .ok bytes) (hleads : w.Leads between)
    (hwrite : writeUntil mishap path cache between = (saved, { between with tree := after })) :
    let ended := writerUntil mishap path bytes between.now w.tree
    saved = ended.1.outcome ∧ after = ended.2 := by
  rw [writeUntil_eq hpack, hleads.tree] at hwrite
  obtain ⟨houtcome, hworkspace⟩ := Prod.mk.inj hwrite
  exact ⟨houtcome.symm, (congrArg Workspace.tree hworkspace).symm⟩

lemma saved_writerUntil {path : Path} (htree : tree.WellFormed) (hpath : path.Proper)
    (mishap : Option Mishap) (bytes : List UInt8) (now : Int) :
    let ended := writerUntil mishap path bytes now tree
    Saved path bytes now tree ended.1.outcome ended.2 := by
  cases mishap with
  | none => exact saved_run htree hpath bytes now
  | some mishap => exact saved_runUntil htree hpath mishap bytes now

/-- The cache that is saved when there is none yet. -/
def freshCache (b : Baseline) (tree : FileTree) : Except Failure AnnotationCache := do
  let documents ← b.discovered tree
  let time ← newest tree documents
  let map ← b.merged tree documents
  return ⟨.time time, map⟩

/-- Whether the cache that would be saved fits the format of cache files. -/
def Fits (b : Baseline) (tree : FileTree) : Prop :=
  ∀ cache ∈ (b.freshCache tree).toOption, cache.Fits

lemma fits_of_merged {documents : List Path} {time : Int} {map : AnnotationMap}
    (hdiscovered : b.discovered tree = .ok documents) (htime : newest tree documents = .ok time)
    (hmerged : b.merged tree documents = .ok map)
    (hfits : (⟨.time time, map⟩ : AnnotationCache).Fits) : b.Fits tree := by
  intro cache hcache
  obtain ⟨documents', hdiscovered', hcache⟩ :=
    Outcome.bind_eq_ok.1 (Outcome.eq_ok_of_toOption (Option.mem_def.1 hcache))
  obtain rfl := Except.ok.inj (hdiscovered.symm.trans hdiscovered')
  obtain ⟨time', htime', hcache⟩ := Outcome.bind_eq_ok.1 hcache
  obtain rfl := Except.ok.inj (htime.symm.trans htime')
  obtain ⟨map', hmerged', hcache⟩ := Outcome.bind_eq_ok.1 hcache
  obtain rfl := Except.ok.inj (hmerged.symm.trans hmerged')
  rw [← Except.ok.inj hcache]
  exact hfits

/-- A change to the cache file does not keep the cache from fitting the format. -/
lemma Fits.of_touches (hfits : b.Fits before) (h : b.TouchesCache before after)
    (hbefore : before.WellFormed) (hafter : after.WellFormed) (hsafe : b.RetreatsSafely before)
    (hapart : b.KeepsApart before) (hapartAfter : b.KeepsApart after) : b.Fits after := by
  intro cache hcache
  obtain ⟨documents, hdiscovered, hrest⟩ :=
    Outcome.bind_eq_ok.1 (Outcome.eq_ok_of_toOption (Option.mem_def.1 hcache))
  obtain ⟨hdiscovered', htimes, hmaps⟩ :=
    h.unchanged hbefore hafter hsafe hapart hapartAfter hdiscovered
  have hfresh : b.freshCache before = .ok cache := by
    rw [htimes, hmaps] at hrest
    exact Outcome.bind_eq_ok.2 ⟨documents, hdiscovered', hrest⟩
  refine hfits cache ?_
  rw [hfresh]
  rfl

lemma Fits.exists_pack {documents : List Path} {time : Int} {map : AnnotationMap}
    (h : b.Fits tree) (hdocuments : b.discovered tree = .ok documents)
    (htime : newest tree documents = .ok time) (hmap : b.merged tree documents = .ok map) :
    ∃ bytes, (⟨.time time, map⟩ : AnnotationCache).pack = .ok bytes := by
  have hfresh : b.freshCache tree = .ok ⟨.time time, map⟩ :=
    Outcome.bind_eq_ok.2 ⟨documents, hdocuments,
      Outcome.bind_eq_ok.2 ⟨time, htime, Outcome.bind_eq_ok.2 ⟨map, hmap, rfl⟩⟩⟩
  refine AnnotationCache.exists_pack (h _ ?_)
  rw [hfresh]
  rfl

/-- A cache that fits the format is not saved for a reason of the file system at most. -/
lemma Sound.writes (h : b.Sound known w.tree) (hpath : b.cachePath.Proper) (hfits : b.Fits w.tree)
    (mishap : Option Mishap) : b.Writes (writeUntil mishap b.cachePath) w := by
  intro documents time map hdocuments htime hmap between hleads
  obtain ⟨bytes, hpack⟩ := hfits.exists_pack hdocuments htime hmap
  have hbetween : between.tree.WellFormed := by
    rw [hleads.tree]
    exact h.wellFormed
  have hsaved := saved_writerUntil hbetween hpath mishap bytes between.now
  exact ⟨_, _, writeUntil_eq hpack mishap _ between, hsaved.failed h.isOpen.noNull⟩

lemma saved_of_write {mishap : Option Mishap} {cache : AnnotationCache} {bytes : List UInt8}
    {outcome : Except Failure Unit} {between : Workspace} (hpack : cache.pack = .ok bytes)
    (hpath : b.cachePath.Proper) (htree : w.tree.WellFormed) (hleads : w.Leads between)
    (hwrite : writeUntil mishap b.cachePath cache between =
      (outcome, { between with tree := w'.tree })) :
    Saved b.cachePath bytes between.now w.tree outcome w'.tree := by
  obtain ⟨rfl, hwritten⟩ := eq_writerUntil hpack hleads hwrite
  rw [hwritten]
  exact saved_writerUntil htree hpath mishap bytes between.now

/-- Making the baseline leaves everything but the cache file alone, and there it leaves what
recalls the documents. -/
lemma Sound.touches (h : b.Sound known w.tree) (hpath : b.cachePath.Proper)
    (hfits : b.Fits w.tree) {mishap : Option Mishap}
    (hcourse : Course b (writeUntil mishap b.cachePath) w outcome w') :
    b.TouchesCache w.tree w'.tree ∧ w'.tree.WellFormed ∧ ∀ found modified,
      w'.tree.at? (b.cachePlace w.tree) = some (.file found modified) →
        b.Remains known w.tree found := by
  -- All courses but one leave the files alone.
  have hsame : w.Leads w' → b.TouchesCache w.tree w'.tree ∧ w'.tree.WellFormed ∧
      ∀ found modified, w'.tree.at? (b.cachePlace w.tree) = some (.file found modified) →
        b.Remains known w.tree found := by
    intro hleads
    rw [hleads.tree]
    exact ⟨.refl b w.tree, h.wellFormed, h.cache⟩
  cases hcourse with
  | unscanned _ hleads _ => exact hsame hleads
  | missing _ hleads _ => exact hsame hleads
  | untimed _ _ _ hleads _ => exact hsame hleads
  | unread _ _ _ hleads _ => exact hsame hleads
  | reused _ _ _ _ _ hleads _ => exact hsame hleads
  | unmerged _ _ _ _ _ hleads => exact hsame hleads
  | rebuilt hdocuments _ htime _ hmap hleads hwrite =>
    obtain ⟨bytes, hpack⟩ := hfits.exists_pack hdocuments htime hmap
    have hsaved := saved_of_write hpack hpath h.wellFormed hleads hwrite
    refine ⟨hsaved.grown, hsaved.wellFormed, ?_⟩
    intro found modified hfile
    cases hsaved.old found modified hfile with
    | inl hold => exact h.cache found modified hold
    | inr hnew =>
      rw [hnew]
      exact remains_of_pack hdocuments htime hmap hpack (h.times _ _ hdocuments htime)

/-! ## Staying with a cache file -/

/-- Whether there is a cache that can be used if documents are found. -/
def IsSettled (b : Baseline) (tree : FileTree) : Prop :=
  ∀ documents time, b.discovered tree = .ok documents → newest tree documents = .ok time →
    ∃ cache, b.usable tree = .ok (some cache) ∧ cache.isStale time = false

/-- Then documents are not read, and files are left alone. -/
lemma IsSettled.unchanged (h : b.IsSettled w.tree) (hcourse : Course b write w outcome w') :
    w'.documents = w.documents ∧ w'.tree = w.tree := by
  cases hcourse with
  | unscanned _ hleads hdocuments => exact ⟨hdocuments, hleads.tree⟩
  | missing _ hleads hdocuments => exact ⟨hdocuments, hleads.tree⟩
  | untimed _ _ _ hleads hdocuments => exact ⟨hdocuments, hleads.tree⟩
  | unread _ _ _ hleads hdocuments => exact ⟨hdocuments, hleads.tree⟩
  | reused _ _ _ _ _ hleads hdocuments => exact ⟨hdocuments, hleads.tree⟩
  | unmerged hfound _ htime houtdated =>
    obtain ⟨cache, husable, hfresh⟩ := h _ _ hfound htime
    rw [houtdated cache husable] at hfresh
    cases hfresh
  | rebuilt hfound _ htime houtdated =>
    obtain ⟨cache, husable, hfresh⟩ := h _ _ hfound htime
    rw [houtdated cache husable] at hfresh
    cases hfresh

/-- A baseline that was made, with a cache file that was not reported as unsaved, is settled. -/
lemma Sound.isSettled (h : b.Sound known w.tree) (hpath : b.cachePath.Proper)
    (hfits : b.Fits w.tree) {mishap : Option Mishap} {map : AnnotationMap}
    (hcourse : Course b (writeUntil mishap b.cachePath) w (.ok map) w')
    (hsaved : ¬b.ReportsUnsaved w w') (hapart : b.KeepsApart w'.tree) :
    b.IsSettled w'.tree := by
  obtain ⟨htouches, hwellFormed, -⟩ := h.touches hpath hfits hcourse
  intro documents time hdocuments htime
  obtain ⟨hbefore, htimes, -⟩ :=
    htouches.unchanged h.wellFormed hwellFormed h.safe h.apart hapart hdocuments
  rw [htimes] at htime
  cases hcourse with
  | @reused documents' newer cache _ hdocuments' _ hnewer husable hfresh hleads =>
    obtain rfl : documents = documents' := Except.ok.inj (hbefore.symm.trans hdocuments')
    obtain rfl : time = newer := Except.ok.inj (htime.symm.trans hnewer)
    rw [hleads.tree]
    exact ⟨cache, husable, hfresh⟩
  | @rebuilt documents' newer _ saved between _ hdocuments' _ hnewer _ hmap hleads hwrite _
      hunsaved =>
    obtain rfl : documents = documents' := Except.ok.inj (hbefore.symm.trans hdocuments')
    obtain rfl : time = newer := Except.ok.inj (htime.symm.trans hnewer)
    obtain ⟨bytes, hpack⟩ := hfits.exists_pack hbefore htime hmap
    have hwritten := saved_of_write hpack hpath h.wellFormed hleads hwrite
    cases saved with
    | error failure => exact absurd (hunsaved failure rfl) hsaved
    | ok _ =>
      obtain ⟨hresolve, hfile⟩ := hwritten.saved rfl
      have hplace : w.tree.spelled b.cachePath = b.cachePlace w'.tree :=
        htouches.cachePlace_eq.symm
      rw [hplace] at hresolve hfile
      have htold := (h.isOpen.of_grown htouches).told
      exact ⟨⟨.time time, map⟩, usable_of_pack hpack (isEmpty_of_merged hmap) htold hresolve hfile,
        decide_eq_false (lt_irrefl time)⟩

end Nullability.Baseline
