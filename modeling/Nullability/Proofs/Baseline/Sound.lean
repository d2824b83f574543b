import Nullability.Proofs.Baseline.Course
import Nullability.Proofs.Baseline.Growth

/-!
# Sound cache files

What a cache file has to be so that the baseline does not depend on it: the beginning of a file that
was packed once, whose stamp is the time of a document that was found since. As long as the newest
document has this very time, the packed map is the one that the documents have (`Baseline.Sound`).
-/

namespace Nullability.Baseline

open FileTree

variable {b : Baseline} {known : List Int} {tree before after : FileTree} {w w' : Workspace}
  {write : AnnotationCache → Job Unit} {outcome : Except Failure AnnotationMap}

/-- Whether a cache is out of date, or has the map of the documents. -/
def Recalls (b : Baseline) (tree : FileTree) (time : Int) (map : AnnotationMap) : Prop :=
  ∀ documents newer, b.discovered tree = .ok documents → newest tree documents = .ok newer →
    time < newer ∨ time = newer ∧ b.merged tree documents = .ok map

/-- Whether some bytes are what is left of a cache with a known time. -/
def Remains (b : Baseline) (known : List Int) (tree : FileTree) (found : List UInt8) : Prop :=
  ∃ time map bytes, (⟨.time time, map⟩ : AnnotationCache).pack = .ok bytes ∧ found <+: bytes ∧
    map.isEmpty = false ∧ time ∈ known ∧ b.Recalls tree time map

/-- What holds of a tree between steps, where the times of all documents so far are known. -/
structure Sound (b : Baseline) (known : List Int) (tree : FileTree) : Prop where
  wellFormed : tree.WellFormed
  isOpen : b.IsOpen tree
  safe : b.RetreatsSafely tree
  apart : b.KeepsApart tree
  times : ∀ documents time, b.discovered tree = .ok documents →
    newest tree documents = .ok time → time ∈ known
  cache : ∀ found modified, tree.at? (b.cachePlace tree) = some (.file found modified) →
    b.Remains known tree found

/-! ## Reading -/

lemma isEmpty_of_merged {documents : List Path} {map : AnnotationMap}
    (h : b.merged tree documents = .ok map) : map.isEmpty = false := by
  obtain ⟨all, -, h⟩ := Outcome.bind_eq_ok.1 h
  split at h
  · cases h
  · rename_i hempty
    rw [← Except.ok.inj h]
    simpa using hempty

lemma usable_of_read {found : List UInt8} (htold : tree.denial? b.cachePath = none)
    (hread : tree.read b.cachePath = .ok found) :
    b.usable tree = counted (AnnotationCache.unpack b.cachePath.text found) := by
  rw [usable_eq htold, if_pos (isFile_of_read hread), AnnotationCache.load, hread]
  rfl

lemma usable_of_file {found : List UInt8} {modified : Int}
    (htold : tree.denial? b.cachePath = none)
    (hresolve : tree.resolve b.cachePath = .ok (b.cachePlace tree))
    (hfile : tree.at? (b.cachePlace tree) = some (.file found modified)) :
    b.usable tree = counted (AnnotationCache.unpack b.cachePath.text found) :=
  usable_of_read htold (Outcome.map_eq_ok.2 ⟨_, file_eq_ok_iff.2 ⟨_, hresolve, hfile⟩, rfl⟩)

/-- A cache file that was not cut is read as what was packed. -/
lemma usable_of_pack {cache : AnnotationCache} {bytes : List UInt8} {modified : Int}
    (hpack : cache.pack = .ok bytes) (hempty : cache.map.isEmpty = false)
    (htold : tree.denial? b.cachePath = none)
    (hresolve : tree.resolve b.cachePath = .ok (b.cachePlace tree))
    (hfile : tree.at? (b.cachePlace tree) = some (.file bytes modified)) :
    b.usable tree = .ok (some cache) := by
  have hunpack := AnnotationCache.unpack_of_pack hpack b.cachePath.text []
  rw [List.append_nil] at hunpack
  rw [usable_of_file htold hresolve hfile, hunpack, counted]
  simp only [hempty, Bool.false_eq_true, if_false]

/-- A cache file is never a reason to fail, and a cache that can be used recalls the documents. -/
lemma Sound.usable (h : b.Sound known tree) (hpath : b.cachePath.Proper) :
    b.usable tree = .ok none ∨ ∃ time map, b.usable tree = .ok (some ⟨.time time, map⟩) ∧
      b.Recalls tree time map := by
  by_cases hisFile : tree.isFile b.cachePath = true
  · obtain ⟨place, found, hresolve, hcontent⟩ := exists_contentAt_of_isFile hisFile
    obtain rfl : place = b.cachePlace tree := eq_spelled hpath hresolve
    rw [contentAt] at hcontent
    split at hcontent
    · rename_i content modified hfile
      obtain rfl := Option.some.inj hcontent
      obtain ⟨time, map, bytes, hpack, hbegins, hempty, -, hrecalls⟩ := h.cache _ _ hfile
      by_cases hcut : content.length < bytes.length
      · -- The damage is noticed, and the cache does not count.
        left
        have hcorrupt := AnnotationCache.unpack_take_of_pack hpack hcut b.cachePath.text
        rw [← List.prefix_iff_eq_take.1 hbegins] at hcorrupt
        rw [usable_of_file h.isOpen.told hresolve hfile, hcorrupt]
        rfl
      · right
        obtain rfl : content = bytes := hbegins.eq_of_length_le (not_lt.1 hcut)
        exact ⟨time, map, usable_of_pack hpack hempty h.isOpen.told hresolve hfile, hrecalls⟩
    · cases hcontent
  · left
    rw [usable_eq h.isOpen.told, if_neg hisFile]

/-- However the baseline is made, it is the one that is made without a cache file. -/
lemma Sound.outcome_eq (h : b.Sound known w.tree) (hpath : b.cachePath.Proper)
    (hcourse : Course b write w outcome w') : outcome = b.mergedDiscovered w.tree := by
  have hall : ∀ {documents}, b.discovered w.tree = .ok documents → documents ≠ [] →
      b.mergedDiscovered w.tree = b.merged w.tree documents := by
    intro documents hdiscovered hne
    rw [mergedDiscovered, hdiscovered]
    exact if_neg (by simpa using hne)
  cases hcourse with
  | unscanned hdiscovered =>
    rw [mergedDiscovered, hdiscovered]
    rfl
  | missing hdiscovered =>
    rw [mergedDiscovered, hdiscovered]
    rfl
  | untimed hdiscovered hne htime =>
    -- Documents that are found have times.
    obtain ⟨time, htime'⟩ := exists_newest h.wellFormed hdiscovered hne
    rw [htime] at htime'
    cases htime'
  | unread hdiscovered htime husable =>
    -- A sound cache file can be read or given up.
    obtain hnone | ⟨time, map, hsome, -⟩ := h.usable hpath
    · rw [husable] at hnone
      cases hnone
    · rw [husable] at hsome
      cases hsome
  | @reused documents newer cache _ hdiscovered hne htime husable hfresh =>
    obtain hnone | ⟨time, map, hsome, hrecalls⟩ := h.usable hpath
    · rw [husable] at hnone
      cases hnone
    · rw [husable] at hsome
      obtain rfl : cache = ⟨.time time, map⟩ := Option.some.inj (Except.ok.inj hsome)
      rw [hall hdiscovered hne]
      cases hrecalls documents newer hdiscovered htime with
      | inl hstale => exact absurd hstale (of_decide_eq_false hfresh)
      | inr hmerged => exact hmerged.2.symm
  | unmerged hdiscovered hne _ _ hmerged => rw [hall hdiscovered hne, hmerged]
  | rebuilt hdiscovered hne _ _ hmerged => rw [hall hdiscovered hne, hmerged]

/-! ## Changes to the cache file -/

lemma Remains.of_append {found rest : List UInt8} (h : b.Remains known tree found)
    (hbegins : rest <+: found) : b.Remains known tree rest := by
  obtain ⟨time, map, bytes, hpack, hfound, hrecalls⟩ := h
  exact ⟨time, map, bytes, hpack, hbegins.trans hfound, hrecalls⟩

/-- What was just packed recalls the documents. -/
lemma remains_of_pack {documents : List Path} {time : Int} {map : AnnotationMap}
    {bytes : List UInt8} (hdocuments : b.discovered tree = .ok documents)
    (htime : newest tree documents = .ok time) (hmap : b.merged tree documents = .ok map)
    (hpack : (⟨.time time, map⟩ : AnnotationCache).pack = .ok bytes) (hknown : time ∈ known) :
    b.Remains known tree bytes := by
  refine ⟨time, map, bytes, hpack, List.prefix_rfl, isEmpty_of_merged hmap, hknown, ?_⟩
  intro documents' newer hdocuments' hnewer
  obtain rfl : documents = documents' := Except.ok.inj (hdocuments.symm.trans hdocuments')
  exact .inr ⟨Except.ok.inj (htime.symm.trans hnewer), hmap⟩

/-- A tree stays sound if at most the cache file is changed, into what is left of a cache. -/
lemma Sound.touched (h : b.Sound known before) (htouches : b.TouchesCache before after)
    (hafter : after.WellFormed) (hapart : b.KeepsApart after)
    (hcache : ∀ found modified, after.at? (b.cachePlace before) = some (.file found modified) →
      b.Remains known before found) : b.Sound known after := by
  have hunchanged : ∀ documents, b.discovered after = .ok documents → _ :=
    fun _ => htouches.unchanged h.wellFormed hafter h.safe h.apart hapart
  refine ⟨hafter, h.isOpen.of_grown htouches, h.safe.of_grown htouches, hapart, ?_, ?_⟩
  · intro documents time hdocuments htime
    obtain ⟨hbefore, htimes, -⟩ := hunchanged documents hdocuments
    exact h.times documents time hbefore (htimes ▸ htime)
  · intro found modified hfile
    rw [htouches.cachePlace_eq] at hfile
    obtain ⟨time, map, bytes, hpack, hbegins, hempty, hknown, hrecalls⟩ := hcache _ _ hfile
    refine ⟨time, map, bytes, hpack, hbegins, hempty, hknown, ?_⟩
    intro documents newer hdocuments hnewer
    obtain ⟨hbefore, htimes, hmaps⟩ := hunchanged documents hdocuments
    rw [hmaps]
    exact hrecalls documents newer hbefore (htimes ▸ hnewer)

end Nullability.Baseline
