import Nullability.Proofs.Cache.Sharing

/-!
# Moves around a shared cache file

However the steps of saves and of readers interleave, and wherever they fail or break off, one
invariant holds on (`SharedCache.Sound`). It speaks of the cache file, of all temporary files at
once, and of the progress of every save that is still under way. A deed of one save is shown to leave
those of the others alone first (`SharedCache.Sound.act`), and any other move after that.
-/

namespace Nullability

open FileTree CacheWriter

variable {start made : FileTree} {shared : SharedCache} {before after : List CacheSave}
  {save : CacheSave} {changed writer : CacheWriter} {place : Place} {bytes : List UInt8}

namespace CacheWriter

lemma isFinished_of_hasTemporary (h : writer.stage.hasTemporary = true) :
    writer.isFinished = false := by
  rw [isFinished]
  cases hstage : writer.stage with
  | done => rw [hstage] at h; cases h
  | failed failure => rw [hstage] at h; cases h
  | _ => rfl

lemma mem_held {tree : FileTree} : place ∈ writer.held tree ↔
    writer.stage.hasTemporary = true ∧ place = tree.spelled writer.temporary := by
  rw [held]
  split
  · rename_i h
    simp [h]
  · rename_i h
    simp [h]

lemma nodup_held (writer : CacheWriter) (tree : FileTree) : (writer.held tree).Nodup := by
  rw [held]
  split
  · exact List.nodup_singleton _
  · exact List.nodup_nil

lemma Progress.at?_of_held {tree : FileTree} (h : Progress tree writer tree)
    (hplace : place ∈ writer.held tree) :
    ∃ content, tree.at? place = some (.file content writer.now) := by
  obtain ⟨hhas, rfl⟩ := mem_held.1 hplace
  have hholds := h.holds
  rw [HoldsAt] at hholds
  cases hstage : writer.stage with
  | fileMade =>
    rw [hstage] at hholds
    obtain ⟨content, -, hfile⟩ := hholds
    exact ⟨content, hfile⟩
  | contentWritten =>
    rw [hstage] at hholds
    exact ⟨_, hholds.2⟩
  | _ => rw [hstage] at hhas; cases hhas

/-- A writer under way does not care what happens elsewhere. -/
lemma Progress.elsewhere {tree : FileTree} {way : List Place} {spare : Place → Bool}
    (h : Progress tree writer tree) (hunfinished : writer.isFinished = false)
    (hgrown : Grown way spare tree made) (hmade : made.WellFormed)
    (hheld : ∀ place ∈ writer.held tree, made.at? place = tree.at? place) :
    Progress made writer made := by
  refine ⟨h.proper, h.temporary, .refl _ _ made, hmade, fun _ _ hfound => .inl hfound, ?_⟩
  have hholds := h.holds
  rw [HoldsAt] at hholds ⊢
  rw [hgrown.spelled_eq, hgrown.spelled_eq]
  rw [isFinished] at hunfinished
  cases hstage : writer.stage with
  | arrived => trivial
  | folderMade => trivial
  | fileMade =>
    rw [hstage] at hholds
    obtain ⟨found, hplace, hfile⟩ := hholds
    have hsame := hheld _ (mem_held.2 ⟨by rw [hstage]; rfl, rfl⟩)
    exact ⟨found, hgrown.resolve hplace, hsame.trans hfile⟩
  | contentWritten =>
    rw [hstage] at hholds
    have hsame := hheld _ (mem_held.2 ⟨by rw [hstage]; rfl, rfl⟩)
    exact ⟨hgrown.resolve hholds.1, hsame.trans hholds.2⟩
  | done => rw [hstage] at hunfinished; cases hunfinished
  | failed failure => rw [hstage] at hunfinished; cases hunfinished

lemma held_eq_of_grown {way : List Place} {spare : Place → Bool} {tree : FileTree}
    (h : Grown way spare tree made) (writer : CacheWriter) :
    writer.held made = writer.held tree := by
  rw [held, held, h.spelled_eq]

/-- A place with the same as before need not be left out. -/
lemma Keeps.drop {way besides fewer : List Place} {before after : FileTree}
    (h : Keeps way besides before after)
    (hsame : ∀ place ∈ besides, place ∉ fewer → after.at? place = before.at? place) :
    Keeps way fewer before after := by
  intro place hplace
  by_cases hmem : place ∈ besides
  · exact .inl (hsame place hmem hplace)
  · exact h place hmem

end CacheWriter

namespace SharedCache

/-- What a reader may find: the first content, or all that a save wrote that is through. -/
def Offers (start : FileTree) (shared : SharedCache) (bytes : List UInt8) : Prop :=
  start.contentAt (start.spelled shared.path) = some bytes ∨
    ∃ save ∈ shared.saves, save.writer.stage = .done ∧ save.cache.pack = .ok bytes

/-- A save to a path, with its progress as long as it is under way. -/
structure Serves (path : Path) (tree : FileTree) (save : CacheSave) : Prop where
  path : save.writer.path = path
  content : save.cache.pack = .ok save.writer.content
  progress : save.writer.isFinished = false → Progress tree save.writer tree

/-- What holds of a shared cache file at any time. -/
structure Sound (start : FileTree) (shared : SharedCache) : Prop where
  proper : shared.path.Proper
  grown : Grown (way start shared.path) (isSpare (start.spelled shared.path)) start shared.tree
  wellFormed : shared.tree.WellFormed
  serves : ∀ save ∈ shared.saves, Serves shared.path shared.tree save
  keeps : Keeps (way start shared.path) (start.spelled shared.path :: shared.temporaries) start
    shared.tree
  free : ∀ place ∈ shared.temporaries, start.at? place = none
  apart : shared.temporaries.Nodup
  offers : ∀ bytes, shared.tree.contentAt (start.spelled shared.path) = some bytes →
    shared.Offers start bytes
  seen : ∀ bytes ∈ shared.seen, shared.Offers start bytes

lemma sound_opened {path : Path} (hstart : start.WellFormed) (hpath : path.Proper) :
    Sound start (opened path start) where
  proper := hpath
  grown := .refl _ _ start
  wellFormed := hstart
  serves := fun _ hsave => absurd hsave List.not_mem_nil
  keeps := .refl _ _ start
  free := fun _ hplace => absurd hplace List.not_mem_nil
  apart := List.nodup_nil
  offers := fun _ hbytes => .inl hbytes
  seen := fun _ hbytes => absurd hbytes List.not_mem_nil

/-! ## One deed -/

/-- All temporary files but that of one save. -/
def others (shared : SharedCache) (before after : List CacheSave) : List Place :=
  (before ++ after).flatMap (fun save => save.writer.held shared.tree)

lemma temporaries_perm (hsaves : shared.saves = before ++ save :: after) :
    shared.temporaries.Perm (save.writer.held shared.tree ++ shared.others before after) := by
  rw [temporaries, hsaves, others, List.flatMap_append, List.flatMap_append, List.flatMap_cons]
  exact List.perm_append_comm_assoc _ _ _

lemma mem_temporaries_of_others (hsaves : shared.saves = before ++ save :: after)
    (hplace : place ∈ shared.others before after) : place ∈ shared.temporaries :=
  (temporaries_perm hsaves).mem_iff.2 (List.mem_append_right _ hplace)

lemma mem_saves_of_eq (hsaves : shared.saves = before ++ save :: after) : save ∈ shared.saves := by
  rw [hsaves]
  exact List.mem_append_right before List.mem_cons_self

lemma exists_set {index : Nat} (hsave : shared.saves[index]? = some save) :
    ∃ before after, shared.saves = before ++ save :: after ∧
      ∀ other, shared.saves.set index other = before ++ other :: after := by
  obtain ⟨hindex, rfl⟩ := List.getElem?_eq_some_iff.1 hsave
  have hset : ∀ other, shared.saves.set index other =
      shared.saves.take index ++ other :: shared.saves.drop (index + 1) := by
    intro other
    rw [List.set_eq_take_append_cons_drop, if_pos hindex]
  exact ⟨_, _, (List.set_getElem_self hindex).symm.trans (hset _), hset⟩

/-- The shared cache file after a deed of one save. -/
def having (shared : SharedCache) (before : List CacheSave) (save : CacheSave)
    (after : List CacheSave) (tree : FileTree) : SharedCache :=
  { shared with saves := before ++ save :: after, tree := tree }

/-- Saves that are through stay so. -/
lemma offers_having (hsaves : shared.saves = before ++ save :: after)
    (hunfinished : save.writer.isFinished = false) (hoffers : shared.Offers start bytes) :
    (shared.having before { save with writer := changed } after made).Offers start bytes := by
  refine hoffers.imp_right ?_
  rintro ⟨other, hother, hdone, hpack⟩
  refine ⟨other, ?_, hdone, hpack⟩
  rw [hsaves, List.mem_append, List.mem_cons] at hother
  change other ∈ before ++ _ :: after
  rw [List.mem_append, List.mem_cons]
  refine hother.imp_right (Or.imp_left fun hself => ?_)
  rw [← hself, isFinished, hdone] at hunfinished
  cases hunfinished

lemma having_temporaries_perm {way : List Place} {spare : Place → Bool}
    (hgrown : Grown way spare shared.tree made) :
    (shared.having before save after made).temporaries.Perm
      (save.writer.held shared.tree ++ shared.others before after) := by
  refine (temporaries_perm rfl).trans (List.Perm.of_eq ?_)
  change save.writer.held made ++
    (before ++ after).flatMap (fun other => other.writer.held made) = _
  rw [held_eq_of_grown hgrown]
  congr 1
  exact List.flatMap_congr fun other _ => held_eq_of_grown hgrown other.writer

namespace Sound

/-- Every temporary file is there, and it is not the cache file. -/
lemma of_mem_temporaries (h : Sound start shared) (hplace : place ∈ shared.temporaries) :
    (∃ content modified, shared.tree.at? place = some (.file content modified)) ∧
      place ≠ start.spelled shared.path := by
  obtain ⟨save, hsave, hheld⟩ := List.mem_flatMap.1 hplace
  obtain ⟨hhas, hspelled⟩ := mem_held.1 hheld
  have hserves := h.serves save hsave
  have hprogress := hserves.progress (isFinished_of_hasTemporary hhas)
  obtain ⟨content, hfile⟩ := hprogress.at?_of_held hheld
  refine ⟨⟨content, _, hfile⟩, ?_⟩
  rw [hspelled, ← h.grown.spelled_eq, ← hserves.path]
  exact hprogress.temporary_place.2

section Act

variable (h : Sound start shared) (hsaves : shared.saves = before ++ save :: after)
  (hacted : Acted save.writer shared.tree changed made)

include h hsaves

/-- The temporary files of the others are apart from that of a save. -/
lemma not_held_of_others (hplace : place ∈ shared.others before after) :
    place ∉ save.writer.held shared.tree := by
  have hapart := (temporaries_perm hsaves).nodup_iff.1 h.apart
  exact fun hheld => (List.nodup_append.1 hapart).2.2 place hheld place hplace rfl

include hacted

lemma not_held_after (hplace : place ∈ shared.others before after) :
    place ∉ changed.held shared.tree := by
  intro hheld
  have hnone := hacted.effect.at?_of_held hheld (h.not_held_of_others hsaves hplace)
  obtain ⟨⟨content, modified, hfile⟩, -⟩ :=
    h.of_mem_temporaries (mem_temporaries_of_others hsaves hplace)
  rw [hnone] at hfile
  cases hfile

/-- A deed leaves the temporary files of the others alone. -/
lemma at?_of_others (hplace : place ∈ shared.others before after) :
    made.at? place = shared.tree.at? place := by
  have htemporary := mem_temporaries_of_others hsaves hplace
  obtain ⟨⟨content, modified, hfile⟩, hcache⟩ := h.of_mem_temporaries htemporary
  have hbesides : place ∉ shared.tree.spelled save.writer.path :: save.writer.held shared.tree ++
      changed.held shared.tree := by
    rw [List.cons_append, List.mem_cons, List.mem_append, not_or, not_or,
      (h.serves save (mem_saves_of_eq hsaves)).path, h.grown.spelled_eq]
    exact ⟨hcache, h.not_held_of_others hsaves hplace, h.not_held_after hsaves hacted hplace⟩
  obtain hsame | ⟨hnone, -⟩ := hacted.effect.keeps place hbesides
  · exact hsame
  · rw [hnone] at hfile
    cases hfile

lemma serves_after {other : CacheSave}
    (hother : other ∈ before ++ { save with writer := changed } :: after) :
    Serves shared.path made other := by
  obtain ⟨hpath, hcontent⟩ := hacted.effect.fields_eq
  have hserves := h.serves save (mem_saves_of_eq hsaves)
  rw [List.mem_append, List.mem_cons, or_left_comm] at hother
  cases hother with
  | inl hself =>
    subst hself
    refine ⟨hpath.trans hserves.path, ?_, hacted.progress⟩
    rw [hcontent]
    exact hserves.content
  | inr hother =>
    rw [← List.mem_append] at hother
    have hmem : other ∈ shared.saves := by
      rw [hsaves]
      exact (List.mem_append.1 hother).elim (List.mem_append_left _)
        (fun hafter => List.mem_append_right before (List.mem_cons_of_mem save hafter))
    obtain ⟨hpath, hcontent, hprogress⟩ := h.serves other hmem
    refine ⟨hpath, hcontent, fun hunfinished => ?_⟩
    refine (hprogress hunfinished).elsewhere hunfinished hacted.grown hacted.wellFormed ?_
    intro place hplace
    exact h.at?_of_others hsaves hacted (List.mem_flatMap.2 ⟨other, hother, hplace⟩)

/-- A new temporary file is put where nothing was at first. -/
lemma free_after
    (hplace : place ∈
      (shared.having before { save with writer := changed } after made).temporaries) :
    start.at? place = none := by
  rw [(having_temporaries_perm hacted.grown).mem_iff, List.mem_append] at hplace
  cases hplace with
  | inr hother => exact h.free place (mem_temporaries_of_others hsaves hother)
  | inl hheld =>
    by_cases hold : place ∈ save.writer.held shared.tree
    · exact h.free place ((temporaries_perm hsaves).mem_iff.2 (List.mem_append_left _ hold))
    · refine h.keeps.at?_eq_none ?_ (hacted.effect.at?_of_held hheld hold)
      rw [List.mem_cons, (temporaries_perm hsaves).mem_iff, List.mem_append, not_or, not_or]
      refine ⟨?_, hold, fun hother => h.not_held_after hsaves hacted hother hheld⟩
      obtain ⟨hhas, hspelled⟩ := mem_held.1 hheld
      have hprogress := hacted.progress (isFinished_of_hasTemporary hhas)
      rw [hspelled, ← h.grown.spelled_eq, ← (h.serves save (mem_saves_of_eq hsaves)).path,
        ← hacted.effect.fields_eq.1, ← hacted.grown.spelled_eq, ← hacted.grown.spelled_eq]
      exact hprogress.temporary_place.2

lemma apart_after :
    (shared.having before { save with writer := changed } after made).temporaries.Nodup := by
  have hapart := List.nodup_append.1 ((temporaries_perm hsaves).nodup_iff.1 h.apart)
  rw [(having_temporaries_perm hacted.grown).nodup_iff, List.nodup_append]
  refine ⟨nodup_held changed shared.tree, hapart.2.1, ?_⟩
  intro place hheld other hother heq
  exact h.not_held_after hsaves hacted (heq ▸ hother) hheld

lemma keeps_after :
    Keeps (way start shared.path) (start.spelled shared.path ::
      (shared.having before { save with writer := changed } after made).temporaries)
      start made := by
  have hpath := (h.serves save (mem_saves_of_eq hsaves)).path
  have hdeed := hacted.effect.keeps
  rw [hpath, way_eq_of_grown h.grown, h.grown.spelled_eq] at hdeed
  -- At first everything is left out that was or is a temporary file.
  have hboth : Keeps (way start shared.path) (start.spelled shared.path :: shared.temporaries ++
      changed.held shared.tree) start made := by
    refine (h.keeps.mono (List.subset_append_left _ _)).trans (hdeed.mono ?_)
    intro place hplace
    rw [List.cons_append, List.mem_cons, List.mem_append] at hplace ⊢
    refine hplace.imp_right (Or.imp_left fun hheld => ?_)
    exact (temporaries_perm hsaves).mem_iff.2 (List.mem_append_left _ hheld)
  refine hboth.drop ?_
  intro place hplace hdropped
  rw [List.cons_append, List.mem_cons, List.mem_append, (temporaries_perm hsaves).mem_iff,
    List.mem_append] at hplace
  rw [List.mem_cons, (having_temporaries_perm hacted.grown).mem_iff, List.mem_append, not_or,
    not_or] at hdropped
  obtain ⟨hcache, hnew, hother⟩ := hdropped
  have hold : place ∈ save.writer.held shared.tree := by tauto
  rw [hacted.effect.at?_of_not_held hold hnew,
    h.free place ((temporaries_perm hsaves).mem_iff.2 (List.mem_append_left _ hold))]

lemma offers_after (hunfinished : save.writer.isFinished = false)
    (hbytes : made.contentAt (start.spelled shared.path) = some bytes) :
    (shared.having before { save with writer := changed } after made).Offers start bytes := by
  have hserves := h.serves save (mem_saves_of_eq hsaves)
  have hcontent := hacted.effect.contentAt_eq (hserves.progress hunfinished).temporary_place.2
  rw [hserves.path, h.grown.spelled_eq] at hcontent
  cases hcontent with
  | inl hsame =>
    rw [hsame] at hbytes
    exact offers_having hsaves hunfinished (h.offers bytes hbytes)
  | inr hreplaced =>
    obtain ⟨hdone, hcontent⟩ := hreplaced
    obtain rfl := Option.some.inj (hcontent.symm.trans hbytes)
    exact .inr ⟨_, List.mem_append_right before List.mem_cons_self, hdone, hserves.content⟩

lemma having (hunfinished : save.writer.isFinished = false) :
    Sound start (shared.having before { save with writer := changed } after made) := by
  have hgrown := hacted.grown
  rw [(h.serves save (mem_saves_of_eq hsaves)).path, way_eq_of_grown h.grown,
    h.grown.spelled_eq] at hgrown
  exact {
    proper := h.proper
    grown := h.grown.trans hgrown
    wellFormed := hacted.wellFormed
    serves := fun _ => h.serves_after hsaves hacted
    keeps := h.keeps_after hsaves hacted
    free := fun _ => h.free_after hsaves hacted
    apart := h.apart_after hsaves hacted
    offers := fun _ => h.offers_after hsaves hacted hunfinished
    seen := fun bytes hseen => offers_having hsaves hunfinished (h.seen bytes hseen) }

end Act

/-! ## Moves -/

lemma act (h : Sound start shared) (index : Nat) (deed : Deed) :
    Sound start (shared.step (.act index deed)) := by
  rw [SharedCache.step]
  cases hsave : shared.saves[index]? with
  | none => exact h
  | some save =>
    dsimp only
    split
    · exact h
    · rename_i hlive
      have hunfinished : save.writer.isFinished = false := by
        rw [not_or] at hlive
        exact Bool.eq_false_of_not_eq_true hlive.2
      obtain ⟨before, after, hsaves, hset⟩ := exists_set hsave
      rw [hset]
      have hprogress := (h.serves save (mem_saves_of_eq hsaves)).progress hunfinished
      exact h.having hsaves (hprogress.acted deed) hunfinished

/-- The tree stays as it is when a save begins or is killed. -/
lemma withSaves (h : Sound start shared) {saves : List CacheSave}
    (htemporaries : saves.flatMap (fun save => save.writer.held shared.tree) = shared.temporaries)
    (hserves : ∀ save ∈ saves, Serves shared.path shared.tree save)
    (hdone : ∀ save ∈ shared.saves, save.writer.stage = .done → ∃ other ∈ saves,
      other.writer.stage = .done ∧ other.cache = save.cache) :
    Sound start { shared with saves := saves } := by
  have hoffers : ∀ bytes, shared.Offers start bytes →
      ({ shared with saves := saves } : SharedCache).Offers start bytes := by
    intro bytes hoffers
    refine hoffers.imp_right ?_
    rintro ⟨save, hsave, hthrough, hpack⟩
    obtain ⟨other, hother, hthrough, hcache⟩ := hdone save hsave hthrough
    exact ⟨other, hother, hthrough, hcache ▸ hpack⟩
  have htemporaries : ({ shared with saves := saves } : SharedCache).temporaries =
      shared.temporaries := htemporaries
  exact {
    proper := h.proper
    grown := h.grown
    wellFormed := h.wellFormed
    serves := hserves
    keeps := htemporaries ▸ h.keeps
    free := htemporaries ▸ h.free
    apart := htemporaries ▸ h.apart
    offers := fun bytes hbytes => hoffers bytes (h.offers bytes hbytes)
    seen := fun bytes hseen => hoffers bytes (h.seen bytes hseen) }

lemma begin (h : Sound start shared) (cache : AnnotationCache) (now : Int) :
    Sound start (shared.step (.begin cache now)) := by
  rw [SharedCache.step]
  cases hbytes : cache.toBytes with
  | error failure => exact h
  | ok content =>
    have hpack : cache.pack = .ok content := by
      rw [AnnotationCache.toBytes] at hbytes
      split at hbytes
      · rename_i hpack
        rw [hpack, Except.ok.inj hbytes]
      · cases hbytes
      · cases hbytes
    have harrived : Progress shared.tree (arriving shared.tree shared.path content now)
        shared.tree :=
      progress_of_arrived h.proper fun spare => ⟨.refl _ spare _, h.wellFormed⟩
    refine h.withSaves ?_ ?_ ?_
    · rw [List.flatMap_append]
      exact List.append_nil _
    · intro save hsave
      cases List.mem_append.1 hsave with
      | inl hsave => exact h.serves save hsave
      | inr hsave =>
        rw [List.mem_singleton.1 hsave]
        exact ⟨rfl, hpack, fun _ => harrived⟩
    · exact fun save hsave hthrough => ⟨save, List.mem_append_left _ hsave, hthrough, rfl⟩

lemma kill (h : Sound start shared) (index : Nat) : Sound start (shared.step (.kill index)) := by
  rw [SharedCache.step]
  cases hsave : shared.saves[index]? with
  | none => exact h
  | some save =>
    obtain ⟨before, after, hsaves, hset⟩ := exists_set hsave
    dsimp only
    rw [hset]
    refine h.withSaves ?_ ?_ ?_
    · rw [temporaries, hsaves, List.flatMap_append, List.flatMap_append, List.flatMap_cons,
        List.flatMap_cons]
    · have hserves := h.serves
      rw [hsaves] at hserves
      intro other hother
      rw [List.mem_append, List.mem_cons] at hother
      obtain hbefore | rfl | hafter := hother
      · exact hserves other (List.mem_append_left _ hbefore)
      · obtain ⟨hpath, hcontent, hprogress⟩ :=
          hserves save (List.mem_append_right _ List.mem_cons_self)
        exact ⟨hpath, hcontent, hprogress⟩
      · exact hserves other (List.mem_append_right _ (List.mem_cons_of_mem _ hafter))
    · intro other hother hthrough
      rw [hsaves, List.mem_append, List.mem_cons] at hother
      obtain hbefore | rfl | hafter := hother
      · exact ⟨other, List.mem_append_left _ hbefore, hthrough, rfl⟩
      · exact ⟨_, List.mem_append_right _ List.mem_cons_self, hthrough, rfl⟩
      · exact ⟨other, List.mem_append_right _ (List.mem_cons_of_mem _ hafter), hthrough, rfl⟩

lemma read (h : Sound start shared) : Sound start (shared.step .read) := by
  rw [SharedCache.step]
  cases hread : shared.tree.read shared.path with
  | error failure => exact h
  | ok content =>
    obtain ⟨⟨content', modified⟩, hfile, rfl⟩ := Outcome.map_eq_ok.1 hread
    obtain ⟨place, hplace, hnode⟩ := file_eq_ok_iff.1 hfile
    obtain rfl := eq_spelled h.proper hplace
    rw [h.grown.spelled_eq] at hnode
    have hfound : shared.Offers start content' := h.offers content' (by rw [contentAt, hnode])
    change Sound start { shared with seen := shared.seen ++ [content'] }
    refine { h with seen := ?_ }
    intro bytes hseen
    cases List.mem_append.1 hseen with
    | inl hseen => exact h.seen bytes hseen
    | inr hseen =>
      rw [List.mem_singleton.1 hseen]
      exact hfound

lemma step (h : Sound start shared) (move : Move) : Sound start (shared.step move) := by
  cases move with
  | begin cache now => exact h.begin cache now
  | act index deed => exact h.act index deed
  | kill index => exact h.kill index
  | read => exact h.read

lemma run (h : Sound start shared) (moves : List Move) : Sound start (shared.run moves) := by
  induction moves generalizing shared with
  | nil => exact h
  | cons move rest ih => exact ih (h.step move)

end Sound

end SharedCache

end Nullability
