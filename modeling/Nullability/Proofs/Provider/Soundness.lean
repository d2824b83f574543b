import Nullability.Proofs.Provider.Gathering

/-!
# Order at all maps

At any time each map is in order: its readers, and the calls of its job so far (`Sound`). Whatever
happens next, this holds on (`Sound.run`).
-/

namespace Nullability.Gathering

open Once

variable {g made : Gathering} {n k map : Nat} {stage next : Stage AnnotationMap}
  {once : Once AnnotationMap} {provider : Provider}

/-- What holds at any time. -/
structure Sound (g : Gathering) : Prop where
  maps : ∀ map once, g.providers.maps[map]? = some once →
    Orderly once (g.callsOn map) (g.stageAt map)
  /-- Readers are at maps that are there. -/
  readers : ∀ map n stage, g.stageAt map n = some stage → map < g.providers.maps.length
  /-- Calls are of the jobs of maps that are there. -/
  calls : ∀ call ∈ g.calls, ∃ once w, g.providers.maps[call.map]? = some once ∧
    (once.build w).1 = call.outcome
  /-- The job of the shared map was put in place last. -/
  shared : ∃ once, g.providers.maps[g.providers.shared]? = some once ∧
    g.installed.getLast? = some once.build

namespace Sound

lemma start (build : Job AnnotationMap) (w : Workspace) : Sound (start build w) := by
  refine ⟨?_, ?_, ?_, ⟨.ofJob build, rfl, rfl⟩⟩
  · intro map once honce
    cases map with
    | zero =>
      obtain rfl := Option.some.inj honce
      exact Orderly.ofJob build
    | succ map => cases honce
  · intro map n stage hstage
    cases hstage
  · intro call hcall
    cases hcall

/-- Something happens that is not about any map. -/
lemma aside (h : Sound g) (hproviders : made.providers = g.providers)
    (hcalls : made.calls = g.calls) (hinstalled : made.installed = g.installed)
    (hstages : ∀ map, made.stageAt map = g.stageAt map) : Sound made := by
  have hcallsOn := callsOn_congr hcalls
  refine ⟨?_, ?_, ?_, ?_⟩
  · intro map once honce
    rw [hproviders] at honce
    rw [hcallsOn, hstages]
    exact h.maps map once honce
  · intro map n stage hstage
    rw [hstages] at hstage
    rw [hproviders]
    exact h.readers map n stage hstage
  · rw [hcalls, hproviders]
    exact h.calls
  · rw [hproviders, hinstalled]
    exact h.shared

/-- When a reader goes on at a map that is there, readers are still at maps that are there. -/
lemma readers_set (h : Sound g) (hmap : map < g.providers.maps.length)
    (hnone : ∀ other, map ≠ other → stagesAt g.readers other n = none) :
    ∀ other k found, stagesAt (g.readers.set n (.reading map next)) other k = some found →
      other < g.providers.maps.length := by
  intro other k found hfound
  by_cases heq : map = other
  · exact heq ▸ hmap
  · rw [stagesAt_set_of_ne (hnone other heq) heq] at hfound
    exact h.readers other k found hfound

/-- A reader turns to its map. -/
lemma turn (h : Sound g) (hn : g.readers[n]? = some (.asking provider))
    (hmap : map < g.providers.maps.length) :
    Sound { g with readers := g.readers.set n (.reading map .arrived) } := by
  obtain ⟨hlt, -⟩ := List.getElem?_eq_some_iff.1 hn
  have hnone := stagesAt_of_asking hn
  refine ⟨?_, h.readers_set hmap fun other _ => hnone other, h.calls, h.shared⟩
  intro other once honce
  change Orderly once (g.callsOn other) (stagesAt (g.readers.set n (.reading map .arrived)) other)
  by_cases heq : map = other
  · subst heq
    rw [stagesAt_set_self hlt]
    exact (h.maps map once honce).arrive (hnone map)
  · rw [stagesAt_set_of_ne (hnone other) heq]
    exact h.maps other once honce

/-- A reader takes a step at its map. -/
lemma step (h : Sound g) (hn : g.readers[n]? = some (.reading map stage))
    (honce : g.providers.maps[map]? = some once) : Sound (g.read n) := by
  obtain ⟨hlt, -⟩ := List.getElem?_eq_some_iff.1 hn
  obtain ⟨hmap, -⟩ := List.getElem?_eq_some_iff.1 honce
  have hturned := stagesAt_eq_some_iff.2 hn
  have hstep := step_step n once (g.callsOn map) stage g.workspace
  rw [read_of_reading hn honce]
  set taken := Once.step stage once g.workspace with htaken
  set called := ((called? stage taken.1).map
    (fun outcome => (⟨n, map, outcome⟩ : Call))).toList with hcalled
  have hself : (g.providers.maps.set map taken.2.1)[map]? = some taken.2.1 :=
    List.getElem?_set_self hmap
  have hother : ∀ other, map ≠ other →
      (g.providers.maps.set map taken.2.1)[other]? = g.providers.maps[other]? :=
    fun other hne => List.getElem?_set_ne hne
  have hbuild : ∀ (other : Nat) (found : Once AnnotationMap),
      g.providers.maps[other]? = some found →
        ∃ found' : Once AnnotationMap, (g.providers.maps.set map taken.2.1)[other]? = some found' ∧
          found'.build = found.build := by
    intro other found hfound
    by_cases heq : map = other
    · subst heq
      obtain rfl := Option.some.inj (honce.symm.trans hfound)
      exact ⟨taken.2.1, hself, hstep.build_eq⟩
    · exact ⟨found, (hother other heq).trans hfound, rfl⟩
  refine ⟨?_, ?_, ?_, ?_⟩
  · intro other found hfound
    change Orderly found (callsOf (g.calls ++ called) other)
      (stagesAt (g.readers.set n (.reading map taken.1)) other)
    change (g.providers.maps.set map taken.2.1)[other]? = some found at hfound
    rw [callsOf_append, hcalled, callsOf_called]
    by_cases heq : map = other
    · subst heq
      obtain rfl := Option.some.inj (hself.symm.trans hfound)
      rw [if_pos rfl, stagesAt_set_self hlt]
      exact (h.maps map once honce).step hturned hstep
    · rw [hother other heq] at hfound
      rw [if_neg heq, List.append_nil, stagesAt_set_of_ne (stagesAt_of_reading hn heq) heq]
      exact h.maps other found hfound
  · intro other k found hfound
    change other < (g.providers.maps.set map taken.2.1).length
    rw [List.length_set]
    exact h.readers_set hmap (fun other => stagesAt_of_reading hn) other k found hfound
  · intro call hmem
    change ∃ found w, (g.providers.maps.set map taken.2.1)[call.map]? = some found ∧
      (found.build w).1 = call.outcome
    obtain hold | hnew := List.mem_append.1 hmem
    · obtain ⟨found, w, hfound, houtcome⟩ := h.calls call hold
      obtain ⟨found', hfound', hsame⟩ := hbuild call.map found hfound
      exact ⟨found', w, hfound', by rw [hsame, houtcome]⟩
    · rw [hcalled, Option.mem_toList, Option.map_eq_some_iff] at hnew
      obtain ⟨outcome, houtcome, rfl⟩ := hnew
      exact ⟨taken.2.1, g.workspace, hself, by rw [hstep.build_eq, called?_step houtcome]⟩
  · obtain ⟨found, hfound, hinstalled⟩ := h.shared
    obtain ⟨found', hfound', hsame⟩ := hbuild g.providers.shared found hfound
    exact ⟨found', hfound', by rw [hsame, hinstalled]⟩

/-- A map that is set up is one that nobody has turned to. -/
lemma callsOn_length (h : Sound g) : g.callsOn g.providers.maps.length = [] := by
  apply List.filterMap_eq_nil_iff.2
  intro call hmem
  obtain ⟨once, -, honce, -⟩ := h.calls call hmem
  obtain ⟨hlt, -⟩ := List.getElem?_eq_some_iff.1 honce
  exact if_neg (Nat.ne_of_lt hlt)

lemma stageAt_length (h : Sound g) : g.stageAt g.providers.maps.length = fun _ => none := by
  funext n
  cases hstage : g.stageAt g.providers.maps.length n with
  | none => rfl
  | some stage => exact absurd (h.readers _ n stage hstage) (Nat.lt_irrefl _)

/-- A map is set up, and may be shared by the program from now on. -/
lemma append (h : Sound g) (build : Job AnnotationMap)
    (hmaps : made.providers.maps = g.providers.maps ++ [.ofJob build])
    (hcalls : made.calls = g.calls) (hreaders : made.readers = g.readers)
    (hshared : ∃ once, made.providers.maps[made.providers.shared]? = some once ∧
      made.installed.getLast? = some once.build) : Sound made := by
  have hcallsOn := callsOn_congr hcalls
  have hstageAt := stageAt_congr hreaders
  have hold : ∀ (map : Nat) (once : Once AnnotationMap), g.providers.maps[map]? = some once →
      made.providers.maps[map]? = some once := by
    intro map once honce
    obtain ⟨hlt, -⟩ := List.getElem?_eq_some_iff.1 honce
    rw [hmaps, List.getElem?_append_left hlt, honce]
  refine ⟨?_, ?_, ?_, hshared⟩
  · intro map once honce
    rw [hcallsOn, hstageAt]
    rw [hmaps, List.getElem?_append] at honce
    split at honce
    · exact h.maps map once honce
    · rename_i hge
      obtain ⟨hzero, hone⟩ := List.getElem?_eq_some_iff.1 honce
      rw [List.length_singleton] at hzero
      obtain rfl : map = g.providers.maps.length := by omega
      rw [h.callsOn_length, h.stageAt_length]
      rw [List.getElem_singleton] at hone
      rw [← hone]
      exact Orderly.ofJob build
  · intro map n stage hstage
    rw [hstageAt] at hstage
    rw [hmaps, List.length_append]
    exact Nat.lt_add_right 1 (h.readers map n stage hstage)
  · intro call hmem
    rw [hcalls] at hmem
    obtain ⟨once, w, honce, hbuild⟩ := h.calls call hmem
    exact ⟨once, w, hold call.map once honce, hbuild⟩

lemma read (h : Sound g) (n : Nat) : Sound (g.read n) := by
  obtain hsame | ⟨provider, hn, hmap⟩ | ⟨map, stage, once, hn, honce⟩ := read_cases g n
  · rw [hsame]
    exact h
  · rw [read_of_asking hn hmap]
    exact h.turn hn hmap
  · exact h.step hn honce

lemma install (h : Sound g) (n : Nat) : Sound (g.install n) := by
  rw [Gathering.install]
  split
  · split
    · exact h
    · exact h.aside rfl rfl rfl fun _ => rfl
  · rename_i build hbuild
    refine h.append build rfl rfl rfl ⟨.ofJob build, ?_, List.getLast?_concat⟩
    exact List.getElem?_concat_length
  · exact h.aside rfl rfl rfl fun _ => rfl
  · exact h

/-- Whatever happens next, all stays in order. -/
lemma after (h : Sound g) (move : Move) : Sound (g.after move) := by
  cases move with
  | ask provider =>
    refine h.aside rfl rfl rfl fun map => ?_
    exact stagesAt_append_asking g.readers provider map
  | read n => exact h.read n
  | add build =>
    obtain ⟨once, honce, hinstalled⟩ := h.shared
    obtain ⟨hlt, -⟩ := List.getElem?_eq_some_iff.1 honce
    refine h.append build rfl rfl rfl ⟨once, ?_, hinstalled⟩
    exact (List.getElem?_append_left hlt).trans honce
  | replace build => exact h.aside rfl rfl rfl fun _ => rfl
  | install n => exact h.install n
  | edit w => exact h.aside rfl rfl rfl fun _ => rfl

lemma run (h : Sound g) (moves : List Move) : Sound (g.run moves) := by
  induction moves generalizing g with
  | nil => exact h
  | cons move rest ih => exact ih (h.after move)

end Sound

end Nullability.Gathering
