import Nullability.Proofs.Provider.Soundness

/-!
# Maps are built once

However readers and replacements are interleaved, a map is built by one reader at a time and not
again after a final outcome, and everybody finds that outcome; who asks the program after a
replacement finds what the new job has made (`builds_once`).
-/

namespace Nullability.Gathering

open Once

variable {g : Gathering} {n k map caller : Nat} {stage next : Stage AnnotationMap}
  {once made : Once AnnotationMap} {outcome : Except Failure AnnotationMap}
  {found : Option (Except Failure AnnotationMap)} {provider : Provider} {moves : List Move}

lemma run_append (g : Gathering) (moves more : List Move) :
    g.run (moves ++ more) = (g.run moves).run more :=
  List.foldl_append

/-! ## Calls are not forgotten -/

lemma exists_calls_after (g : Gathering) (move : Move) :
    ∃ more, (g.after move).calls = g.calls ++ more := by
  have hsame : ∃ more, g.calls = g.calls ++ more := ⟨[], (List.append_nil _).symm⟩
  cases move with
  | read n =>
    rw [after]
    obtain hnone | ⟨provider, hn, hmap⟩ | ⟨map, stage, once, hn, honce⟩ := read_cases g n
    · rw [hnone]
      exact hsame
    · rw [read_of_asking hn hmap]
      exact hsame
    · rw [read_of_reading hn honce]
      exact ⟨_, rfl⟩
  | install n =>
    rw [after, install]
    split
    · split
      · exact hsame
      · exact hsame
    · exact hsame
    · exact hsame
    · exact hsame
  | _ => exact hsame

lemma exists_calls_run (g : Gathering) (moves : List Move) :
    ∃ more, (g.run moves).calls = g.calls ++ more := by
  induction moves generalizing g with
  | nil => exact ⟨[], (List.append_nil _).symm⟩
  | cons move rest ih =>
    obtain ⟨more, hmore⟩ := exists_calls_after g move
    obtain ⟨later, hlater⟩ := ih (g.after move)
    refine ⟨more ++ later, ?_⟩
    change ((g.after move).run rest).calls = _
    rw [hlater, hmore, List.append_assoc]

lemma exists_callsOn_run (g : Gathering) (moves : List Move) (map : Nat) :
    ∃ more, (g.run moves).callsOn map = g.callsOn map ++ more := by
  obtain ⟨more, hmore⟩ := exists_calls_run g moves
  refine ⟨callsOf more map, ?_⟩
  rw [callsOn, callsOn, hmore, callsOf_append]

lemma mem_callsOn_iff :
    (caller, outcome) ∈ g.callsOn map ↔ ⟨caller, map, outcome⟩ ∈ g.calls := by
  rw [callsOn, callsOf, List.mem_filterMap]
  constructor
  · rintro ⟨call, hmem, hcall⟩
    split at hcall
    · rename_i heq
      obtain ⟨rfl, rfl⟩ := Prod.mk.inj (Option.some.inj hcall)
      rw [← heq]
      exact hmem
    · cases hcall
  · intro hmem
    exact ⟨_, hmem, if_pos rfl⟩

/-! ## The outcome that all find -/

namespace Sound

lemma orderly_of_call (h : Sound g) (hmem : (caller, outcome) ∈ g.callsOn map) :
    ∃ once, Orderly once (g.callsOn map) (g.stageAt map) := by
  obtain ⟨once, -, honce, -⟩ := h.calls _ (mem_callsOn_iff.1 hmem)
  exact ⟨once, h.maps map once honce⟩

lemma orderly_of_stage (h : Sound g) (hn : g.stageAt map n = some stage) :
    ∃ once, g.providers.maps[map]? = some once ∧
      Orderly once (g.callsOn map) (g.stageAt map) := by
  have honce := List.getElem?_eq_getElem (h.readers map n stage hn)
  exact ⟨_, honce, h.maps map _ honce⟩

/-- Two readers that are building the same map are one reader. -/
lemma eq_of_building (h : Sound g) (hn : g.stageAt map n = some .building)
    (hk : g.stageAt map k = some .building) : n = k := by
  obtain ⟨once, -, horderly⟩ := h.orderly_of_stage hn
  refine horderly.guarded.alone n k ?_ ?_
  · rw [isHeldBy_of_stage hn]
    rfl
  · rw [isHeldBy_of_stage hk]
    rfl

/-- After a final outcome, the calls remain as they are. -/
lemma callsOn_run_of_final (h : Sound g) (hmem : (caller, outcome) ∈ g.callsOn map)
    (hfinal : isFinal outcome = true) (moves : List Move) :
    (g.run moves).callsOn map = g.callsOn map := by
  obtain ⟨more, hmore⟩ := exists_callsOn_run g moves map
  have hlater : (caller, outcome) ∈ (g.run moves).callsOn map := by
    rw [hmore]
    exact List.mem_append_left more hmem
  obtain ⟨once, horderly⟩ := (h.run moves).orderly_of_call hlater
  cases more with
  | nil => rw [hmore, List.append_nil]
  | cons call rest =>
    -- Another call would have come after the last one.
    have hearlier := horderly.earlier
    rw [hmore, List.dropLast_append_of_ne_nil (List.cons_ne_nil call rest)] at hearlier
    exact absurd (List.mem_append_left _ hmem) (hearlier.not_mem hfinal)

/-- A reader that has come by an outcome while the last one was final was interrupted before, and has
its answer. -/
lemma answered_of_stopped (h : Sound g) (hmem : (caller, outcome) ∈ g.callsOn map)
    (hfinal : isFinal outcome = true) {other : Except Failure AnnotationMap}
    (hother : (n, other) ∈ g.callsOn map) (hinterrupted : isFinal other = false) :
    g.stageAt map n = some (.answered (some other)) := by
  obtain ⟨once, horderly⟩ := h.orderly_of_call hmem
  obtain ⟨stage, hstage, hstopped⟩ := horderly.stopped n other hother hinterrupted
  have hfits := horderly.stages n stage hstage
  cases stage with
  | attempted found =>
    obtain rfl := Option.some.inj hstopped
    obtain ⟨-, hlast⟩ : once.isBuilt = false ∧ (g.callsOn map).getLast? = some (n, found) := hfits
    rw [horderly.getLast?_of_final hmem hfinal] at hlast
    obtain ⟨-, rfl⟩ := Prod.mk.inj (Option.some.inj hlast)
    rw [hfinal] at hinterrupted
    cases hinterrupted
  | abandoning found =>
    obtain ⟨-, hcalls, -⟩ := hfits
    exact absurd hmem (hcalls.not_mem hfinal)
  | answered found =>
    obtain rfl : found = some other := hstopped
    exact hstage
  | _ => cases hstopped

/-- Who gets an answer after a final outcome gets that one. -/
lemma found_of_final (h : Sound g) (hmem : (caller, outcome) ∈ g.callsOn map)
    (hfinal : isFinal outcome = true) (hopen : ∀ found, g.stageAt map n ≠ some (.answered found))
    (hfound : (g.run moves).stageAt map n = some (.answered found)) : found = some outcome := by
  have hcallsOn := h.callsOn_run_of_final hmem hfinal moves
  obtain ⟨later, -, hlater⟩ := (h.run moves).orderly_of_stage hfound
  rw [hcallsOn] at hlater
  obtain ⟨other, rfl, k, hother, hown⟩ := hlater.exists_call_of_answered hfound
  cases hkind : isFinal other with
  | true =>
    have hlast := hlater.getLast?_of_final hother hkind
    rw [hlater.getLast?_of_final hmem hfinal] at hlast
    obtain ⟨-, rfl⟩ := Prod.mk.inj (Option.some.inj hlast)
    rfl
  | false =>
    obtain rfl := hown hkind
    exact absurd (h.answered_of_stopped hmem hfinal hother hkind) (hopen _)

/-- An interruption is heard by the one who was interrupted. -/
lemma found_of_interrupted (h : Sound g) (hmem : (n, outcome) ∈ g.callsOn map)
    (hinterrupted : isFinal outcome = false) (hfound : g.stageAt map n = some (.answered found)) :
    found = some outcome := by
  obtain ⟨once, horderly⟩ := h.orderly_of_call hmem
  exact horderly.outcome?_of_stage hfound hmem hinterrupted

end Sound

/-! ## Readers go on -/

/-- What the next step of a reader at a map does to it, to the map and to the calls. -/
lemma read_self {w : Workspace} (hn : g.readers[n]? = some (.reading map stage))
    (honce : g.providers.maps[map]? = some once)
    (hstep : Once.step stage once g.workspace = (next, made, w)) :
    (g.read n).readers[n]? = some (.reading map next) ∧
      (g.read n).providers.maps[map]? = some made ∧
      (g.read n).workspace = w ∧
      (g.read n).callsOn map =
        g.callsOn map ++ ((called? stage next).map (fun outcome => (n, outcome))).toList := by
  obtain ⟨hlt, -⟩ := List.getElem?_eq_some_iff.1 hn
  obtain ⟨hmap, -⟩ := List.getElem?_eq_some_iff.1 honce
  rw [read_of_reading hn honce, hstep]
  refine ⟨List.getElem?_set_self hlt, List.getElem?_set_self hmap, rfl, ?_⟩
  rw [callsOn, callsOf_append, callsOf_called, if_pos rfl]
  rfl

/-- The others stay where they are. -/
lemma readers_read_of_ne (g : Gathering) (hne : n ≠ k) :
    (g.read n).readers[k]? = g.readers[k]? := by
  obtain hsame | ⟨provider, hn, hmap⟩ | ⟨map, stage, once, hn, honce⟩ := read_cases g n
  · rw [hsame]
  · rw [read_of_asking hn hmap]
    exact List.getElem?_set_ne hne
  · rw [read_of_reading hn honce]
    exact List.getElem?_set_ne hne

/-- A reader that is not kept by the lock comes to its end, and leaves the lock free. -/
lemma exists_answered_alone (hn : g.readers[n]? = some (.reading map stage))
    (honce : g.providers.maps[map]? = some once)
    (hfree : once.isLocked = false ∨ stage.isInside = true) :
    ∃ steps found left, let later := g.run (List.replicate steps (.read n))
      later.readers[n]? = some (.reading map (.answered found)) ∧
      later.providers.maps[map]? = some left ∧ left.isLocked = false ∧
      ∀ k, n ≠ k → later.readers[k]? = g.readers[k]? := by
  induction hremaining : stage.remaining using Nat.strongRecOn generalizing g stage once with
  | ind remaining ih =>
    cases hopen : stage.isAnswered with
    | true =>
      cases stage with
      | answered found =>
        exact ⟨0, found, once, hn, honce, hfree.resolve_right Bool.false_ne_true, fun _ _ => rfl⟩
      | _ => cases hopen
    | false =>
      obtain ⟨hreader, hmade, -, -⟩ := read_self hn honce rfl
      obtain ⟨hless, hnext⟩ :=
        (step_step n once (g.callsOn map) stage g.workspace).remaining_lt hfree hopen
      obtain ⟨steps, found, left, hfound, hleft, hunlocked, hothers⟩ :=
        ih _ (hremaining ▸ hless) hreader hmade hnext rfl
      refine ⟨steps + 1, found, left, hfound, hleft, hunlocked, fun k hne => ?_⟩
      exact (hothers k hne).trans (readers_read_of_ne g hne)

/-- No reader is stuck: it gets its answer as soon as the reader inside and it itself go on. -/
lemma Sound.exists_answered (h : Sound g) (hn : g.stageAt map n = some stage) :
    ∃ (readers : List Nat) (found : Option (Except Failure AnnotationMap)),
      (g.run (readers.map .read)).stageAt map n = some (.answered found) := by
  obtain ⟨once, honce, horderly⟩ := h.orderly_of_stage hn
  have hreader := stagesAt_eq_some_iff.1 hn
  cases hlocked : once.isLocked with
  | false =>
    obtain ⟨steps, found, -, hfound, -, -, -⟩ :=
      exists_answered_alone hreader honce (.inl hlocked)
    refine ⟨List.replicate steps n, found, ?_⟩
    rw [List.map_replicate]
    exact stagesAt_eq_some_iff.2 hfound
  | true =>
    obtain ⟨k, hheld⟩ := horderly.guarded.locked.1 hlocked
    obtain ⟨inside, hk, hinside⟩ := exists_stage_of_isHeldBy hheld
    obtain ⟨steps, found, left, hfound, hleft, hunlocked, hothers⟩ :=
      exists_answered_alone (stagesAt_eq_some_iff.1 hk) honce (.inr hinside)
    by_cases hne : k = n
    · subst hne
      refine ⟨List.replicate steps k, found, ?_⟩
      rw [List.map_replicate]
      exact stagesAt_eq_some_iff.2 hfound
    · rw [← hothers n hne] at hreader
      obtain ⟨more, answer, -, hanswer, -, -, -⟩ :=
        exists_answered_alone hreader hleft (.inl hunlocked)
      refine ⟨List.replicate steps k ++ List.replicate more n, answer, ?_⟩
      rw [List.map_append, List.map_replicate, List.map_replicate, run_append]
      exact stagesAt_eq_some_iff.2 hanswer

/-- A reader that waits while the lock is free, and finds the map unbuilt, calls the job. -/
lemma callsOn_of_waiting (hn : g.readers[n]? = some (.reading map .waiting))
    (honce : g.providers.maps[map]? = some once) (hbuilt : once.isBuilt = false)
    (hfree : once.isLocked = false) :
    (g.run (List.replicate 3 (.read n))).callsOn map =
      g.callsOn map ++ [(n, (once.build g.workspace).1)] := by
  have henter : step .waiting once g.workspace =
      (.holding, { once with isLocked := true }, g.workspace) := by
    simp [step, hfree]
  obtain ⟨hn₁, honce₁, hw₁, hcalls₁⟩ := read_self hn honce henter
  have hbegin : step .holding { once with isLocked := true } (g.read n).workspace =
      (.building, { once with isLocked := true }, g.workspace) := by
    simp [step, hbuilt, hw₁]
  obtain ⟨hn₂, honce₂, hw₂, hcalls₂⟩ := read_self hn₁ honce₁ hbegin
  obtain ⟨-, -, -, hcalls₃⟩ := read_self hn₂ honce₂ rfl
  change (((g.read n).read n).read n).callsOn map = _
  rw [hcalls₃, hcalls₂, hcalls₁, hw₂]
  simp [called?]

/-- After interruptions only, the next reader calls the job, if it comes or waits while nobody is
inside. -/
lemma Sound.exists_call_of_interrupted (h : Sound g) (honce : g.providers.maps[map]? = some once)
    (hcalls : Interrupted (g.callsOn map))
    (houtside : ∀ k stage, g.stageAt map k = some stage → stage.isInside = false)
    (hn : g.stageAt map n = some .arrived ∨ g.stageAt map n = some .waiting) :
    ∃ steps, (g.run (List.replicate steps (.read n))).callsOn map =
      g.callsOn map ++ [(n, (once.build g.workspace).1)] := by
  have horderly := h.maps map once honce
  have hbuilt := horderly.isBuilt_eq_false hcalls
  have hfree := horderly.guarded.isLocked_eq_false houtside
  obtain harrived | hwaiting := hn
  · have hmissed : Once.step .arrived once g.workspace = (.waiting, once, g.workspace) := by
      simp [Once.step, hbuilt]
    obtain ⟨hwaiting, hsame, hw, hcallsOn⟩ :=
      read_self (stagesAt_eq_some_iff.1 harrived) honce hmissed
    have hcalled := callsOn_of_waiting hwaiting hsame hbuilt hfree
    rw [hw, hcallsOn] at hcalled
    refine ⟨4, hcalled.trans ?_⟩
    simp [called?]
  · exact ⟨3, callsOn_of_waiting (stagesAt_eq_some_iff.1 hwaiting) honce hbuilt hfree⟩

/-! ## The map that the program shares -/

lemma frame_read (g : Gathering) (n : Nat) :
    (g.read n).replacements = g.replacements ∧
      (g.read n).providers.shared = g.providers.shared ∧ (g.read n).installed = g.installed := by
  obtain hsame | ⟨provider, hn, hmap⟩ | ⟨map, stage, once, hn, honce⟩ := read_cases g n
  · rw [hsame]
    exact ⟨rfl, rfl, rfl⟩
  · rw [read_of_asking hn hmap]
    exact ⟨rfl, rfl, rfl⟩
  · rw [read_of_reading hn honce]
    exact ⟨rfl, rfl, rfl⟩

/-- No replacement is under way. -/
def IsSettled (g : Gathering) : Prop :=
  ∀ replacement ∈ g.replacements, replacement.stage = .done

/-- No replacement begins. -/
def KeepShared (moves : List Move) : Prop :=
  ∀ build, Move.replace build ∉ moves

/-- Since `g`, no map was put in place, and a reader has asked the program. -/
structure Since (g : Gathering) (k : Nat) (later : Gathering) : Prop where
  settled : later.IsSettled
  shared : later.providers.shared = g.providers.shared
  installed : later.installed = g.installed
  reader : later.readers[k]? = some (.asking .program) ∨
    ∃ stage, later.readers[k]? = some (.reading g.providers.shared stage)

namespace Since

variable {later : Gathering}

lemma ask (h : g.IsSettled) : Since g g.readers.length (g.after (.ask .program)) :=
  ⟨h, rfl, rfl, .inl List.getElem?_concat_length⟩

lemma read (h : Since g k later) (n : Nat) : Since g k (later.read n) := by
  obtain ⟨hreplacements, hshared, hinstalled⟩ := frame_read later n
  have hsettled : (later.read n).IsSettled := by
    rw [IsSettled, hreplacements]
    exact h.settled
  refine ⟨hsettled, hshared.trans h.shared, hinstalled.trans h.installed, ?_⟩
  by_cases hne : n = k
  · subst hne
    obtain hsame | ⟨provider, hn, hmap⟩ | ⟨map, stage, once, hn, honce⟩ := read_cases later n
    · rw [hsame]
      exact h.reader
    · obtain ⟨hlt, -⟩ := List.getElem?_eq_some_iff.1 hn
      rw [read_of_asking hn hmap]
      refine .inr ⟨.arrived, (List.getElem?_set_self hlt).trans ?_⟩
      obtain hasking | ⟨stage, hreading⟩ := h.reader
      · obtain rfl := Reader.asking.inj (Option.some.inj (hn.symm.trans hasking))
        rw [← h.shared]
        rfl
      · rw [hn] at hreading
        cases hreading
    · obtain ⟨hlt, -⟩ := List.getElem?_eq_some_iff.1 hn
      rw [read_of_reading hn honce]
      obtain hasking | ⟨stage', hreading⟩ := h.reader
      · rw [hn] at hasking
        cases hasking
      · obtain ⟨rfl, -⟩ := Reader.reading.inj (Option.some.inj (hn.symm.trans hreading))
        exact .inr ⟨_, List.getElem?_set_self hlt⟩
  · rw [readers_read_of_ne later hne]
    exact h.reader

/-- All replacements have come to their end, so none of them takes a step. -/
lemma install_eq (h : Since g k later) (n : Nat) : later.install n = later := by
  rw [Gathering.install]
  cases hn : later.replacements[n]? with
  | none => rfl
  | some replacement =>
    obtain ⟨build, stage⟩ := replacement
    obtain rfl : stage = .done := h.settled _ (List.mem_of_getElem? hn)
    rfl

lemma after (h : Since g k later) {move : Move} (hkeeps : ∀ build, .replace build ≠ move) :
    Since g k (later.after move) := by
  cases move with
  | ask provider =>
    have hlt : k < later.readers.length := by
      obtain hasking | ⟨stage, hreading⟩ := h.reader
      · exact (List.getElem?_eq_some_iff.1 hasking).1
      · exact (List.getElem?_eq_some_iff.1 hreading).1
    refine ⟨h.settled, h.shared, h.installed, ?_⟩
    change (later.readers ++ [.asking provider])[k]? = _ ∨
      ∃ stage, (later.readers ++ [.asking provider])[k]? = _
    rw [List.getElem?_append_left hlt]
    exact h.reader
  | read n => exact h.read n
  | add build => exact ⟨h.settled, h.shared, h.installed, h.reader⟩
  | replace build => exact absurd rfl (hkeeps build)
  | install n =>
    rw [Gathering.after, h.install_eq n]
    exact h
  | edit w => exact ⟨h.settled, h.shared, h.installed, h.reader⟩

lemma run (h : Since g k later) (hkeeps : KeepShared moves) : Since g k (later.run moves) := by
  induction moves generalizing later with
  | nil => exact h
  | cons move rest ih =>
    refine ih (h.after fun build heq => hkeeps build ?_) fun build hmem => hkeeps build ?_
    · exact heq ▸ List.mem_cons_self
    · exact List.mem_cons_of_mem move hmem

end Since

/-- Such a reader finds the outcome of a call at the shared map, whose job was put in place last. -/
lemma Sound.found_of_since {later : Gathering} (h : Sound later) (hsince : Since g k later)
    (hfound : later.stageAt map k = some (.answered found)) :
    map = g.providers.shared ∧ ∃ outcome caller, found = some outcome ∧
      (caller, outcome) ∈ later.callsOn map ∧ (isFinal outcome = false → caller = k) ∧
      ∃ once w, later.providers.maps[map]? = some once ∧
        g.installed.getLast? = some once.build ∧ (once.build w).1 = outcome := by
  have hreader := stagesAt_eq_some_iff.1 hfound
  obtain hasking | ⟨stage, hreading⟩ := hsince.reader
  · rw [hasking] at hreader
    cases hreader
  · rw [hreading] at hreader
    obtain ⟨rfl, -⟩ := Reader.reading.inj (Option.some.inj hreader)
    obtain ⟨once, -, horderly⟩ := h.orderly_of_stage hfound
    obtain ⟨outcome, rfl, caller, hmem, hown⟩ := horderly.exists_call_of_answered hfound
    obtain ⟨called, w, hcalled, hbuild⟩ := h.calls _ (mem_callsOn_iff.1 hmem)
    obtain ⟨shared, hshared, hlast⟩ := h.shared
    rw [hsince.shared] at hshared
    rw [hsince.installed] at hlast
    obtain rfl := Option.some.inj (hcalled.symm.trans hshared)
    exact ⟨rfl, outcome, caller, rfl, hmem, hown, called, w, hcalled, hlast, hbuild⟩

/-- Who has asked the program can get an answer from the map that is shared. -/
lemma Sound.exists_answered_of_since {later : Gathering} (h : Sound later)
    (hsince : Since g k later) :
    ∃ (readers : List Nat) (found : Option (Except Failure AnnotationMap)),
      (later.run (readers.map .read)).stageAt g.providers.shared k = some (.answered found) := by
  obtain hasking | ⟨stage, hreading⟩ := hsince.reader
  · obtain ⟨hlt, -⟩ := List.getElem?_eq_some_iff.1 hasking
    obtain ⟨once, honce, -⟩ := h.shared
    obtain ⟨hmap, -⟩ := List.getElem?_eq_some_iff.1 honce
    have hturned : (later.read k).stageAt g.providers.shared k = some .arrived := by
      rw [stageAt, stagesAt_eq_some_iff, read_of_asking hasking hmap, ← hsince.shared]
      exact List.getElem?_set_self hlt
    obtain ⟨readers, found, hfound⟩ := (h.read k).exists_answered hturned
    exact ⟨k :: readers, found, hfound⟩
  · exact h.exists_answered (stagesAt_eq_some_iff.2 hreading)

/-! ## What is promised -/

/-- What readers and those who replace the shared map may rely on at any time. -/
structure BuildsOnce (g : Gathering) : Prop where
  /-- One reader at a time is building a map. -/
  alone : ∀ map n k, g.stageAt map n = some .building → g.stageAt map k = some .building → n = k
  /-- After a value or a failure nobody builds again, and who gets an answer from then on gets that
  one. -/
  final : ∀ map caller outcome, (caller, outcome) ∈ g.callsOn map → isFinal outcome = true →
    ∀ moves, (g.run moves).callsOn map = g.callsOn map ∧
      ∀ n, (g.run moves).stageAt map n ≠ some .building ∧
        ∀ found, (g.run moves).stageAt map n = some (.answered found) →
          (∀ earlier, g.stageAt map n ≠ some (.answered earlier)) → found = some outcome
  /-- Who has an answer has the outcome of a call, and never an interruption of somebody else. -/
  answers : ∀ map n found, g.stageAt map n = some (.answered found) →
    ∃ outcome, found = some outcome ∧ ∃ caller, (caller, outcome) ∈ g.callsOn map ∧
      (isFinal outcome = false → caller = n)
  /-- Who was interrupted hears of it. -/
  told : ∀ map n outcome, (n, outcome) ∈ g.callsOn map → isFinal outcome = false →
    ∀ found, g.stageAt map n = some (.answered found) → found = some outcome
  /-- After interruptions only, a map is still to be built, and the next reader calls its job. -/
  unbuilt : ∀ map once, g.providers.maps[map]? = some once → Interrupted (g.callsOn map) →
    once.isBuilt = false ∧
      ((∀ k stage, g.stageAt map k = some stage → stage.isInside = false) →
        ∀ n, g.stageAt map n = some .arrived ∨ g.stageAt map n = some .waiting →
          ∃ steps, (g.run (List.replicate steps (.read n))).callsOn map =
            g.callsOn map ++ [(n, (once.build g.workspace).1)])
  /-- Nobody is stuck: an answer is a matter of some more steps of readers. -/
  unstuck : ∀ map n stage, g.stageAt map n = some stage →
    ∃ (readers : List Nat) (found : Option (Except Failure AnnotationMap)),
      (g.run (readers.map .read)).stageAt map n = some (.answered found)
  /-- If all replacements are done and none begins, who asks the program now finds the outcome of a
  call of the job that was put in place last, whatever goes on at replaced maps. -/
  newest : g.IsSettled → ∀ moves, KeepShared moves →
    let later := g.run (.ask .program :: moves)
    (∀ map found, later.stageAt map g.readers.length = some (.answered found) →
      map = g.providers.shared ∧ ∃ outcome caller, found = some outcome ∧
        (caller, outcome) ∈ later.callsOn map ∧
        (isFinal outcome = false → caller = g.readers.length) ∧
        ∃ once w, later.providers.maps[map]? = some once ∧
          g.installed.getLast? = some once.build ∧ (once.build w).1 = outcome) ∧
    ∃ (readers : List Nat) (found : Option (Except Failure AnnotationMap)),
      (later.run (readers.map .read)).stageAt g.providers.shared g.readers.length =
        some (.answered found)

/-- Maps are built once, in whatever order steps are taken. -/
theorem builds_once (build : Job AnnotationMap) (w : Workspace) (moves : List Move) :
    BuildsOnce ((start build w).run moves) := by
  have hsound : Sound ((start build w).run moves) := (Sound.start build w).run moves
  generalize (start build w).run moves = g at hsound
  refine ⟨?_, ?_, ?_, ?_, ?_, ?_, ?_⟩
  · intro map n k hn hk
    exact hsound.eq_of_building hn hk
  · intro map caller outcome hmem hfinal moves
    have hcallsOn := hsound.callsOn_run_of_final hmem hfinal moves
    refine ⟨hcallsOn, fun n => ⟨?_, ?_⟩⟩
    · rw [← hcallsOn] at hmem
      obtain ⟨once, horderly⟩ := (hsound.run moves).orderly_of_call hmem
      exact horderly.ne_building_of_final hmem hfinal n
    · intro found hfound hopen
      exact hsound.found_of_final hmem hfinal hopen hfound
  · intro map n found hfound
    obtain ⟨once, -, horderly⟩ := hsound.orderly_of_stage hfound
    exact horderly.exists_call_of_answered hfound
  · intro map n outcome hmem hinterrupted found hfound
    exact hsound.found_of_interrupted hmem hinterrupted hfound
  · intro map once honce hcalls
    refine ⟨(hsound.maps map once honce).isBuilt_eq_false hcalls, ?_⟩
    intro houtside n hn
    exact hsound.exists_call_of_interrupted honce hcalls houtside hn
  · intro map n stage hn
    exact hsound.exists_answered hn
  · intro hsettled moves hkeeps later
    have hlater : Sound later := hsound.run _
    have hsince : Since g g.readers.length later := (Since.ask hsettled).run hkeeps
    refine ⟨?_, hlater.exists_answered_of_since hsince⟩
    intro map found hfound
    exact hlater.found_of_since hsince hfound

end Nullability.Gathering
