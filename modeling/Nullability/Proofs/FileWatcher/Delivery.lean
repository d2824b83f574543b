import Mathlib.Data.List.Basic
import Nullability.FileWatcher

/-!
# What a watcher tells

A source goes through a script: it reports batches of notices, somebody may ask the watcher to stop
while there is nothing to report, and in the end the source stops working for some reason or for
none. The one who is told may ask the watcher to stop as well, at any notice. What is told then is
all that a number of first reports notice, in order and without exception, and all reports before a
request to stop are among them. If the source fails before anybody has asked to stop, one more
change is told: that the file is deleted (`told_exactly`).

After a request to stop nothing is told, if the source heeds the request, except for what is left
of a batch in the middle of which the one who is told asks to stop (`silent_iff`).
-/

namespace Nullability.FileWatcher

/-- What a source reports, or what happens while it has nothing to report. -/
inductive Report where
  | batch (notices : List Notice)
  | stopRequest
  deriving DecidableEq

namespace Report

def notices : Report → List Notice
  | batch notices => notices
  | stopRequest => []

def isRequest : Report → Bool
  | batch _ => false
  | stopRequest => true

/-- What a watcher gets to hear. -/
def signal : Report → Signal
  | batch notices => .batch (notices.map Notice.change)
  | stopRequest => .stopRequest

/-- What is left of a report if only files with a name count. -/
def sift (name : String) : Report → Option Report
  | batch notices =>
    match notices.filter (fun notice => notice.change.path.name = name) with
    | [] => none
    | accepted => some (batch accepted)
  | stopRequest => some stopRequest

end Report

/-- All that some reports notice. -/
def noticed (reports : List Report) : List Notice :=
  reports.flatMap Report.notices

/-- What a source does: its reports, and why it fails in the end if it does. -/
structure Script where
  reports : List Report
  failure : Option String

namespace Script

def signals (script : Script) : List Signal :=
  script.reports.map Report.signal ++ (script.failure.map Signal.failure).toList

/-- The same script with nothing but files with a name. -/
def sift (name : String) (script : Script) : Script :=
  ⟨script.reports.filterMap (Report.sift name), script.failure⟩

end Script

/-- Whether somebody has asked to stop once all was told that some reports notice: somebody else, or
the one who is told. -/
def isStopRequested (asks : Nat → Bool) (reports : List Report) : Bool :=
  reports.any Report.isRequest || (List.range (noticed reports).length).any asks

/-- What is told at the end of a script: that the file is deleted, if the source fails and nobody
has asked to stop. -/
def farewell (path : Path) (asks : Nat → Bool) (script : Script) : List FileChange :=
  if script.failure.isSome && !isStopRequested asks script.reports then
    [⟨.deleted, path, none⟩]
  else []

/-- Whether a script is heard up to a report, and told accordingly. -/
structure IsTold (path : Path) (asks : Nat → Bool) (script : Script) (heard : Nat)
    (told : List FileChange) : Prop where
  /-- What is reported before a request to stop is heard. -/
  before : ∀ k < script.reports.length,
    isStopRequested asks (script.reports.take k) = false → k < heard
  /-- It takes a request to stop that something is not heard. -/
  after : heard < script.reports.length →
    isStopRequested asks (script.reports.take heard) = true
  /-- Whatever is heard is told, one by one and in order. -/
  told_eq : told =
    (noticed (script.reports.take heard)).map Notice.change ++ farewell path asks script

/-! ## Telling -/

section Telling

variable {asks : Nat → Bool} {w : FileWatcher}

lemma tellAll_cons (change : FileChange) (changes : List FileChange) :
    w.tellAll asks (change :: changes) = (w.tell asks change).tellAll asks changes :=
  rfl

lemma told_tellAll (changes : List FileChange) :
    (w.tellAll asks changes).told = w.told ++ changes := by
  induction changes generalizing w with
  | nil => exact (List.append_nil _).symm
  | cons change rest ih =>
    rw [tellAll_cons, ih]
    exact List.append_assoc _ _ _

lemma path_tellAll (changes : List FileChange) : (w.tellAll asks changes).path = w.path := by
  induction changes generalizing w with
  | nil => rfl
  | cons change rest ih => exact ih

/-- A watcher is asked to stop at one of the changes that it tells. -/
lemma isStopped_tellAll (changes : List FileChange) : (w.tellAll asks changes).isStopped =
    (w.isStopped || (List.range changes.length).any (fun i => asks (w.told.length + i))) := by
  induction changes generalizing w with
  | nil => exact (Bool.or_false _).symm
  | cons change rest ih =>
    have hlength : (w.tell asks change).told.length = w.told.length + 1 := List.length_append
    rw [tellAll_cons, ih, hlength, List.length_cons, List.range_succ_eq_map, List.any_cons,
      List.any_map, Nat.add_zero, ← Bool.or_assoc]
    congr 2
    funext i
    rw [Function.comp_apply, Nat.succ_eq_add_one, Nat.add_right_comm, Nat.add_assoc]

end Telling

/-! ## One report after the other -/

section Reports

variable {asks : Nat → Bool} {w : FileWatcher}

/-- The watcher when a report is told. -/
def upon (asks : Nat → Bool) (w : FileWatcher) : Report → FileWatcher
  | .batch notices => w.tellAll asks (notices.map Notice.change)
  | .stopRequest => w.requestStop

/-- Whether a watcher is asked to stop once some further reports are told. -/
def stopsUpon (asks : Nat → Bool) (w : FileWatcher) (reports : List Report) : Bool :=
  w.isStopped || (reports.any Report.isRequest ||
    (List.range (noticed reports).length).any (fun i => asks (w.told.length + i)))

lemma noticed_cons (report : Report) (reports : List Report) :
    noticed (report :: reports) = report.notices ++ noticed reports :=
  List.flatMap_cons

lemma told_upon (report : Report) :
    (upon asks w report).told = w.told ++ report.notices.map Notice.change := by
  cases report with
  | batch notices => exact told_tellAll _
  | stopRequest => exact (List.append_nil _).symm

lemma path_upon (report : Report) : (upon asks w report).path = w.path := by
  cases report with
  | batch notices => exact path_tellAll _
  | stopRequest => rfl

lemma isStopped_upon (report : Report) : (upon asks w report).isStopped =
    (w.isStopped || (report.isRequest ||
      (List.range report.notices.length).any (fun i => asks (w.told.length + i)))) := by
  cases report with
  | batch notices =>
    rw [upon, isStopped_tellAll, List.length_map]
    rfl
  | stopRequest => exact (Bool.or_true _).symm

lemma stopsUpon_nil : stopsUpon asks w [] = w.isStopped :=
  Bool.or_false _

lemma stopsUpon_of_isStopped (h : w.isStopped = true) (reports : List Report) :
    stopsUpon asks w reports = true := by
  rw [stopsUpon, h, Bool.true_or]

/-- Requests are counted report by report. -/
lemma stopsUpon_cons (report : Report) (reports : List Report) :
    stopsUpon asks w (report :: reports) = stopsUpon asks (upon asks w report) reports := by
  have hrange : List.range (noticed (report :: reports)).length =
      List.range report.notices.length ++
        (List.range (noticed reports).length).map (report.notices.length + ·) := by
    rw [noticed_cons, List.length_append]
    exact List.range_add
  rw [stopsUpon, stopsUpon, isStopped_upon, told_upon, hrange, List.any_cons, List.any_append,
    List.any_map, List.length_append, List.length_map]
  simp only [Function.comp_def, Nat.add_assoc]
  generalize w.isStopped = stopped
  generalize report.isRequest = requests
  cases stopped <;> cases requests <;> simp [Bool.or_left_comm]

lemma stopsUpon_ofPath (path : Path) (settings : WatcherSettings) (reports : List Report) :
    stopsUpon asks (ofPath path settings) reports = isStopRequested asks reports := by
  simp [isStopRequested, stopsUpon, ofPath]

/-- A batch with a request to stop pending is the last report that is heard. -/
lemma hear_cons (report : Report) (rest : List Signal) :
    w.hear asks (report.signal :: rest) =
      if report.isRequest = false ∧ (upon asks w report).isStopped = true then upon asks w report
      else (upon asks w report).hear asks rest := by
  cases report with
  | batch notices => simp [Report.signal, Report.isRequest, hear, upon]
  | stopRequest => rfl

/-- A source that fails is bidden farewell, unless somebody has asked to stop. -/
lemma told_hear_failure (failure : Option String) :
    (w.hear asks (failure.map Signal.failure).toList).told = w.told ++
      (if failure.isSome && !w.isStopped then [⟨.deleted, w.path, none⟩] else []) := by
  cases failure with
  | none => exact (List.append_nil _).symm
  | some reason =>
    simp only [Option.map_some, Option.toList_some, hear, giveUp, Option.isSome_some,
      Bool.true_and]
    cases hstopped : w.isStopped with
    | true => simp
    | false => simp [tell]

/-- What is told of a script from any moment on. -/
lemma exists_heard (reports : List Report) (failure : Option String) : ∃ heard,
    (∀ k < reports.length, stopsUpon asks w (reports.take k) = false → k < heard) ∧
    (heard < reports.length → stopsUpon asks w (reports.take heard) = true) ∧
    (w.hear asks (Script.signals ⟨reports, failure⟩)).told =
      w.told ++ ((noticed (reports.take heard)).map Notice.change ++
        (if failure.isSome && !stopsUpon asks w reports then [⟨.deleted, w.path, none⟩]
          else [])) := by
  induction reports generalizing w with
  | nil =>
    refine ⟨0, fun k hk => absurd hk (Nat.not_lt_zero k), fun h => absurd h (Nat.not_lt_zero 0), ?_⟩
    rw [stopsUpon_nil]
    exact told_hear_failure failure
  | cons report rest ih =>
    have hsignals : Script.signals ⟨report :: rest, failure⟩ =
        report.signal :: Script.signals ⟨rest, failure⟩ := rfl
    rw [hsignals, hear_cons, stopsUpon_cons]
    split
    · -- The report is a batch, and it is the last one that is heard.
      rename_i hlast
      refine ⟨1, ?_, ?_, ?_⟩
      · intro k hk hfalse
        cases k with
        | zero => exact Nat.one_pos
        | succ k =>
          rw [List.take_succ_cons, stopsUpon_cons, stopsUpon_of_isStopped hlast.2] at hfalse
          cases hfalse
      · intro _
        rw [List.take_succ_cons, stopsUpon_cons]
        exact stopsUpon_of_isStopped hlast.2 _
      · rw [told_upon, stopsUpon_of_isStopped hlast.2, List.take_succ_cons, noticed_cons]
        simp [noticed]
    · obtain ⟨heard, hbefore, hafter, htold⟩ := @ih (upon asks w report)
      refine ⟨heard + 1, ?_, ?_, ?_⟩
      · intro k hk hfalse
        cases k with
        | zero => exact Nat.succ_pos heard
        | succ k =>
          rw [List.take_succ_cons, stopsUpon_cons] at hfalse
          exact Nat.succ_lt_succ (hbefore k (Nat.lt_of_succ_lt_succ hk) hfalse)
      · intro hlt
        rw [List.take_succ_cons, stopsUpon_cons]
        exact hafter (Nat.lt_of_succ_lt_succ hlt)
      · rw [htold, told_upon, path_upon, List.take_succ_cons, noticed_cons, List.map_append,
          List.append_assoc, List.append_assoc]

/-- Whatever a watcher hears from its start on, it tells accordingly. -/
lemma isTold_hear (path : Path) (settings : WatcherSettings) (asks : Nat → Bool)
    (script : Script) : ∃ heard, IsTold path asks script heard
      ((ofPath path settings).hear asks script.signals).told := by
  obtain ⟨heard, hbefore, hafter, htold⟩ :=
    @exists_heard asks (ofPath path settings) script.reports script.failure
  simp only [stopsUpon_ofPath] at hbefore hafter htold
  exact ⟨heard, hbefore, hafter, htold⟩

end Reports

/-! ## What a watcher accepts -/

section Sifting

variable {path : Path} {settings : WatcherSettings} {script : Script}

lemma sift_signal (report : Report) : (ofPath path settings).sift report.signal =
    (report.sift path.name).map Report.signal := by
  cases report with
  | stopRequest => rfl
  | batch notices =>
    have hfilter : (notices.map Notice.change).filter (ofPath path settings).accepts =
        (notices.filter (fun notice => notice.change.path.name = path.name)).map
          Notice.change := by
      rw [List.filter_map]
      rfl
    rw [Report.signal, sift, hfilter, Report.sift]
    cases notices.filter (fun notice => notice.change.path.name = path.name) <;> rfl

/-- Listening to a source is hearing the script as far as it is accepted. -/
lemma listen_signals (asks : Nat → Bool) : (ofPath path settings).listen asks script.signals =
    (ofPath path settings).hear asks (script.sift path.name).signals := by
  have hreports : (script.reports.map Report.signal).filterMap (ofPath path settings).sift =
      (script.reports.filterMap (Report.sift path.name)).map Report.signal := by
    rw [List.filterMap_map, List.map_filterMap]
    exact List.filterMap_congr fun report _ => sift_signal report
  have hfailure : ((script.failure.map Signal.failure).toList).filterMap
      (ofPath path settings).sift = (script.failure.map Signal.failure).toList := by
    cases script.failure <;> rfl
  rw [listen, Script.signals, List.filterMap_append, hreports, hfailure]
  rfl

lemma name_of_mem_sift {name : String} {whole report : Report} {notice : Notice}
    (h : whole.sift name = some report) (hmem : notice ∈ report.notices) :
    notice.change.path.name = name := by
  cases whole with
  | stopRequest =>
    obtain rfl := Option.some.inj h
    cases hmem
  | batch notices =>
    rw [Report.sift] at h
    split at h
    · cases h
    · obtain rfl := Option.some.inj h
      exact of_decide_eq_true (List.mem_filter.1 hmem).2

/-- Of a script in which only files with the name of the watched one occur, only such are told. -/
lemma IsTold.name_eq {asks : Nat → Bool} {heard : Nat} {told : List FileChange}
    (h : IsTold path asks (script.sift path.name) heard told) {change : FileChange}
    (hmem : change ∈ told) : change.path.name = path.name := by
  rw [h.told_eq, List.mem_append] at hmem
  rcases hmem with hnoticed | hfarewell
  · obtain ⟨notice, hnotice, rfl⟩ := List.mem_map.1 hnoticed
    obtain ⟨report, hreport, hmem⟩ := List.mem_flatMap.1 hnotice
    obtain ⟨whole, -, hsift⟩ := List.mem_filterMap.1 (List.mem_of_mem_take hreport)
    exact name_of_mem_sift hsift hmem
  · rw [farewell] at hfarewell
    split at hfarewell
    · rw [List.mem_singleton.1 hfarewell]
    · cases hfarewell

end Sifting

/-- Whatever a source reports before a request to stop is told once, in order, with its path and its
kind, and a failure before such a request is told as the end of the file; nothing else is told. If
the source reports what the watcher accepts, only files with the name of the watched one occur. -/
theorem told_exactly (path : Path) (settings : WatcherSettings) (asks : Nat → Bool)
    (script : Script) :
    (∃ heard, IsTold path asks script heard
      ((ofPath path settings).hear asks script.signals).told) ∧
    (∃ heard, IsTold path asks (script.sift path.name) heard
      ((ofPath path settings).listen asks script.signals).told) ∧
    ∀ change ∈ ((ofPath path settings).listen asks script.signals).told,
      change.path.name = path.name := by
  obtain ⟨heard, htold⟩ := isTold_hear path settings asks (script.sift path.name)
  rw [listen_signals]
  exact ⟨isTold_hear path settings asks script, ⟨heard, htold⟩, fun _ hmem => htold.name_eq hmem⟩

/-! ## Requests to stop -/

/-- Whether a source heeds requests to stop: it reports no batch after one. -/
def Heeds (asks : Nat → Bool) (reports : List Report) : Prop :=
  ∀ earlier notices later, reports = earlier ++ .batch notices :: later →
    isStopRequested asks earlier = false

/-- Whether nothing is told after a request to stop. -/
structure Silent (path : Path) (settings : WatcherSettings) (asks : Nat → Bool)
    (script : Script) : Prop where
  /-- When the one who is told asks to stop, nothing else is told. -/
  own : ∀ i, asks i = true →
    ((ofPath path settings).hear asks script.signals).told.length ≤ i + 1
  /-- When somebody else asks to stop, all that is told has been told. -/
  others : ∀ earlier later, script.reports = earlier ++ .stopRequest :: later →
    ((ofPath path settings).hear asks script.signals).told =
      ((ofPath path settings).hear asks (Script.signals ⟨earlier, none⟩)).told

/-- Whether the one who is told asks to stop while a batch is not told to its end. -/
def AsksWithin (asks : Nat → Bool) (reports : List Report) : Prop :=
  ∃ earlier notices later i, reports = earlier ++ .batch notices :: later ∧
    i + 1 < notices.length ∧ asks ((noticed earlier).length + i) = true

section Requests

variable {path : Path} {settings : WatcherSettings} {asks : Nat → Bool} {script : Script}
  {earlier later : List Report}

lemma noticed_append (earlier later : List Report) :
    noticed (earlier ++ later) = noticed earlier ++ noticed later :=
  List.flatMap_append

lemma isStopRequested_of_mem (h : .stopRequest ∈ earlier) :
    isStopRequested asks earlier = true := by
  rw [isStopRequested, Bool.or_eq_true]
  exact .inl (List.any_eq_true.2 ⟨_, h, rfl⟩)

lemma isStopRequested_of_asks {i : Nat} (h : asks i = true) (hi : i < (noticed earlier).length) :
    isStopRequested asks earlier = true := by
  rw [isStopRequested, Bool.or_eq_true]
  exact .inr (List.any_eq_true.2 ⟨i, List.mem_range.2 hi, h⟩)

/-- A request to stop is not taken back. -/
lemma isStopRequested_append (h : isStopRequested asks earlier = true) (later : List Report) :
    isStopRequested asks (earlier ++ later) = true := by
  rw [isStopRequested, Bool.or_eq_true, List.any_eq_true, List.any_eq_true] at h
  rcases h with ⟨report, hmem, hrequest⟩ | ⟨i, hi, hasks⟩
  · cases report with
    | batch notices => cases hrequest
    | stopRequest => exact isStopRequested_of_mem (List.mem_append_left _ hmem)
  · apply isStopRequested_of_asks hasks
    rw [noticed_append, List.length_append]
    exact Nat.lt_add_right _ (List.mem_range.1 hi)

lemma Heeds.of_append (h : Heeds asks (earlier ++ later)) : Heeds asks earlier := by
  intro before notices behind heq
  apply h before notices (behind ++ later)
  rw [heq, List.append_assoc]
  rfl

/-- After a request to stop nothing is noticed. -/
lemma Heeds.noticed_eq_nil (h : Heeds asks (earlier ++ later))
    (hstop : isStopRequested asks earlier = true) : noticed later = [] := by
  rw [noticed, List.flatMap_eq_nil_iff]
  intro report hmem
  cases report with
  | stopRequest => rfl
  | batch notices =>
    obtain ⟨before, behind, rfl⟩ := List.append_of_mem hmem
    have hnot := h (earlier ++ before) notices behind (List.append_assoc ..).symm
    rw [isStopRequested_append hstop] at hnot
    cases hnot

/-- If requests to stop are heeded, everything that is noticed is told. -/
lemma IsTold.eq_of_heeds {heard : Nat} {told : List FileChange}
    (h : IsTold path asks script heard told) (hheeds : Heeds asks script.reports) :
    told = (noticed script.reports).map Notice.change ++ farewell path asks script := by
  have hrest : noticed (script.reports.drop heard) = [] := by
    rcases Nat.lt_or_ge heard script.reports.length with hlt | hge
    · rw [← List.take_append_drop heard script.reports] at hheeds
      exact hheeds.noticed_eq_nil (h.after hlt)
    · rw [List.drop_eq_nil_of_le hge]
      rfl
  have hall : noticed script.reports = noticed (script.reports.take heard) := by
    rw [← List.append_nil (noticed (script.reports.take heard)), ← hrest, ← noticed_append,
      List.take_append_drop]
  rw [h.told_eq, hall]

lemma told_hear_of_heeds (h : Heeds asks script.reports) :
    ((ofPath path settings).hear asks script.signals).told =
      (noticed script.reports).map Notice.change ++ farewell path asks script := by
  obtain ⟨heard, htold⟩ := isTold_hear path settings asks script
  exact htold.eq_of_heeds h

lemma farewell_of_isStopRequested (h : isStopRequested asks script.reports = true) :
    farewell path asks script = [] := by
  rw [farewell, h, Bool.not_true, Bool.and_false]
  rfl

lemma length_farewell_le : (farewell path asks script).length ≤ 1 := by
  rw [farewell]
  split
  · exact Nat.le_refl 1
  · exact Nat.zero_le 1

/-- Everything that is noticed is noticed in one of the batches. -/
lemma exists_batch_of_lt {reports : List Report} {i : Nat} (h : i < (noticed reports).length) :
    ∃ earlier notices later j, reports = earlier ++ .batch notices :: later ∧
      j < notices.length ∧ i = (noticed earlier).length + j := by
  induction reports generalizing i with
  | nil => cases h
  | cons report rest ih =>
    rw [noticed_cons, List.length_append] at h
    rcases Nat.lt_or_ge i report.notices.length with hlt | hge
    · cases report with
      | stopRequest => cases hlt
      | batch notices => exact ⟨[], notices, rest, i, rfl, hlt, (Nat.zero_add i).symm⟩
    · obtain ⟨earlier, notices, later, j, rfl, hj, hi⟩ :=
        @ih (i - report.notices.length) (by omega)
      refine ⟨report :: earlier, notices, later, j, rfl, hj, ?_⟩
      rw [noticed_cons, List.length_append]
      omega

/-- If the one who is told asks to stop at the end of batches only, the request is the last thing
that happens. -/
lemma length_told_le_of_asks (h : Heeds asks script.reports)
    (hwithin : ¬ AsksWithin asks script.reports) {i : Nat} (hasks : asks i = true) :
    ((ofPath path settings).hear asks script.signals).told.length ≤ i + 1 := by
  rw [told_hear_of_heeds h, List.length_append, List.length_map]
  rcases Nat.lt_or_ge i (noticed script.reports).length with hlt | hge
  · obtain ⟨earlier, notices, later, j, hreports, hj, rfl⟩ := exists_batch_of_lt hlt
    have hlast : ¬ j + 1 < notices.length := fun hj' =>
      hwithin ⟨earlier, notices, later, j, hreports, hj', hasks⟩
    rw [farewell_of_isStopRequested (isStopRequested_of_asks hasks hlt)]
    have hbatch : noticed [.batch notices] = notices := List.append_nil notices
    have htold : (noticed earlier).length + j <
        (noticed (earlier ++ [.batch notices])).length := by
      rw [noticed_append, hbatch, List.length_append]
      exact Nat.add_lt_add_left hj _
    have hsplit : script.reports = (earlier ++ [.batch notices]) ++ later := by
      rw [hreports, List.append_assoc]
      rfl
    have hrest := Heeds.noticed_eq_nil (hsplit ▸ h) (isStopRequested_of_asks hasks htold)
    rw [hreports, noticed_append, noticed_cons, hrest, List.append_nil, List.length_append]
    change (noticed earlier).length + notices.length ≤ _
    omega
  · have hfarewell : (farewell path asks script).length ≤ 1 := length_farewell_le
    omega

lemma told_hear_of_request (h : Heeds asks script.reports)
    (hreports : script.reports = earlier ++ .stopRequest :: later) :
    ((ofPath path settings).hear asks script.signals).told =
      ((ofPath path settings).hear asks (Script.signals ⟨earlier, none⟩)).told := by
  have hsplit : script.reports = (earlier ++ [.stopRequest]) ++ later := by
    rw [hreports, List.append_assoc]
    rfl
  have hmem : Report.stopRequest ∈ earlier ++ [.stopRequest] :=
    List.mem_append_right _ List.mem_cons_self
  have hstop : isStopRequested asks (earlier ++ [.stopRequest]) = true :=
    isStopRequested_of_mem hmem
  have hrest := Heeds.noticed_eq_nil (hsplit ▸ h) hstop
  have hbefore : Heeds asks (Script.mk earlier none).reports := Heeds.of_append (hreports ▸ h)
  rw [told_hear_of_heeds h, told_hear_of_heeds hbefore,
    farewell_of_isStopRequested (hsplit ▸ isStopRequested_append hstop later), hreports,
    noticed_append, noticed_cons, hrest]
  exact congrArg (fun notices => List.map Notice.change notices ++ []) (List.append_nil _)

/-- If the source heeds requests to stop, nothing is told after one, except for what is left of a
batch in the middle of which the one who is told asks to stop. -/
theorem silent_iff (h : Heeds asks script.reports) :
    Silent path settings asks script ↔ ¬ AsksWithin asks script.reports := by
  constructor
  · rintro hsilent ⟨earlier, notices, later, i, hreports, hi, hasks⟩
    have hlength := hsilent.own _ hasks
    rw [told_hear_of_heeds h, hreports, noticed_append, noticed_cons] at hlength
    simp only [List.length_append, List.length_map, Report.notices] at hlength
    omega
  · intro hwithin
    exact ⟨fun i hasks => length_told_le_of_asks h hwithin hasks,
      fun earlier later hreports => told_hear_of_request h hreports⟩

end Requests

def samplePath : Path :=
  .ofText "bin/L.xml"

def sampleBatch : List Notice :=
  [⟨.added, "bin/L.xml"⟩, ⟨.modified, "bin/L.xml"⟩]

/-- Two changes at once; somebody asks to stop, and then the source fails. -/
def sampleScript : Script :=
  ⟨[.batch sampleBatch, .stopRequest], some "gone"⟩

lemma heeds_sampleScript (asks : Nat → Bool) : Heeds asks sampleScript.reports := by
  intro earlier notices later h
  rcases earlier with _ | ⟨report, _ | ⟨other, rest⟩⟩
  · rfl
  · cases h
  · have hlength := congrArg List.length h
    simp [sampleScript] at hlength

/-- The one who is told asks to stop at the second change, the last one of the batch. -/
theorem silent_iff_sample :
    Heeds (· == 1) sampleScript.reports ∧
      Silent samplePath .default (· == 1) sampleScript := by
  refine ⟨heeds_sampleScript _, (silent_iff (heeds_sampleScript _)).2 ?_⟩
  rintro ⟨earlier, notices, later, i, hreports, hi, hasks⟩
  rcases earlier with _ | ⟨report, _ | ⟨other, rest⟩⟩
  · cases hreports
    have hone := beq_iff_eq.1 hasks
    simp [noticed, sampleBatch] at hone hi
    omega
  · cases hreports
  · have hlength := congrArg List.length hreports
    simp [sampleScript] at hlength

/-- The one who is told asks to stop at the first change of a batch, and is told the second one. -/
theorem not_silent_of_asksWithin :
    Heeds (· == 0) sampleScript.reports ∧
      ¬ Silent samplePath .default (· == 0) sampleScript := by
  refine ⟨heeds_sampleScript _, fun hsilent => ?_⟩
  have hlength := hsilent.own 0 rfl
  revert hlength
  decide

end Nullability.FileWatcher
