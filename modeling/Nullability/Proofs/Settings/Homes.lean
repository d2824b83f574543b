import Nullability.Proofs.Settings.Precedence

/-!
# Readings that stop

Reading settings goes on after an issue, so that all issues are found. What ends it at once is a
path whose home folder cannot be found. Which paths a reading comes upon can be told from the value
alone (`Settings.pathTexts`): a destination of the log that is no standard stream, a location that
is not empty, and the defaults of locations that are not given. The reading stops exactly if one of
these lacks its home, whatever else is wrong with the value.

This is shown reader by reader: a reading that is put together from others stops if one of them
does.
-/

namespace Nullability

open Value (lookup?)

/-- Why a computation did not come to its end. -/
def Outcome.error? {ε α : Type} : Except ε α → Option ε
  | .error e => some e
  | .ok _ => none

lemma Outcome.error?_map {ε α β : Type} (f : α → β) (x : Except ε α) :
    error? (x.map f) = error? x := by
  cases x <;> rfl

namespace Environment

variable {env : Environment}

/-- Whether a text spells a path below a home folder that cannot be found. -/
def lacksHome (env : Environment) (text : String) : Bool :=
  match env.expand (Path.ofText text) with
  | .error .noHome => true
  | _ => false

/-- Why a reading stops that comes upon some paths, if it does. -/
def stopAt (env : Environment) (texts : List String) : Option Failure :=
  if texts.any env.lacksHome then some .noHome else none

lemma stopAt_append (texts others : List String) :
    env.stopAt (texts ++ others) = (env.stopAt texts).or (env.stopAt others) := by
  rw [stopAt, List.any_append, stopAt]
  cases texts.any env.lacksHome <;> rfl

lemma stopAt_flatMap {α : Type} (f : α → List String) (items : List α) :
    env.stopAt (items.flatMap f) = items.findSome? (fun a => env.stopAt (f a)) := by
  induction items with
  | nil => rfl
  | cons a rest ih =>
    rw [List.flatMap_cons, stopAt_append, ih, List.findSome?_cons]
    cases env.stopAt (f a) <;> rfl

lemma stopAt_eq_some {texts : List String} {failure : Failure} :
    env.stopAt texts = some failure ↔
      failure = .noHome ∧ ∃ text ∈ texts, env.lacksHome text = true := by
  rw [stopAt, ← List.any_eq_true]
  split
  · rename_i hany
    rw [Option.some.injEq]
    exact ⟨fun h => ⟨h.symm, hany⟩, fun h => h.1.symm⟩
  · rename_i hnone
    exact ⟨fun h => absurd h.symm (Option.some_ne_none failure), fun h => absurd h.2 hnone⟩

/-- Only for two reasons a home folder is not written out. -/
lemma expand_eq_error {path : Path} {failure : Failure} (h : env.expand path = .error failure) :
    failure = .noHome ∨ failure = .badValue := by
  rw [expand, Path.expandHome] at h
  dsimp only at h
  repeat' split at h
  all_goals cases h
  all_goals first | exact .inl rfl | exact .inr rfl

/-- A lone tilde is no name that could hold a null character. -/
lemma expand_ne_badValue {path : Path} (h : path.parts.head? = some "~") :
    env.expand path ≠ .error .badValue := by
  obtain ⟨rest, hparts⟩ := List.head?_eq_some_iff.1 h
  have hplain : ("~".toList.contains '\x00') = false := by decide
  intro herror
  rw [expand, Path.expandHome, hparts] at herror
  simp only [hplain, if_true, Bool.false_eq_true, if_false] at herror
  repeat' split at herror
  all_goals cases herror

end Environment

/-! ## How readings are put together -/

namespace Judged

variable {α β : Type}

/-- Why a reading stopped, if it did. -/
def stop? (a : Judged α) : Option Failure :=
  match a with
  | .error failure => some failure
  | .ok _ => none

lemma stop?_seq (f : Judged (α → β)) (a : Judged α) : (f <*> a).stop? = f.stop?.or a.stop? := by
  change (both f (fun _ => a)).stop? = _
  rcases f with failure | issues | g
  · rfl
  · rcases a with failure | others | x <;> rfl
  · rcases a with failure | others | x <;> rfl

lemma stop?_map (f : α → β) (a : Judged α) : (f <$> a).stop? = a.stop? := by
  change (pure f <*> a).stop? = _
  rw [stop?_seq]
  rfl

lemma stop?_inside (step : String) (a : Judged α) : (inside step a).stop? = a.stop? := by
  rcases a with failure | issues | x <;> rfl

lemma stop?_lift (a : Except Failure α) : (lift a).stop? = Outcome.error? a := by
  cases a <;> rfl

lemma stop?_field (entries : List (Value × Value)) (name : String) (read : Value → Judged α)
    (default : Except Failure α) : (field entries name read default).stop? =
      match lookup? (.text name) entries with
      | some v => (read v).stop?
      | none => Outcome.error? default := by
  rw [field]
  cases lookup? (.text name) entries with
  | some v => exact stop?_inside name (read v)
  | none => exact stop?_lift default

/-- A field that is read without stopping and whose default is at hand does not stop. -/
lemma stop?_field_of_never {entries : List (Value × Value)} {name : String}
    {read : Value → Judged α} {default : α} (h : ∀ v, (read v).stop? = none) :
    (field entries name read (.ok default)).stop? = none := by
  rw [stop?_field]
  cases lookup? (.text name) entries with
  | some v => exact h v
  | none => rfl

lemma stop?_record (name : String) (read : List (Value × Value) → Judged α) (v : Value) :
    (record name read v).stop? =
      match v with
      | .mapping entries => (read entries).stop?
      | _ => none := by
  cases v <;> rfl

lemma stop?_itemsFrom (read : Value → Judged α) (index : Nat) (items : List Value) :
    (itemsFrom read index items).stop? = items.findSome? (fun v => (read v).stop?) := by
  induction items generalizing index with
  | nil => rfl
  | cons v rest ih =>
    rw [itemsFrom, stop?_seq, stop?_map, stop?_inside, ih, List.findSome?_cons]
    cases (read v).stop? <;> rfl

lemma stop?_text (v : Value) : (text v).stop? = none := by
  rw [text]
  split <;> rfl

lemma stop?_choice (choices : List (String × α)) (v : Value) : (choice choices v).stop? = none := by
  rw [choice.eq_def]
  split
  · split <;> rfl
  · rfl

lemma stop?_truth (v : Value) : (truth v).stop? = none := by
  rw [truth.eq_def]
  dsimp only
  repeat' split
  all_goals rfl

lemma stop?_integer (v : Value) : (integer v).stop? = none := by
  rw [integer.eq_def]
  repeat' split
  all_goals rfl

/-- What follows a reading that does not stop decides whether both do. -/
lemma stop?_andThen {a : Judged α} (h : a.stop? = none) (f : α → Judged β) :
    (a.andThen f).stop? = match a with
      | .ok (.ok x) => (f x).stop?
      | _ => none := by
  rcases a with failure | issues | x
  · cases h
  · rfl
  · rfl

lemma stop?_tested {test : Int → Prop} [DecidablePred test] {defect : Int → Defect} (v : Value) :
    ((integer v).andThen fun n =>
      if test n then accept n.toNat else refuse (defect n) v).stop? = none := by
  rw [stop?_andThen (stop?_integer v)]
  split
  · split <;> rfl
  · rfl

end Judged

open Judged

/-! ## Paths -/

section Paths

variable {env : Environment}

/-- The path that a text for a destination of the log spells, if it is no standard stream. -/
def LogOutput.pathText? (v : Value) : Option String :=
  match textOf? v with
  | some (some s) => if s = "stderr" ∨ s = "stdout" then none else some s
  | _ => none

/-- The path that a text for a location spells, if it is not empty. -/
def Locations.pathText? (v : Value) : Option String :=
  match textOf? v with
  | some (some s) => if s.isEmpty then none else some s
  | _ => none

lemma stop?_expanded (v : Value) (text : String) :
    (expanded v (env.expand (Path.ofText text))).stop? = env.stopAt [text] := by
  have hstop : env.stopAt [text] = if env.lacksHome text then some .noHome else none := by
    rw [Environment.stopAt, List.any_cons, List.any_nil, Bool.or_false]
  rw [hstop, Environment.lacksHome]
  cases hexpand : env.expand (Path.ofText text) with
  | ok path => rfl
  | error failure =>
    rcases Environment.expand_eq_error hexpand with rfl | rfl <;> rfl

lemma stop?_expanded_text (v : Value) (text : String) :
    (expanded v (env.expandText text)).stop? = env.stopAt [text] := by
  rw [← stop?_expanded v text, Environment.expandText]
  cases hexpand : env.expand (Path.ofText text) with
  | ok path => rfl
  | error failure =>
    rcases Environment.expand_eq_error hexpand with rfl | rfl <;> rfl

lemma Locations.stop?_readPath (v : Value) :
    (readPath env v).stop? = env.stopAt (pathText? v).toList := by
  rw [readPath, text, pathText?]
  rcases textOf? v with _ | _ | s
  · rfl
  · rfl
  · change (if s.isEmpty then _ else _ : Judged String).stop? =
      env.stopAt (if s.isEmpty then none else some s).toList
    by_cases hempty : s.isEmpty = true
    · simp only [hempty, if_true]
      rfl
    · simp only [hempty, if_false, Bool.false_eq_true]
      exact stop?_expanded_text v s

lemma LogOutput.stop?_readDestination (v : Value) :
    (readDestination env v).stop? = env.stopAt (pathText? v).toList := by
  rw [readDestination, text, pathText?]
  rcases textOf? v with _ | _ | s
  · rfl
  · rfl
  · change (if s = "stderr" then _ else _ : Judged LogDestination).stop? =
      env.stopAt (if s = "stderr" ∨ s = "stdout" then none else some s).toList
    by_cases herror : s = "stderr"
    · rw [if_pos herror, if_pos (.inl herror)]
      rfl
    by_cases houtput : s = "stdout"
    · rw [if_neg herror, if_pos houtput, if_pos (.inr houtput)]
      rfl
    · rw [if_neg herror, if_neg houtput, if_neg (not_or.2 ⟨herror, houtput⟩), Option.toList_some,
        ← stop?_expanded v s]
      cases expanded v (env.expand (Path.ofText s)) with
      | error failure => rfl
      | ok outcome =>
        cases outcome with
        | error issues => rfl
        | ok path =>
          change (if path.isAbsolute then _ else _ : Judged LogDestination).stop? = none
          split <;> rfl

end Paths

/-! ## Sections -/

section Sections

variable {env : Environment}

/-- The paths that the reading of an output of the log comes upon. -/
def LogOutput.pathTexts : Value → List String
  | .mapping entries => ((lookup? (.text "destination") entries).bind pathText?).toList
  | _ => []

lemma LogOutput.stop?_readLevel (v : Value) : (readLevel v).stop? = none := by
  rw [readLevel.eq_def]
  split
  · rfl
  · rw [stop?_map]
    exact stop?_choice _ v

lemma LogOutput.stop?_ofValue (v : Value) : (ofValue env v).stop? = env.stopAt (pathTexts v) := by
  rw [ofValue, stop?_record]
  cases v with
  | mapping entries =>
    dsimp only
    rw [ofEntries, stop?_seq, stop?_seq, stop?_map, stop?_field_of_never (stop?_choice _),
      stop?_field_of_never stop?_readLevel, Option.none_or, Option.or_none, stop?_field, pathTexts]
    cases lookup? (.text "destination") entries with
    | none => rfl
    | some v => exact stop?_readDestination v
  | _ => rfl

lemma LogOutput.stop?_take (v : Value) : (take env v).stop? = env.stopAt (pathTexts v) := by
  rw [take.eq_def]
  split
  · rfl
  · rw [stop?_map]
    exact stop?_ofValue v

/-- The paths that the reading of the log section comes upon. -/
def LogSettings.pathTexts : Value → List String
  | .mapping entries =>
    match lookup? (.text "outputs") entries with
    | some (.list items) | some (.tuple items) | some (.set items) =>
      items.flatMap LogOutput.pathTexts
    | _ => []
  | _ => []

lemma LogSettings.stop?_record {α β : Type} {make : Severity → List α → β}
    {read : Value → Judged α} {outputs : List α} {name : String}
    (hread : ∀ v, (read v).stop? = env.stopAt (LogOutput.pathTexts v)) (v : Value) :
    (Judged.record name (fromEntries make read outputs) v).stop? = env.stopAt (pathTexts v) := by
  rw [Judged.stop?_record]
  cases v with
  | mapping entries =>
    have hlist : ∀ items, (itemsFrom read 0 items).stop? =
        env.stopAt (items.flatMap LogOutput.pathTexts) := by
      intro items
      rw [stop?_itemsFrom, Environment.stopAt_flatMap]
      exact congrArg (fun f => List.findSome? f items) (funext hread)
    dsimp only
    rw [fromEntries, stop?_seq, stop?_map, stop?_field_of_never (stop?_choice _), Option.none_or,
      stop?_field, pathTexts]
    rcases lookup? (.text "outputs") entries with _ | v
    · rfl
    · cases v with
      | list items => exact hlist items
      | tuple items => exact hlist items
      | set items => exact hlist items
      | _ => rfl
  | _ => rfl

namespace Locations

/-- The paths that the defaults below the folder for one user come upon. -/
def userTexts (env : Environment) : List String :=
  match firstFilled? env ["LOCALAPPDATA", "XDG_DATA_HOME"] with
  | some _ => []
  | none => ["~/.local/share"]

/-- The path that the reading of a location comes upon. -/
def fieldTexts (entries : List (Value × Value)) (name : String) (default : List String) :
    List String :=
  match lookup? (.text name) entries with
  | some v => (pathText? v).toList
  | none => default

/-- The paths that the reading of the locations comes upon. -/
def pathTexts (env : Environment) : Value → List String
  | .mapping entries =>
    fieldTexts entries "system_root" [] ++ fieldTexts entries "user_root" (userTexts env) ++
      fieldTexts entries "nuget_root" ["~/.nuget/packages/jetbrains.externalannotations"] ++
      fieldTexts entries "cache_path" (userTexts env)
  | _ => []

/-- Writing out a home folder that has no name fails only if it cannot be found. -/
lemma error?_expandText {text : String} (h : (Path.ofText text).parts.head? = some "~") :
    Outcome.error? (env.expandText text) = env.stopAt [text] := by
  rw [← stop?_expanded_text .null text]
  cases hexpand : env.expandText text with
  | ok expanded => rfl
  | error failure =>
    have herror := Outcome.map_eq_error.1 hexpand
    obtain rfl | rfl := Environment.expand_eq_error herror
    · rfl
    · exact absurd herror (Environment.expand_ne_badValue h)

lemma error?_defaultUserRoot :
    Outcome.error? (defaultUserRoot env) = env.stopAt (userTexts env) := by
  rw [defaultUserRoot, userTexts]
  cases firstFilled? env ["LOCALAPPDATA", "XDG_DATA_HOME"] with
  | some folder => rfl
  | none => exact error?_expandText rfl

lemma error?_defaultPackageRoot : Outcome.error? (defaultPackageRoot env) =
    env.stopAt ["~/.nuget/packages/jetbrains.externalannotations"] :=
  error?_expandText rfl

lemma error?_defaultCachePath :
    Outcome.error? (defaultCachePath env) = env.stopAt (userTexts env) := by
  rw [← error?_defaultUserRoot, defaultCachePath]
  cases defaultUserRoot env <;> rfl

lemma stop?_field {entries : List (Value × Value)} {name : String}
    {default : Except Failure String} {texts : List String}
    (h : Outcome.error? default = env.stopAt texts) :
    (field entries name (readPath env) default).stop? =
      env.stopAt (fieldTexts entries name texts) := by
  rw [Judged.stop?_field, fieldTexts]
  cases lookup? (.text name) entries with
  | some v => exact stop?_readPath v
  | none => exact h

lemma stop?_ofValue (v : Value) : (ofValue env v).stop? = env.stopAt (pathTexts env v) := by
  rw [ofValue, stop?_record]
  cases v with
  | mapping entries =>
    dsimp only
    have hsystem : Outcome.error? (Except.ok (defaultSystemRoot env) : Except Failure String) =
        env.stopAt [] := rfl
    rw [ofEntries, stop?_seq, stop?_seq, stop?_seq, stop?_map, stop?_field hsystem,
      stop?_field error?_defaultUserRoot, stop?_field error?_defaultPackageRoot,
      stop?_field error?_defaultCachePath, pathTexts, Environment.stopAt_append,
      Environment.stopAt_append, Environment.stopAt_append]
  | _ => rfl

/-- The default of the locations comes upon the same paths as the empty mapping. -/
lemma error?_default :
    Outcome.error? (default env) = env.stopAt (pathTexts env (.mapping [])) := by
  have hdefault : ofValue env (.mapping []) = lift (default env) := by
    change mk <$> lift (.ok (defaultSystemRoot env)) <*> lift (defaultUserRoot env) <*>
      lift (defaultPackageRoot env) <*> lift (defaultCachePath env) = _
    rw [default]
    cases defaultUserRoot env with
    | error failure => rfl
    | ok user =>
      cases defaultPackageRoot env with
      | error failure => rfl
      | ok package => cases defaultCachePath env <;> rfl
  rw [← stop?_ofValue, hdefault, stop?_lift]

end Locations

lemma ScannerSettings.stop?_ofValue (v : Value) : (ofValue v).stop? = none := by
  have hversion : ∀ v, (readVersion v).stop? = none := fun v => stop?_tested v
  rw [ofValue, stop?_record]
  cases v with
  | mapping entries =>
    dsimp only
    rw [ofEntries, stop?_seq, stop?_seq, stop?_map, stop?_field_of_never stop?_text,
      stop?_field_of_never hversion, stop?_field_of_never stop?_truth]
    rfl
  | _ => rfl

lemma WatcherSettings.stop?_ofValue (v : Value) : (ofValue v).stop? = none := by
  have hdelay : ∀ v, (readDelay v).stop? = none := fun v => stop?_tested v
  rw [ofValue, stop?_record]
  cases v with
  | mapping entries =>
    dsimp only
    rw [ofEntries, stop?_seq, stop?_seq, stop?_map, stop?_field_of_never stop?_truth,
      stop?_field_of_never hdelay, stop?_field_of_never hdelay]
    rfl
  | _ => rfl

end Sections

/-! ## All settings -/

namespace Settings

variable {env : Environment}

/-- The paths that the reading of settings comes upon. -/
def pathTexts (env : Environment) : Value → List String
  | .mapping entries =>
    LogSettings.pathTexts ((lookup? (.text "logging") entries).getD (.mapping [])) ++
      Locations.pathTexts env ((lookup? (.text "locations") entries).getD (.mapping []))
  | _ => []

/-- Reading settings stops exactly if a path that it comes upon lacks its home folder. -/
lemma stop?_ofValue (v : Value) : (ofValue env v).stop? = env.stopAt (pathTexts env v) := by
  rw [ofValue, stop?_record]
  cases v with
  | mapping entries =>
    have hlog : (field entries "logging" (LogSettings.ofValue env)
        (.ok LogSettings.default)).stop? = env.stopAt (LogSettings.pathTexts
          ((lookup? (.text "logging") entries).getD (.mapping []))) := by
      rw [stop?_field]
      cases lookup? (.text "logging") entries with
      | none => rfl
      | some v => exact LogSettings.stop?_record LogOutput.stop?_ofValue v
    have hlocations : (field entries "locations" (Locations.ofValue env)
        (Locations.default env)).stop? = env.stopAt (Locations.pathTexts env
          ((lookup? (.text "locations") entries).getD (.mapping []))) := by
      rw [stop?_field]
      cases lookup? (.text "locations") entries with
      | none => exact Locations.error?_default
      | some v => exact Locations.stop?_ofValue v
    dsimp only
    rw [ofEntries, stop?_seq, stop?_seq, stop?_seq, stop?_map, hlog, hlocations,
      stop?_field_of_never ScannerSettings.stop?_ofValue,
      stop?_field_of_never WatcherSettings.stop?_ofValue, Option.or_none, Option.or_none, pathTexts,
      Environment.stopAt_append]
  | _ => rfl

lemma stop?_takeSection (entries : List (Value × Value)) (key : String) (kind : Section.Kind)
    (take : Value → Judged Value) (default : Except Failure Value) :
    (takeSection (Layer.ofEntries entries) key kind take default).stop? =
      match lookup? (.text key) entries with
      | some v => (take v).stop?
      | none => Outcome.error? default := by
  rw [takeSection, Layer.find?, lookup?_ofEntries]
  cases lookup? (.text key) entries with
  | some v => exact stop?_inside key (take v)
  | none => exact stop?_lift default

/-- Taking what is given comes upon the same paths as reading it. -/
lemma stop?_takeLayer (entries : List (Value × Value)) :
    (takeLayer env (Layer.ofEntries entries)).stop? =
      env.stopAt (pathTexts env (.mapping entries)) := by
  have honly : (onlySections (Layer.ofEntries entries)).stop? = none := by
    rw [onlySections]
    split <;> rfl
  have hnever : ∀ {α : Type} {read : Value → Judged α} {make : α → Value} {key : String}
      {kind : Section.Kind} {default : Value}, (∀ v, (read v).stop? = none) →
        (takeSection (Layer.ofEntries entries) key kind (fun v => make <$> read v)
          (.ok default)).stop? = none := by
    intro α read make key kind default h
    rw [stop?_takeSection]
    cases lookup? (.text key) entries with
    | some v => exact (stop?_map make (read v)).trans (h v)
    | none => rfl
  rw [takeLayer, stop?_seq, stop?_seq, stop?_seq, stop?_seq, stop?_map, stop?_takeSection,
    stop?_takeSection, hnever ScannerSettings.stop?_ofValue, hnever WatcherSettings.stop?_ofValue,
    honly, Option.or_none, Option.or_none, Option.or_none, pathTexts, Environment.stopAt_append]
  congr 1
  · cases lookup? (.text "logging") entries with
    | none => rfl
    | some v => exact LogSettings.stop?_record LogOutput.stop?_take v
  · cases lookup? (.text "locations") entries with
    | none => exact (Outcome.error?_map _ _).trans Locations.error?_default
    | some v => exact (stop?_map _ _).trans (Locations.stop?_ofValue v)

end Settings

end Nullability
