import Nullability.Settings.Reading
import Nullability.Value.Merge

/-!
# Layers of settings

Settings are gathered from several layers. What a higher layer gives is laid over what a lower one
gives: sections that are mappings in both are merged field by field, anything else in the higher
layer takes the place of what is below it. A section may also be given as it was built beforehand;
then nothing of the lower layers is left in it.

Only after all layers are put together the result is taken, where sections that were built
beforehand are left as they are. All that was taken is then read once more, so that defaults and
built sections are brought into the same form as other values.
-/

namespace Nullability.Settings

/-- What a layer gives under a key: a plain value, or a section that was built beforehand. -/
inductive Given where
  | value (v : Value)
  | built (built : Section)
  deriving Inhabited

/-- What is given, as a value. -/
def Given.toValue : Given → Value
  | value v => v
  | built s => s.toValue

/-- What one layer gives. -/
abbrev Layer := List (Value × Given)

namespace Layer

/-- The layer of a mapping of plain values. -/
def ofEntries (entries : List (Value × Value)) : Layer :=
  entries.map (fun entry => (entry.1, .value entry.2))

/-- What a layer gives under a key. -/
def find? (key : Value) (layer : Layer) : Option Given :=
  Value.lookup? key layer

/-- A layer with something else under a key. -/
def store (key : Value) (given : Given) (layer : Layer) : Layer :=
  Value.store key given layer

/-- What is given over what a lower layer may give. -/
def putOver (lower : Option Given) : Given → Given
  | .value v =>
    match lower with
    | some (.value under) => .value (Value.mergeUnder (some under) v)
    | _ => .value v
  | .built s => .built s

/-- One layer laid over another one. -/
def overlay (lower upper : Layer) : Layer :=
  upper.foldl (fun done (key, given) => done.store key (putOver (done.find? key) given)) lower

/-- Whether every key of a layer is a text. -/
def hasTextKeys (layer : Layer) : Bool :=
  layer.all (fun entry => match entry.1 with
    | .text _ => true
    | _ => false)

end Layer

/-! ## Taking what is given -/

/-- Takes what is given for a section; one that was built beforehand is left as it is. -/
def takeGiven (kind : Section.Kind) (take : Value → Judged Value) : Given → Judged Value
  | .value v => take v
  | .built s =>
    if s.kind = kind then Judged.accept s.toValue
    else Judged.refuse (.notRecord kind.name) s.toValue

/-- Takes a section of a layer, or its default. -/
def takeSection (layer : Layer) (key : String) (kind : Section.Kind)
    (take : Value → Judged Value) (default : Except Failure Value) : Judged Value :=
  match layer.find? (.text key) with
  | some given => Judged.inside key (takeGiven kind take given)
  | none => Judged.lift default

/-- The keys of the sections. -/
def sectionKeys : List String := ["logging", "locations", "scanner", "watcher"]

/-- The issues of keys that are no sections. -/
def unknownKeys (layer : Layer) : List Issue :=
  layer.filterMap (fun (key, given) =>
    match key with
    | .text key =>
      if sectionKeys.contains key then none else some ⟨[key], .unknownKey, given.toValue⟩
    | _ => none)

/-- Refuses a layer with keys that are no sections. -/
def onlySections (layer : Layer) : Judged Unit :=
  match unknownKeys layer with
  | [] => Judged.accept ()
  | issues => Judged.reject issues

/-- Takes settings from what all layers together give. -/
def takeLayer (env : Environment) (layer : Layer) : Judged Value :=
  (fun log locations scanner watcher (_ : Unit) =>
      .record "AnnotationsSettings" [("logging", log), ("locations", locations),
        ("scanner", scanner), ("watcher", watcher)])
    <$> takeSection layer "logging" .log (LogSettings.take env) (.ok LogSettings.default.toValue)
    <*> takeSection layer "locations" .locations
          (fun v => Locations.toValue <$> Locations.ofValue env v)
          ((Locations.default env).map Locations.toValue)
    <*> takeSection layer "scanner" .scanner
          (fun v => ScannerSettings.toValue <$> ScannerSettings.ofValue v)
          (.ok ScannerSettings.default.toValue)
    <*> takeSection layer "watcher" .watcher
          (fun v => WatcherSettings.toValue <$> WatcherSettings.ofValue v)
          (.ok WatcherSettings.default.toValue)
    <*> onlySections layer

/-- The fault of settings with issues: it reports the first one. -/
def faultOfIssues : List Issue → Fault
  | issue :: _ => .settingInvalid issue.location issue.input issue.defect.message
  | [] => .settingInvalid "" .null ""

/-- The failure of settings with issues: a fault, unless the value that it would report cannot be
written out. -/
def failureOfIssues (issues : List Issue) : Failure :=
  if issues.head?.all (fun issue => issue.input.isWritable) then .fault (faultOfIssues issues)
  else .badValue

/-- A judgement whose issues are a failure. -/
def settle {α : Type} (a : Judged α) : Except Failure α :=
  match a with
  | .error failure => .error failure
  | .ok (.error issues) => .error (failureOfIssues issues)
  | .ok (.ok a) => .ok a

/-- The settings that the layers together give: they are taken, and what was taken is read. -/
def ofLayers (env : Environment) (layer : Layer) : Except Failure Settings :=
  if layer.hasTextKeys then do
    let taken ← settle (takeLayer env layer)
    settle (Settings.ofValue env taken.plain)
  else .error .badType

end Nullability.Settings
