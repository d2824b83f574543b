import Nullability.FileTree
import Nullability.Log.Line
import Nullability.Text.Utf8

/-!
# The log

Records go to some outputs, each with a format and a least rank of its own. A record that does not
reach the rank of the log goes nowhere, whatever the outputs accept. Files are only ever appended
to; they are made when the log is set up, with the folders they are in.
-/

namespace Nullability

/-- An output of the log. -/
structure Log.Route where
  format : LogFormat
  destination : LogDestination
  leastRank : Int
  deriving DecidableEq, Repr, Inhabited

/-- How records are written. -/
structure Log where
  leastRank : Int
  routes : List Log.Route
  deriving DecidableEq, Repr, Inhabited

/-- Where records are written: the standard streams, with what they have received, and files. -/
structure LogSurroundings where
  tree : FileTree
  output : String
  error : String

namespace Log

/-- The routes that settings describe: an output without a level has that of the log. -/
def ofSettings (settings : LogSettings) : Log :=
  ⟨settings.level.rank, settings.outputs.map (fun output =>
    ⟨output.format, output.destination, (output.level.getD settings.level).rank⟩)⟩

/-- One readable output, or one of objects, on standard error. -/
def settingsFor (isJson : Bool) (level : Severity) : LogSettings :=
  ⟨level, [⟨if isJson then .json else .console, .standardError, none⟩]⟩

/-- The first file that is written to. -/
def filePath? (log : Log) : Option Path :=
  log.routes.findSome? (fun route =>
    match route.destination with
    | .file path => some path
    | _ => none)

/-- The least rank at which a component is heard. -/
def leastRankOf (log : Log) (component : String) : Int :=
  if LogMessage.isNoisy component then Severity.warning.rank else log.leastRank

/-! ## Writing -/

/-- Appends to a file, which is made if it is missing, with the folders it is in. -/
def appendToFile (tree : FileTree) (path : Path) (content : List UInt8) (now : Int) :
    Except Failure FileTree := do
  let tree ← tree.makeFolders path.parent
  let before ←
    match tree.read path with
    | .error .noSuchFile => .ok []
    | read => read
  tree.write path (before ++ content) now

/-- Makes the file of an output ready. -/
def openRoute (now : Int) (tree : FileTree) (route : Route) : Except Failure FileTree :=
  match route.destination with
  | .file path => appendToFile tree path [] now
  | _ => .ok tree

/-- Makes the files of all outputs ready. -/
def openFiles (log : Log) (tree : FileTree) (now : Int) : Except Failure FileTree :=
  log.routes.foldlM (openRoute now) tree

/-- Writes a line to an output. -/
def writeLine (now : Int) (line : String) (destination : LogDestination) (s : LogSurroundings) :
    Except Failure LogSurroundings :=
  match destination with
  | .standardOutput => .ok { s with output := s.output ++ line ++ "\n" }
  | .standardError => .ok { s with error := s.error ++ line ++ "\n" }
  | .file path =>
    (appendToFile s.tree path (Text.utf8 (line ++ "\n")) now).map (fun tree =>
      { s with tree := tree })

/-- Writes a record to the outputs that accept it. -/
def write (log : Log) (record : LogRecord) (now : Int) (s : LogSurroundings) :
    Except Failure LogSurroundings :=
  (log.routes.filter (fun route => route.leastRank ≤ record.rank)).foldlM
    (fun s route => writeLine now (record.line route.format) route.destination s) s

/-- Reports an event under the name of a logger. -/
def report (log : Log) (stamp : LogStamp) (now : Int) (logger : Option String) (event : Event)
    (s : LogSurroundings) : Except Failure LogSurroundings := do
  let record ← LogRecord.ofEvent stamp logger event
  if log.leastRank ≤ record.rank then log.write record now s else return s

/-- Passes on a message of another component; one whose values do not fit is dropped. -/
def pass (log : Log) (stamp : LogStamp) (now : Int) (message : LogMessage)
    (s : LogSurroundings) : Except Failure LogSurroundings :=
  if log.leastRankOf message.component ≤ message.rank then
    match LogRecord.ofMessage? stamp message with
    | some record => log.write record now s
    | none => .ok s
  else .ok s

end Log

end Nullability
