import Nullability.AnnotationMap
import Nullability.AnnotationMap.Load
import Nullability.AnnotationMap.Merge
import Nullability.Baseline
import Nullability.Binary64
import Nullability.Cache
import Nullability.Cache.Digest
import Nullability.Cache.File
import Nullability.Cache.Message
import Nullability.Cache.Message.Reader
import Nullability.Cache.Store
import Nullability.Calendar
import Nullability.Environment
import Nullability.Event
import Nullability.Failure
import Nullability.Fault
import Nullability.FileChange
import Nullability.FileTree
import Nullability.FileWatcher
import Nullability.Installation
import Nullability.Installation.Documents
import Nullability.Log
import Nullability.Log.Line
import Nullability.Log.Record
import Nullability.Once
import Nullability.OrderedMap
import Nullability.PackageVersion
import Nullability.Path
import Nullability.Power
import Nullability.Proofs.AnnotationMap.Compaction
import Nullability.Proofs.AnnotationMap.KindIsolation
import Nullability.Proofs.AnnotationMap.Meaning
import Nullability.Proofs.AnnotationMap.Naming
import Nullability.Proofs.AnnotationMap.Refusal
import Nullability.Proofs.AnnotationMap.Repetition
import Nullability.Proofs.AnnotationMap.Stopping
import Nullability.Proofs.Baseline.Afresh
import Nullability.Proofs.Baseline.Arrangement
import Nullability.Proofs.Baseline.Availability
import Nullability.Proofs.Baseline.Course
import Nullability.Proofs.Baseline.Ending
import Nullability.Proofs.Baseline.Growth
import Nullability.Proofs.Baseline.History
import Nullability.Proofs.Baseline.Refusal
import Nullability.Proofs.Baseline.Result
import Nullability.Proofs.Baseline.Saving
import Nullability.Proofs.Baseline.Sound
import Nullability.Proofs.Cache.Acceptance
import Nullability.Proofs.Cache.Atomicity
import Nullability.Proofs.Cache.Damage
import Nullability.Proofs.Cache.Format
import Nullability.Proofs.Cache.Format.Grammar
import Nullability.Proofs.Cache.Format.Opening
import Nullability.Proofs.Cache.Format.Reading
import Nullability.Proofs.Cache.Length
import Nullability.Proofs.Cache.Moves
import Nullability.Proofs.Cache.Number
import Nullability.Proofs.Cache.Reencoding
import Nullability.Proofs.Cache.RoundTrip
import Nullability.Proofs.Cache.Save
import Nullability.Proofs.Cache.Sharing
import Nullability.Proofs.Cache.Tidy
import Nullability.Proofs.Cache.Writer
import Nullability.Proofs.Cache.Written
import Nullability.Proofs.FileTree.Content
import Nullability.Proofs.FileTree.Growth
import Nullability.Proofs.FileTree.Operation
import Nullability.Proofs.FileTree.WellFormed
import Nullability.Proofs.FileWatcher.Delivery
import Nullability.Proofs.Installation.Documents
import Nullability.Proofs.Installation.Ending
import Nullability.Proofs.Installation.Enumeration
import Nullability.Proofs.Installation.Found
import Nullability.Proofs.Installation.Listing
import Nullability.Proofs.Installation.Order
import Nullability.Proofs.Installation.Pattern
import Nullability.Proofs.Installation.Scan
import Nullability.Proofs.Installation.Search
import Nullability.Proofs.Installation.Stability
import Nullability.Proofs.Installation.Version
import Nullability.Proofs.Outcome
import Nullability.Proofs.Path.Identity
import Nullability.Proofs.Path.Place
import Nullability.Proofs.Path.Spelling
import Nullability.Proofs.Provider.BuildOnce
import Nullability.Proofs.Provider.Gathering
import Nullability.Proofs.Provider.Lock
import Nullability.Proofs.Provider.Readers
import Nullability.Proofs.Provider.Soundness
import Nullability.Proofs.Resolver.Documents
import Nullability.Proofs.Resolver.Effect
import Nullability.Proofs.Resolver.History
import Nullability.Proofs.Resolver.Occasion
import Nullability.Proofs.Resolver.Refinement
import Nullability.Proofs.Resolver.Sequel
import Nullability.Proofs.Settings.Escape
import Nullability.Proofs.Settings.File
import Nullability.Proofs.Settings.Homes
import Nullability.Proofs.Settings.Illegible
import Nullability.Proofs.Settings.Judgement
import Nullability.Proofs.Settings.Meeting
import Nullability.Proofs.Settings.Precedence
import Nullability.Proofs.Settings.Reading
import Nullability.Proofs.Settings.Sources
import Nullability.Proofs.Settings.Spelling
import Nullability.Proofs.Settings.Stability
import Nullability.Proofs.Settings.Variables
import Nullability.Proofs.SideBySide.Disposal
import Nullability.Proofs.SideBySide.Document
import Nullability.Proofs.SideBySide.Invalidation
import Nullability.Proofs.SideBySide.Ownership
import Nullability.Proofs.SideBySide.Run
import Nullability.Proofs.SideBySide.Traffic
import Nullability.Proofs.Sorting
import Nullability.Proofs.Text.Digits
import Nullability.Proofs.Text.LetterCase
import Nullability.Proofs.Value.Key
import Nullability.Proofs.Value.Lookup
import Nullability.Proofs.Value.Merge
import Nullability.Proofs.Value.Overlay
import Nullability.Proofs.Xml.Declaration
import Nullability.Proofs.Yaml.Document
import Nullability.Provider
import Nullability.Resolver
import Nullability.Settings
import Nullability.Settings.File
import Nullability.Settings.Judged
import Nullability.Settings.Layers
import Nullability.Settings.Load
import Nullability.Settings.Reading
import Nullability.Settings.Variables
import Nullability.Severity
import Nullability.SideBySide
import Nullability.SideBySide.Eviction
import Nullability.SideBySide.Lookup
import Nullability.Sorting
import Nullability.Symbol
import Nullability.Text.Blank
import Nullability.Text.Digits
import Nullability.Text.LetterCase
import Nullability.Text.Printable
import Nullability.Text.Quoted
import Nullability.Text.Split
import Nullability.Text.Utf8
import Nullability.Value
import Nullability.Value.Json
import Nullability.Value.Merge
import Nullability.Workspace
import Nullability.Xml.CodePage
import Nullability.Xml.Content
import Nullability.Xml.DocumentType
import Nullability.Xml.Element
import Nullability.Xml.Entity
import Nullability.Xml.Markup
import Nullability.Xml.Name
import Nullability.Xml.Source
import Nullability.Yaml.Cursor
import Nullability.Yaml.Document
import Nullability.Yaml.Node
import Nullability.Yaml.Number
import Nullability.Yaml.Plain
import Nullability.Yaml.Token
import Nullability.Yaml.Token.Decoration
import Nullability.Yaml.Token.Lexer
import Nullability.Yaml.Token.Scalar
