import Nullability.Fault

/-!
# Failures

What can stop an operation: a fault that the library reports by number, or something in the
surroundings, such as a value no operation is defined for, a path that leads nowhere, or an
interruption. The names are those by which reports call them.
-/

namespace Nullability

/-- Why an operation did not come to its end. -/
inductive Failure where
  | fault (fault : Fault)
  /-- A value is of the right kind but not acceptable. -/
  | badValue
  /-- A value is of the wrong kind. -/
  | badType
  /-- A number is too large for its purpose. -/
  | outOfRange
  /-- A key has no entry. -/
  | noEntry
  /-- A position is outside of a sequence. -/
  | outOfBounds
  /-- A part of a value is missing. -/
  | missingPart
  /-- A name is not listed. -/
  | unknownName
  /-- A text cannot be decoded. -/
  | undecodable
  /-- An encoding cannot be used on bytes. -/
  | badEncoding
  /-- A home folder cannot be found. -/
  | noHome
  /-- An operation has no end. -/
  | endless
  /-- A setting in the environment cannot be read. -/
  | badEnvironment
  | noSuchFile
  | isFolder
  | notFolder
  | alreadyExists
  /-- The operating system does not allow it. -/
  | notPermitted
  /-- The operating system cannot do what it is asked. -/
  | systemLimit
  /-- The user asked the program to stop. -/
  | interrupted
  deriving Inhabited

namespace Failure

/-- Whether the failure comes from the file system. -/
def isFileSystem : Failure → Bool
  | noSuchFile | isFolder | notFolder | alreadyExists | notPermitted | systemLimit => true
  | _ => false

/-- Whether the failure is a request to stop, which nothing handles. -/
def isInterrupt : Failure → Bool
  | interrupted => true
  | _ => false

/-- Whether a cache file with this failure counts as damaged. -/
def isDamagedCache : Failure → Bool
  | fault (.cacheCorrupt ..) | fault (.cacheSchemaMismatch ..) => true
  | _ => false

end Failure

/-- The name of a family of faults. -/
def Fault.Family.name : Fault.Family → String
  | .settings => "ConfigError"
  | .baseline => "MissingExternalAnnotationsError"
  | .document => "AnnotationParseError"
  | .cacheContent => "CacheCorruptError"
  | .cacheSchema => "CacheSchemaMismatchError"
  | .internal => "InternalError"

/-- The names of a family and of the wider families around it. -/
def Fault.Family.lineage (family : Fault.Family) : List String :=
  [family.name, "AnnotationsError", "Exception"]

namespace Failure

/-- The name of a failure in reports. -/
def name : Failure → String
  | fault f => f.family.name
  | badValue => "ValueError"
  | badType => "TypeError"
  | outOfRange => "OverflowError"
  | noEntry => "KeyError"
  | outOfBounds => "IndexError"
  | missingPart => "AttributeError"
  | unknownName => "LookupError"
  | undecodable => "UnicodeDecodeError"
  | badEncoding => "UnicodeError"
  | noHome => "RuntimeError"
  | endless => "RecursionError"
  | badEnvironment => "SettingsError"
  | noSuchFile => "FileNotFoundError"
  | isFolder => "IsADirectoryError"
  | notFolder => "NotADirectoryError"
  | alreadyExists => "FileExistsError"
  | notPermitted => "PermissionError"
  | systemLimit => "OSError"
  | interrupted => "KeyboardInterrupt"

/-- A failure in one line: its name, and for a fault its number and message. -/
def describe (failure : Failure) : String :=
  match failure with
  | fault f => failure.name ++ ": " ++ f.render
  | _ => failure.name ++ ": <python error>"

end Failure

end Nullability
