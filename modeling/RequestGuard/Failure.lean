import RequestGuard.Family

/-!
# Failures

Why rule data or a configuration could not be had.  `Failure.message` puts each into
words.
-/

namespace RequestGuard

/-- Why a file could not be read or written. -/
inductive FileFault where
  | absent
  | notDirectory
  | isDirectory
  | notText
  | other (text : String)
  deriving DecidableEq, Repr

/-- A file fault, in words. -/
def FileFault.message : FileFault → String
  | .absent => "No such file or directory (os error 2)"
  | .notDirectory => "Not a directory (os error 20)"
  | .isDirectory => "Is a directory (os error 21)"
  | .notText => "stream did not contain valid UTF-8"
  | .other text => text

/-- Why a rule store did not answer. -/
inductive StoreFault where
  | readOnly
  | cannotOpen (path : String)
  /-- The address of a database names a machine. -/
  | foreignAuthority (authority : String)
  /-- The address of a database asks for a mode that there is not. -/
  | unknownMode (kind mode : String)
  /-- The address of a database asks for more than it may. -/
  | modeNotAllowed (kind mode : String)
  /-- The address of a database names a file system that there is not. -/
  | unknownSystem (name : String)
  | tableMissing (table : String)
  /-- The table is defined in a way that is not followed. -/
  | otherTable (table : String)
  | notDatabase
  | malformed
  | wrongType (type : String) (index : Nat) (name : String)
  | notQuery
  | notReadable
  deriving DecidableEq, Repr

/-- A store fault, in words. -/
def StoreFault.message : StoreFault → String
  | .readOnly => "attempt to write a readonly database"
  | .cannotOpen path => s!"unable to open database file: {path}"
  | .foreignAuthority authority => s!"invalid uri authority: {authority}"
  | .unknownMode kind mode => s!"no such {kind} mode: {mode}"
  | .modeNotAllowed kind mode => s!"{kind} mode not allowed: {mode}"
  | .unknownSystem name => s!"no such vfs: {name}"
  | .tableMissing table => s!"no such table: {table}"
  | .otherTable table => s!"the definition of {table} is not followed"
  | .notDatabase => "file is not a database"
  | .malformed => "database disk image is malformed"
  | .wrongType type index name => s!"Invalid column type {type} at index: {index}, name: {name}"
  | .notQuery => "Query is not read-only"
  | .notReadable => "disk I/O error"

/-- Why rule data or a configuration could not be had. -/
inductive Failure where
  /-- A file could not be read. -/
  | unreadable (path : String) (fault : FileFault)
  /-- Rule data are not where they should be. -/
  | dataMissing (path : String)
  /-- Rule data do not have the form of their family. -/
  | dataInvalid (family : Family) (reason : String)
  /-- The rule store did not answer. -/
  | store (fault : StoreFault)
  /-- No regional list is meant for the locale. -/
  | noRegionalList (locale : String)
  /-- The configuration cannot be used. -/
  | config (reason : String)
  deriving DecidableEq, Repr

/-- A failure, in words. -/
def Failure.message : Failure → String
  | .unreadable path fault => s!"Failed to read '{path}': {fault.message}"
  | .dataMissing path => s!"Rule data not found: {path}"
  | .dataInvalid family reason => s!"Invalid {family.name} rule data: {reason}"
  | .store fault => s!"Rule store error: {fault.message}"
  | .noRegionalList locale => s!"No regional list selected for locale '{locale}'"
  | .config reason => s!"Invalid configuration: {reason}"

end RequestGuard
