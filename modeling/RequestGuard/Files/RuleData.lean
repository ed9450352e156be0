import RequestGuard.Config.Basic
import RequestGuard.Files.Tree

/-!
# Rule data

Rule data are files below the data directory: a directory for the version, and in it the
file.  A file without content holds no rule data.
-/

namespace RequestGuard
namespace RuleFile

open Files

/-- The path of a file of rule data. -/
def path (f : RuleFile) (dataDir : String) : String :=
  Path.join (Path.join dataDir f.version) f.fileName

/-- The path of a file that exists. -/
def resolve (f : RuleFile) (dataDir : String) (t : Tree) : Except Failure String :=
  let p := f.path dataDir
  if t.isFile p then .ok p else .error (.dataMissing p)

/-- The content of a file. -/
def load (f : RuleFile) (family : Family) (dataDir : String) (t : Tree) :
    Except Failure (List UInt8) := do
  let p ← f.resolve dataDir t
  match t.read p with
  | .error fault => .error (.unreadable p fault)
  | .ok [] => .error (.dataInvalid family s!"'{p}' is empty")
  | .ok bytes => .ok bytes

end RuleFile
end RequestGuard
