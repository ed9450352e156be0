import RequestGuard.CommandLine.Run

/-!
# The command line

Looks at the files that a call may read, runs it on them, and writes what has changed.
-/

namespace RequestGuard
namespace CommandLine

open Files

/-- What is at a path. -/
def look (path : String) : IO (Option Entry) := do
  try
    return some (.file (← IO.FS.readBinFile path).toList)
  catch
    | .inappropriateType .. => return some .directory
    | _ => return none

/-- A tree with what is at a path and on the way to it. -/
def learn (t : Tree) (path : String) : IO Tree :=
  (Path.beginnings path).foldlM (fun t p => do
    match ← look p, t.walk p with
    | some e, .ok place => return t.put place e
    | _, _ => return t) t

/-- The files that a call may read.  Which ones these are can depend on the first of
them. -/
def gather (i : Invocation) : IO Tree := do
  let first ← (i.config?.toList).foldlM learn Tree.empty
  (pathsOf i first).foldlM learn first

/-- Is a line told, given how often more lines were asked for? -/
def isTold (verbosity : Nat) (l : LogLine) : Bool :=
  l.level != .info || 0 < verbosity

/-- Prints what a call prints and writes the files it has changed. -/
def finish (verbosity : Nat) (before : Tree) (o : Outcome) : IO UInt32 := do
  for l in o.log.filter (isTold verbosity) do
    IO.eprintln s!"{l.level.name}: {l.text}"
  for (p, bytes) in o.files.changes before do
    IO.FS.writeBinFile p.text ⟨bytes.toArray⟩
  IO.print (Outcome.lines o.output)
  IO.eprint (Outcome.lines o.errors)
  return o.code.toUInt32

/-- Does what arguments ask for. -/
def call (arguments : List String) : IO UInt32 := do
  match read arguments with
  | .error _ => finish 0 .empty (run arguments .empty)
  | .ok i =>
    let t ← gather i
    finish i.verbosity t (i.run t)

end CommandLine
end RequestGuard

/-- Does what the arguments ask for. -/
def main (arguments : List String) : IO UInt32 :=
  RequestGuard.CommandLine.call arguments
