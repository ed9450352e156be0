import RequestGuard.Files.Tree
import RequestGuard.Text.Quoted
import RequestGuard.Upgrade.DatabaseFile
import RequestGuard.Upgrade.Location
import RequestGuard.Upgrade.Upgrader

/-!
# Rule stores

An open rule database.  It is in memory only, or it belongs to a file.

* `openIn` opens the database of a file for reading and insists on the table.
* `connect` opens the database of a file for reading and writing, or makes one without a table.
* What is changed is kept in the file by `saved`.
-/

namespace RequestGuard
namespace Upgrade

open Files

/-- An open rule database. -/
structure RuleStore where
  /-- The place of its file, if it has one. -/
  place? : Option Place
  /-- Whether it can be written to. -/
  writable : Bool
  /-- The database. -/
  database : Database
  deriving DecidableEq, Repr

namespace Database

/-- The database in the file at a place. -/
def databaseAt (t : Tree) (p : Place) : Option Database :=
  match t.lookup? p with
  | some (.file bytes) => (ofBytes bytes).toOption
  | _ => none

end Database

namespace RuleStore

section Opening

/-- An empty store in memory. -/
def inMemory : RuleStore :=
  ⟨none, true, .empty⟩

/-- The store in memory that holds given rules. -/
def ofRules (rules : List (String × String)) : RuleStore :=
  ⟨none, true, .ofRows (rules.map fun (host, payload) => (host, .text payload))⟩

/-- May a file be made at a place? -/
def canMake (t : Tree) (p : Place) : Bool :=
  t.lookup? p.above == some .directory

/-- Opens a database. -/
def openAs (a : Access) (t : Tree) (path : String) : Except StoreFault RuleStore := do
  let l ← Location.ofPath a path
  match l.file? with
  | none => .ok ⟨none, l.access.writes, .blank⟩
  | some file =>
    match t.reckon? file with
    | none => .error (.cannotOpen path)
    | some p =>
      match t.lookup? p with
      | some (.file bytes) => (Database.ofBytes bytes).map fun d => ⟨some p, l.access.writes, d⟩
      | some .directory => .error (if l.access.writes then .cannotOpen path else .notReadable)
      | none =>
        if l.access = .create ∧ canMake t p then .ok ⟨some p, true, .blank⟩
        else .error (.cannotOpen path)

/-- Opens a database for reading and writing, with its table or without. -/
def connect (t : Tree) (path : String) : Except StoreFault RuleStore :=
  openAs .create t path

/-- Opens a database for reading. -/
def openIn (t : Tree) (path : String) : Except StoreFault RuleStore := do
  let s ← openAs .readOnly t path
  match s.database.table? with
  | none => .error (.tableMissing tableName)
  | some _ => .ok s

/-- The files when a database that was open is closed.  A file is written only if the database
is not the one in it. -/
def saved (s : RuleStore) (t : Tree) : Tree :=
  match s.place? with
  | none => t
  | some p =>
    if !s.writable || Database.databaseAt t p = some s.database then t
    else t.put p (.file s.database.bytes)

end Opening

section Rows

/-- The rules of a host. -/
def get (s : RuleStore) (host : String) : Except StoreFault (Option String) :=
  s.database.get host

/-- The number of hosts with rules. -/
def size (s : RuleStore) : Nat :=
  s.database.size

/-- Does no host have rules? -/
def isEmpty (s : RuleStore) : Bool :=
  s.size = 0

/-- The store as the upgrader asks it. -/
def ask : Ask RuleStore := fun s key =>
  (match s.get key with
    | .ok payload => .found payload
    | .error fault => .failed (.store fault), s)

/-- The store, in words. -/
def describe (s : RuleStore) : String :=
  let path := Text.Quoted.encode ((s.place?.map Place.text).getD "")
  s!"SqliteRuleStore \x7b path: Some({path}) \x7d"

end Rows

end RuleStore
end Upgrade
end RequestGuard
