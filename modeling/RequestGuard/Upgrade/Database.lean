import RequestGuard.Failure

/-!
# Rule databases

A table of rule payloads by host, as the engine of the database keeps it.

* A database without the table is not the same as one with an empty table.
* The table is made with one row for each host (`Layout.keyed`).  A table that is already there
  is kept, however it is defined: without a key rows are only added (`Layout.unkeyed`), and
  with triggers, further columns or constraints only the engine knows what becomes of them
  (`Layout.other`).
* An `Engine` is what is not known of the engine: the statements that fail, and what they do to
  a table of the last kind.
-/

namespace RequestGuard
namespace Upgrade

/-- The rules of a host as they are stored. -/
inductive Cell where
  | text (payload : String)
  | binary
  /-- A number, whole or not. -/
  | number (whole : Bool)
  | nothing
  deriving DecidableEq, Repr

/-- What a cell holds, in a word. -/
def Cell.typeName : Cell → String
  | .text _ => "Text"
  | .binary => "Blob"
  | .number true => "Integer"
  | .number false => "Real"
  | .nothing => "Null"

/-- The rows of a table in the order in which they are read: hosts and their rules. -/
abbrev Rows : Type := List (String × Cell)

/-- How a table is defined. -/
inductive Layout where
  /-- A host has one row.  This is how the table is made. -/
  | keyed
  /-- A host can have several rows, of which the first is found. -/
  | unkeyed
  /-- In another way, by these statements. -/
  | other (definitions : List String)
  deriving DecidableEq, Repr

/-- The table. -/
structure Table where
  /-- How it is defined. -/
  layout : Layout
  /-- Its rows. -/
  rows : Rows
  deriving DecidableEq, Repr

/-- A database. -/
structure Database where
  /-- The table, if there is one. -/
  table? : Option Table
  deriving DecidableEq, Repr

/-- The name of the table. -/
def tableName : String :=
  "httpse_rules"

/-- What is not known of the engine that keeps a database. -/
structure Engine where
  /-- The faults of the statements that fail, by their numbers. -/
  trouble : Nat → Option StoreFault
  /-- What becomes of the rows of a table that is defined in another way, by these statements,
  when a host is given rules. -/
  putOther : List String → Rows → String → String → Except StoreFault Rows

/-- The engine where nothing fails, and that does not follow definitions of another kind. -/
def Engine.standard : Engine where
  trouble _ := none
  putOther _ _ _ _ := .error (.otherTable tableName)

namespace Table

/-- The rows after a host was given rules in place of those it had. -/
def replaced (rows : Rows) (host : String) (c : Cell) : Rows :=
  rows.filter (fun r => r.1 != host) ++ [(host, c)]

/-- The table as it is made. -/
def empty : Table :=
  ⟨.keyed, []⟩

/-- Gives a host rules. -/
def put (engine : Engine) (table : Table) (host rules : String) : Except StoreFault Table :=
  match table.layout with
  | .keyed => .ok { table with rows := replaced table.rows host (.text rules) }
  | .unkeyed => .ok { table with rows := table.rows ++ [(host, .text rules)] }
  | .other definitions =>
    (engine.putOther definitions table.rows host rules).map fun rows => { table with rows }

end Table

namespace Database

/-- Nothing, not even a table. -/
def blank : Database :=
  ⟨none⟩

/-- A table without rows. -/
def empty : Database :=
  ⟨some .empty⟩

/-- The rows, if there is a table. -/
def rows? (d : Database) : Option Rows :=
  d.table?.map Table.rows

/-- The rows. -/
def rows (d : Database) : Rows :=
  d.rows?.getD []

/-- The database with a table.  If there was one before, it is kept. -/
def withTable (d : Database) : Database :=
  ⟨some (d.table?.getD .empty)⟩

/-- The number of rows. -/
def size (d : Database) : Nat :=
  d.rows.length

/-- Gives a host rules. -/
def put (engine : Engine) (d : Database) (host rules : String) : Except StoreFault Database :=
  match d.table? with
  | none => .error (.tableMissing tableName)
  | some table => (table.put engine host rules).map fun table => ⟨some table⟩

/-- The database with one row for each of these hosts, of several the last. -/
def ofRows (rows : Rows) : Database :=
  ⟨some ⟨.keyed, rows.foldl (fun all r => Table.replaced all r.1 r.2) []⟩⟩

/-- The rules of a host. -/
def get (d : Database) (host : String) : Except StoreFault (Option String) :=
  match d.rows? with
  | none => .error (.tableMissing tableName)
  | some rows =>
    match rows.lookup host with
    | none => .ok none
    | some (.text payload) => .ok (some payload)
    | some c => .error (.wrongType c.typeName 0 "rules")

end Database
end Upgrade
end RequestGuard
