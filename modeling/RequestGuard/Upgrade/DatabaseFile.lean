import RequestGuard.Upgrade.Pages

/-!
# Databases in files

* `Database.ofBytes` reads the database of a file: one that the engine made
  (`Pages.database?`), or one in the notation of `Database.bytes`.  A file with at most one byte
  is a database in which there is nothing yet.
* `Database.bytes` is that notation.  It stands for what the engine keeps in the file; the bytes
  are others, and nothing depends on them.
-/

namespace RequestGuard
namespace Upgrade

namespace Notation

/-- Some characters, with their end marked. -/
def marked (cs : List Char) : List Char :=
  cs.flatMap (fun c => ['+', c]) ++ ['.']

/-- The texts that were marked, one after the other. -/
def unmarked? : List Char → Option (List (List Char))
  | [] => some []
  | '.' :: more => (unmarked? more).map ([] :: ·)
  | '+' :: c :: more =>
    match unmarked? more with
    | some (cs :: texts) => some ((c :: cs) :: texts)
    | _ => none
  | _ => none

/-- A layout. -/
def ofLayout : Layout → List Char
  | .keyed => ['k']
  | .unkeyed => ['u']
  | .other definitions => 'o' :: definitions.flatMap fun d => marked d.toList

/-- The layout that was written. -/
def layout? : List Char → Option Layout
  | ['k'] => some .keyed
  | ['u'] => some .unkeyed
  | 'o' :: cs => (unmarked? cs).map fun texts => .other (texts.map String.ofList)
  | _ => none

/-- The rules of a host. -/
def ofCell : Cell → List Char
  | .text payload => 't' :: payload.toList
  | .binary => ['b']
  | .number true => ['i']
  | .number false => ['r']
  | .nothing => ['n']

/-- The rules that were written. -/
def cell? : List Char → Option Cell
  | 't' :: cs => some (.text (String.ofList cs))
  | ['b'] => some .binary
  | ['i'] => some (.number true)
  | ['r'] => some (.number false)
  | ['n'] => some .nothing
  | _ => none

/-- The rows that were written. -/
def rows? : List (List Char) → Option Rows
  | [] => some []
  | [_] => none
  | host :: rules :: more => do
    let c ← cell? rules
    return (String.ofList host, c) :: (← rows? more)

/-- A table. -/
def ofTable (table : Table) : List Char :=
  (ofLayout table.layout :: table.rows.flatMap fun r => [r.1.toList, ofCell r.2]).flatMap marked

/-- The table that was written. -/
def table? (cs : List Char) : Option Table := do
  match ← unmarked? cs with
  | layout :: rows => return ⟨← layout? layout, ← rows? rows⟩
  | [] => none

end Notation

namespace Database

/-- What a database in this notation starts with. -/
def header : List UInt8 :=
  Text.Utf8.bytes "Rule database 1\n"

/-- A database as it is written.  Without a table there is nothing to write. -/
def bytes (d : Database) : List UInt8 :=
  match d.table? with
  | none => []
  | some table => header ++ Text.Utf8.encode (Notation.ofTable table)

/-- The table that was written. -/
def tableOf? (bytes : List UInt8) : Option Table :=
  (Text.Utf8.decode bytes).toOption.bind Notation.table?

/-- The database of a file. -/
def ofBytes (bytes : List UInt8) : Except StoreFault Database :=
  if bytes.length ≤ 1 then .ok blank
  else if header.isPrefixOf bytes then
    match tableOf? (bytes.drop header.length) with
    | some table => .ok ⟨some table⟩
    | none => .error .malformed
  else if Pages.magic.isPrefixOf bytes then
    match (Pages.ofBytes? bytes).bind Pages.database? with
    | some d => .ok d
    | none => .error .malformed
  else .error .notDatabase

end Database
end Upgrade
end RequestGuard
