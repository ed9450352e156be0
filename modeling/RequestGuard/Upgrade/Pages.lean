import RequestGuard.Text.Utf8
import RequestGuard.Upgrade.Definition

/-!
# Database files in pages

The rules table in a file of the engine, which is a tree of pages for every table.

* `Pages.payloads?` collects the records of a table: a page of the tree is a leaf with records,
  or leads to further pages.  What does not fit on a leaf follows on pages of its own.
* `Pages.fields?` takes a record apart into its fields.
* `Pages.table?` finds the definition of the rules table in the first page, and its rows.

A file is read as it is: nothing is looked for in journals beside it.
-/

namespace RequestGuard
namespace Upgrade

/-- A database file. -/
structure Pages where
  bytes : Array UInt8
  /-- The length of a page. -/
  size : Nat
  /-- How much of a page is used. -/
  usable : Nat

namespace Pages

/-- What a database file starts with. -/
def magic : List UInt8 :=
  Text.Utf8.bytes "SQLite format 3\x00"

section Numbers

/-- The number in some bytes, the highest one first. -/
def number? (bytes : Array UInt8) : Nat → Nat → Option Nat
  | _, 0 => some 0
  | start, length + 1 => do
    let high ← number? bytes start length
    let low ← bytes[start + length]?
    return high * 256 + low.toNat

/-- A number in seven bits of each byte while the eighth bit says that there is more; the last of
nine bytes is used as a whole.  The place behind it is told too. -/
def varintFrom? (bytes : Array UInt8) : Nat → Nat → Nat → Option (Nat × Nat)
  | 0, start, value => do
    let b ← bytes[start]?
    return (value * 256 + b.toNat, start + 1)
  | left + 1, start, value => do
    let b ← bytes[start]?
    if b < 128 then return (value * 128 + b.toNat, start + 1)
    else varintFrom? bytes left (start + 1) (value * 128 + (b.toNat - 128))

/-- The number at a place, and the place behind it. -/
def varint? (bytes : Array UInt8) (start : Nat) : Option (Nat × Nat) :=
  varintFrom? bytes 8 start 0

end Numbers

section Trees

/-- Where a page starts. -/
def start (f : Pages) (page : Nat) : Nat :=
  (page - 1) * f.size

/-- The number of pages. -/
def count (f : Pages) : Nat :=
  f.bytes.size / f.size

/-- The bytes that follow on pages of their own, at most as many as are left. -/
def overflow? (f : Pages) : Nat → Nat → Nat → Option (Array UInt8)
  | _, _, 0 => some #[]
  | 0, _, _ => none
  | fuel + 1, page, left => do
    let next ← number? f.bytes (f.start page) 4
    let here := min left (f.usable - 4)
    let rest ← overflow? f fuel next (left - here)
    return f.bytes.extract (f.start page + 4) (f.start page + 4 + here) ++ rest

/-- How much of a record of some length is on the leaf. -/
def onLeaf (f : Pages) (length : Nat) : Nat :=
  let most := f.usable - 35
  if length ≤ most then length
  else
    let least := (f.usable - 12) * 32 / 255 - 23
    let fitting := least + (length - least) % (f.usable - 4)
    if fitting ≤ most then fitting else least

/-- The record in a cell of a leaf. -/
def payload? (f : Pages) (cell : Nat) : Option (Array UInt8) := do
  let (length, behind) ← varint? f.bytes cell
  let (_, first) ← varint? f.bytes behind
  let here := f.onLeaf length
  let front := f.bytes.extract first (first + here)
  if front.size < here then none
  else if here = length then return front
  else
    let page ← number? f.bytes (first + here) 4
    return front ++ (← f.overflow? f.count page (length - here))

/-- The places of the cells of a page, given where its list of cells starts. -/
def cells? (f : Pages) (page header list : Nat) : Option (List Nat) := do
  let cells ← number? f.bytes (header + 3) 2
  (List.range cells).mapM fun i => do
    return f.start page + (← number? f.bytes (list + 2 * i) 2)

/-- The records of the tree below a page, whose depth is bounded. -/
def payloads? (f : Pages) : Nat → Nat → Option (List (Array UInt8))
  | 0, _ => none
  | depth + 1, page => do
    let header := f.start page + if page = 1 then 100 else 0
    match ← f.bytes[header]? with
    | 13 => (← f.cells? page header (header + 8)).mapM f.payload?
    | 5 =>
      let below ← (← f.cells? page header (header + 12)).mapM fun cell => number? f.bytes cell 4
      let last ← number? f.bytes (header + 8) 4
      return (← (below ++ [last]).mapM (payloads? f depth)).flatten
    | _ => none

end Trees

section Records

/-- A field of a record. -/
inductive Field where
  | text (cs : List Char)
  | whole (n : Nat)
  | real
  /-- Bytes, also those that are not a text although they should be. -/
  | blob
  | null

/-- The field of a type at a place, and the place behind it. -/
def field? (record : Array UInt8) (type start : Nat) : Option (Field × Nat) := do
  let whole (length : Nat) : Option (Field × Nat) := do
    return (.whole (← number? record start length), start + length)
  match type with
  | 0 => return (.null, start)
  | 1 | 2 | 3 | 4 => whole type
  | 5 => whole 6
  | 6 => whole 8
  | 7 => return (.real, start + 8)
  | 8 | 9 => return (.whole (type - 8), start)
  | 10 | 11 => none
  | _ =>
    let behind := start + (type - 12) / 2
    let bytes := (record.extract start behind).toList
    if record.size < behind then none
    else if type % 2 = 0 then return (.blob, behind)
    else return ((Text.Utf8.decode bytes).toOption.elim .blob .text, behind)

/-- The fields whose types stand from one place on up to another, and which start at a third. -/
def fieldsFrom? (record : Array UInt8) : Nat → Nat → Nat → Nat → Option (List Field)
  | 0, _, _, _ => none
  | fuel + 1, types, last, start =>
    if last ≤ types then some []
    else do
      let (type, types) ← varint? record types
      let (field, start) ← field? record type start
      return field :: (← fieldsFrom? record fuel types last start)

/-- The fields of a record. -/
def fields? (record : Array UInt8) : Option (List Field) := do
  let (last, types) ← varint? record 0
  fieldsFrom? record (record.size + 1) types last last

end Records

section Contents

/-- A statement that defines something, with the first page of its tree. -/
structure Defined where
  isTable : Bool
  page : Nat
  /-- The text of the statement; some things are made without one. -/
  text? : Option String

/-- The statements about the rules table. -/
def definitions? (f : Pages) : Option (List Defined) := do
  let records ← f.payloads? 20 1
  let rows ← records.mapM fields?
  return rows.filterMap fun
    | [.text type, .text name, .text table, page, text] =>
      if table.map Text.lowerChar = tableName.toList then
        some {
          isTable := type = "table".toList ∧ name.map Text.lowerChar = tableName.toList
          page := match page with
            | .whole n => n
            | _ => 0
          text? := match text with
            | .text cs => some (String.ofList cs)
            | _ => none }
      else none
    | _ => none

/-- The rules in a field. -/
def cellOf : Field → Cell
  | .text cs => .text (String.ofList cs)
  | .whole _ => .number true
  | .real => .number false
  | .blob => .binary
  | .null => .nothing

/-- A row of the table, if its host is a text. -/
def row? (host rules : Nat) (fields : List Field) : Option (String × Cell) :=
  match fields[host]? with
  | some (.text cs) => some (String.ofList cs, cellOf (fields[rules]?.getD .null))
  | _ => none

/-- The rules table of a definition, with the statements about it.  A table with hosts that are
not texts counts as defined in another way. -/
def tableOf? (f : Pages) (definitions : List String) (d : Defined) : Option Table := do
  let text ← d.text?
  match Definition.places? text with
  | none => return ⟨.other definitions, []⟩
  | some (host, rules) =>
    let records ← (← f.payloads? 20 d.page).mapM fields?
    let rows := records.filterMap (row? host rules)
    let layout := if definitions = [text] ∧ rows.length = records.length then
      (Definition.layout? text).getD (.other definitions) else .other definitions
    return ⟨layout, rows⟩

/-- The rules table, if there is one. -/
def database? (f : Pages) : Option Database := do
  let defined ← f.definitions?
  let texts := defined.filterMap (·.text?)
  match defined.find? (·.isTable) with
  | some d => return ⟨some (← f.tableOf? texts d)⟩
  | none => return ⟨if defined.isEmpty then none else some ⟨.other texts, []⟩⟩

/-- A file that starts as a database file does. -/
def ofBytes? (bytes : List UInt8) : Option Pages := do
  let all := bytes.toArray
  let told ← number? all 16 2
  let size := if told = 1 then 65536 else told
  let reserved ← all[20]?
  if 512 ≤ size ∧ size - reserved.toNat ≥ 480 ∧ all[56 + 3]? = some 1 then
    some ⟨all, size, size - reserved.toNat⟩
  else none

end Contents

end Pages
end Upgrade
end RequestGuard
