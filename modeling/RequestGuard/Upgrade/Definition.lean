import RequestGuard.Text.Basic
import RequestGuard.Upgrade.Database

/-!
# Definitions of tables

The text of a definition tells which columns a table has, and which layout.

* `Definition.tokens` takes a text apart into names, words and marks.
* `Definition.columnNames` are the columns.
* `Definition.layout?` follows definitions of two columns, `host` and `rules`, as text.  The hosts
  can be a key.  Nothing else is followed.
-/

namespace RequestGuard
namespace Upgrade
namespace Definition

/-- A part of a definition. -/
inductive Token where
  /-- A name or a word of the language, in small letters. -/
  | word (text : List Char)
  | mark (c : Char)
  deriving DecidableEq, Repr

section Tokens

/-- Where a reader of tokens is. -/
inductive Within where
  | nothing
  /-- In a word, with its characters so far, the last one first. -/
  | word (read : List Char)
  /-- In a name up to a closing quote. -/
  | quoted (close : Char) (read : List Char)

/-- Is a character part of a word? -/
def isWordChar (c : Char) : Bool :=
  Text.isLetter c || Text.isDigit c || c == '_' || c == '$' || 128 ≤ c.toNat

/-- What closes a name that a character opens. -/
def closing? : Char → Option Char
  | '"' => some '"'
  | '\'' => some '\''
  | '\x60' => some '\x60'
  | '[' => some ']'
  | _ => none

/-- The word that was read. -/
def wordOf (read : List Char) : Token :=
  .word (read.reverse.map Text.lowerChar)

/-- The tokens of a text.  Without its closing quote a name counts as nothing. -/
def tokensFrom : Within → List Char → List Token
  | .nothing, [] => []
  | .word read, [] => [wordOf read]
  | .quoted _ _, [] => []
  | .quoted close read, c :: cs =>
    if c = close then wordOf read :: tokensFrom .nothing cs
    else tokensFrom (.quoted close (c :: read)) cs
  | .nothing, c :: cs =>
    if isWordChar c then tokensFrom (.word [c]) cs
    else
      match closing? c with
      | some close => tokensFrom (.quoted close []) cs
      | none => if Text.isBlank c then tokensFrom .nothing cs else .mark c :: tokensFrom .nothing cs
  | .word read, c :: cs =>
    if isWordChar c then tokensFrom (.word (c :: read)) cs
    else
      match closing? c with
      | some close => wordOf read :: tokensFrom (.quoted close []) cs
      | none =>
        if Text.isBlank c then wordOf read :: tokensFrom .nothing cs
        else wordOf read :: .mark c :: tokensFrom .nothing cs

/-- The tokens of a definition. -/
def tokens (definition : String) : List Token :=
  tokensFrom .nothing definition.toList

end Tokens

section Columns

/-- The parts between the brackets of a definition, which commas separate, and what stands
behind the brackets.  `depth` counts the brackets that are open within a part. -/
def partsFrom : Nat → List Token → List Token → List (List Token) × List Token
  | _, part, [] => ([part.reverse], [])
  | 0, part, .mark ')' :: more => ([part.reverse], more)
  | 0, part, .mark ',' :: more =>
    let (parts, rest) := partsFrom 0 [] more
    (part.reverse :: parts, rest)
  | depth, part, .mark '(' :: more => partsFrom (depth + 1) (.mark '(' :: part) more
  | depth + 1, part, .mark ')' :: more => partsFrom depth (.mark ')' :: part) more
  | depth, part, t :: more => partsFrom depth (t :: part) more

/-- The parts of the definition of a table, and what stands behind them. -/
def parts? : List Token → Option (List (List Token) × List Token)
  | .word create :: .word table :: .word _ :: .mark '(' :: more =>
    if create = "create".toList ∧ table = "table".toList then some (partsFrom 0 [] more) else none
  | _ => none

/-- The names of the columns, each with its constraints. -/
def columns? (definition : String) : Option (List (List Char × List Token)) := do
  let (parts, rest) ← parts? (tokens definition)
  if rest.isEmpty then
    parts.mapM fun
      | .word name :: constraints => some (name, constraints)
      | _ => none
  else none

/-- The words of constraints, if they are nothing else. -/
def words? (constraints : List Token) : Option (List String) :=
  constraints.mapM fun
    | .word w => some (String.ofList w)
    | .mark _ => none

end Columns

section Layouts

/-- Does a column of hosts with these constraints keep them apart? -/
def isKey? : List String → Option Bool
  | [] => some false
  | "not" :: "null" :: more => isKey? more
  | "primary" :: "key" :: more => (isKey? more).map fun _ => true
  | "unique" :: more => (isKey? more).map fun _ => true
  | _ => none

/-- Without the type text, which may stand in front. -/
def untyped : List String → List String
  | "text" :: more => more
  | words => words

/-- The layout of a table with these columns, as far as it is followed. -/
def layoutOf? (host rules : List Token) : Option Layout := do
  let rest := untyped (← words? rules)
  if rest = [] ∨ rest = ["not", "null"] then
    return if ← isKey? (untyped (← words? host)) then .keyed else .unkeyed
  else none

/-- The layout of a table, as far as its definition is followed. -/
def layout? (definition : String) : Option Layout := do
  match ← columns? definition with
  | [(first, a), (second, b)] =>
    if first = "host".toList ∧ second = "rules".toList then layoutOf? a b
    else if first = "rules".toList ∧ second = "host".toList then layoutOf? b a
    else none
  | _ => none

/-- The places of the columns for hosts and rules. -/
def places? (definition : String) : Option (Nat × Nat) := do
  let columns ← columns? definition
  let host ← columns.findIdx? fun c => c.1 = "host".toList
  let rules ← columns.findIdx? fun c => c.1 = "rules".toList
  return (host, rules)

/-- The definition of the table as it is made. -/
def made : String :=
  "CREATE TABLE httpse_rules (\n    host TEXT PRIMARY KEY,\n    rules TEXT NOT NULL\n)"

/-- The table is made with one row for each host. -/
theorem layout?_made : layout? made = some Table.empty.layout := by
  decide +kernel

end Layouts

end Definition
end Upgrade
end RequestGuard
