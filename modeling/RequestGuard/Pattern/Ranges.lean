import RequestGuard.Pattern.BoundaryTable
import RequestGuard.Pattern.CaseTable
import RequestGuard.Pattern.PropertyTable
import RequestGuard.Text.Steps

/-!
# Patterns: sets of characters and bytes

A set is a list of runs in order.  A run holds the numbers from its first bound up to,
but without, its second one; between two runs there is a gap.  `tidy` makes a set of any
runs, and all other operations go through it or through the complement.
-/

namespace RequestGuard
namespace Pattern

/-- Runs of numbers in order. -/
abbrev Ranges : Type := List (Nat × Nat)

namespace Ranges

section Operations

/-- Joins a run with those of the runs after it that it touches; they start in order. -/
def absorb (run : Nat × Nat) : List (Nat × Nat) → Ranges
  | [] => [run]
  | next :: more =>
    if next.1 ≤ run.2 then absorb (run.1, max run.2 next.2) more
    else run :: absorb next more

/-- The set of the numbers in any runs. -/
def tidy (runs : List (Nat × Nat)) : Ranges :=
  match (runs.filter fun r => r.1 < r.2).mergeSort fun r s => r.1 ≤ s.1 with
  | [] => []
  | run :: more => absorb run more

/-- The numbers of two sets. -/
def union (a b : Ranges) : Ranges :=
  tidy (a ++ b)

/-- The numbers from `low` up to a limit that are not in a set. -/
def gaps (limit : Nat) : Nat → Ranges → List (Nat × Nat)
  | low, [] => [(low, limit)]
  | low, run :: more => (low, min run.1 limit) :: gaps limit run.2 more

/-- The numbers below a limit that are not in a set. -/
def complement (limit : Nat) (a : Ranges) : Ranges :=
  tidy (gaps limit 0 a)

/-- The numbers below a limit that are in both sets. -/
def intersect (limit : Nat) (a b : Ranges) : Ranges :=
  complement limit (union (complement limit a) (complement limit b))

/-- The numbers below a limit that are in the first set only. -/
def difference (limit : Nat) (a b : Ranges) : Ranges :=
  intersect limit a (complement limit b)

/-- The numbers below a limit that are in one of the sets only. -/
def onlyOne (limit : Nat) (a b : Ranges) : Ranges :=
  union (difference limit a b) (difference limit b a)

/-- The set of one number. -/
def single (n : Nat) : Ranges :=
  [(n, n + 1)]

/-- The set of the numbers from one to another, both included. -/
def closed (a b : Nat) : Ranges :=
  [(a, b + 1)]

/-- The set as a table to look numbers up in. -/
def codeSet (a : Ranges) : Text.CodeSet :=
  ⟨(a.flatMap fun r => [r.1, r.2]).toArray⟩

/-- Pairs of bounds as runs. -/
def pairs : List Nat → Ranges
  | a :: b :: more => (a, b) :: pairs more
  | _ => []

/-- The set whose bounds are hexadecimal words. -/
def ofText (text : String) : Ranges :=
  pairs ((Text.words text).map Text.hexNumber)

end Operations

section Classes

/-- One above the largest code point. -/
def charLimit : Nat := 0x110000

/-- One above the largest byte. -/
def byteLimit : Nat := 0x100

/-- The decimal digits of the Latin script. -/
def latinDigits : Ranges :=
  closed 48 57

/-- The Latin letters. -/
def latinLetters : Ranges :=
  [(65, 91), (97, 123)]

/-- The Latin letters, the digits and the underscore. -/
def latinWord : Ranges :=
  tidy ([(95, 96)] ++ latinDigits ++ latinLetters)

/-- The blanks among the first 128 characters. -/
def latinSpace : Ranges :=
  [(9, 14), (32, 33)]

/-- A set of the first 128 characters by its name between colons. -/
def ofLatinName? : String → Option Ranges
  | "alnum" => some (tidy (latinDigits ++ latinLetters))
  | "alpha" => some latinLetters
  | "ascii" => some (closed 0 127)
  | "blank" => some [(9, 10), (32, 33)]
  | "cntrl" => some [(0, 32), (127, 128)]
  | "digit" => some latinDigits
  | "graph" => some (closed 33 126)
  | "lower" => some (closed 97 122)
  | "print" => some (closed 32 126)
  | "punct" => some [(33, 48), (58, 65), (91, 97), (123, 127)]
  | "space" => some latinSpace
  | "upper" => some (closed 65 90)
  | "word" => some latinWord
  | "xdigit" => some [(48, 58), (65, 71), (97, 103)]
  | _ => none

end Classes

section Properties

/-- The first row of a table that bears a name. -/
def byName? (table : List (String × String)) (name : String) : Option Ranges :=
  (table.find? fun row => (Text.words row.1).contains name.toList).map fun row =>
    ofText row.2

/-- The rows of a table up to the first one that bears a name. -/
def upToName? (table : List (String × String)) (name : String) : Option Ranges :=
  (table.findIdx? fun row => (Text.words row.1).contains name.toList).map fun i =>
    tidy ((table.take (i + 1)).flatMap fun row => ofText row.2)

/-- A name without capitals, blanks, hyphens, underscores and a leading `is`. -/
def plainName (name : String) : String :=
  let cs := name.toList
  let start := cs.take 2
  let isFirst := String.ofList (start.map Text.lowerChar) == "is"
  let kept := (if isFirst then cs.drop 2 else cs).filter fun c =>
    c.toNat < 128 && c ≠ ' ' && c ≠ '_' && c ≠ '-'
  let plain := String.ofList (kept.map Text.lowerChar)
  if isFirst && plain == "c" then "isc" else plain

/-- The characters of a general category. -/
def category? (name : String) : Option Ranges :=
  byName? PropertyTable.categories (plainName name)

/-- The characters of a script. -/
def script? (name : String) : Option Ranges :=
  byName? PropertyTable.scripts (plainName name)

/-- The characters used in a script. -/
def scriptUse? (name : String) : Option Ranges :=
  (byName? PropertyTable.scriptExtensions (plainName name)).orElse fun _ => script? name

/-- The characters that a name alone stands for: a property, a category or a script. -/
def named? (name : String) : Option Ranges :=
  let plain := plainName name
  let property :=
    if plain == "cf" || plain == "sc" || plain == "lc" then none
    else byName? PropertyTable.properties plain
  property.orElse fun _ => (category? name).orElse fun _ => script? name

/-- The characters for which a property has a value.  A character has an age from the version on
that added it. -/
def valued? (property value : String) : Option Ranges :=
  match plainName property with
  | "age" => upToName? BoundaryTable.ages (plainName value)
  | "gc" | "generalcategory" => category? value
  | "gcb" | "graphemeclusterbreak" => byName? BoundaryTable.graphemes (plainName value)
  | "sb" | "sentencebreak" => byName? BoundaryTable.sentences (plainName value)
  | "sc" | "script" => script? value
  | "scx" | "scriptextensions" => scriptUse? value
  | "wb" | "wordbreak" => byName? BoundaryTable.words (plainName value)
  | _ => none

/-- The word characters of all scripts. -/
def word : Ranges :=
  ofText PropertyTable.word

/-- The decimal digits of all scripts. -/
def digits : Ranges :=
  (category? "Nd").getD []

/-- The letters of all scripts, to look characters up in. -/
def letterSet : Text.CodeSet :=
  ((named? "alphabetic").getD []).codeSet

/-- The numbers of all scripts, to look characters up in. -/
def numberSet : Text.CodeSet :=
  ((category? "N").getD []).codeSet

/-- A letter of any script. -/
def isAnyLetter (c : Char) : Bool :=
  if c.toNat < 128 then Text.isLetter c else letterSet.contains c.toNat

/-- A number of any script. -/
def isAnyNumber (c : Char) : Bool :=
  if c.toNat < 128 then Text.isDigit c else numberSet.contains c.toNat

/-- The blanks. -/
def space : Ranges :=
  (byName? PropertyTable.properties "whitespace").getD []

end Properties

section Case

/-- The characters that are one letter up to case, letter by letter. -/
def orbits : List (List Nat) :=
  (Text.allWords CaseTable.orbits).map fun w => (Text.fields '.' w).map Text.hexNumber

/-- The characters of a set and those that differ from them in case alone. -/
def foldCase (a : Ranges) : Ranges :=
  let table := codeSet a
  let more := (orbits.filter fun o => o.any table.contains).flatMap fun o =>
    o.map fun c => (c, c + 1)
  tidy (a ++ more)

/-- The same for the Latin letters only. -/
def foldLatinCase (a : Ranges) : Ranges :=
  let shift (low high : Nat) (f : Nat → Nat) : List (Nat × Nat) :=
    a.map fun r => (f (max r.1 low), f (min r.2 high))
  tidy (a ++ shift 65 91 (· + 32) ++ shift 97 123 (· - 32))

end Case

end Ranges
end Pattern
end RequestGuard
