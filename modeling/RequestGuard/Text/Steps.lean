import RequestGuard.Text.Basic

/-!
# Tables over code points

Two forms of a table that speaks about every code point.

* `Steps` gives a value to the code points from one row to the next.
* `CodeSet` lists the bounds of the runs of a set: a code point is in the set when
  an odd number of bounds are at or below it.

Both look a code point up by halving the table.
-/

namespace RequestGuard
namespace Text

section Search

/-- The least position of `[lo, hi)` whose key is above `n`, or `hi`, for keys that
grow with the position. -/
def firstAbove (key : Nat → Nat) (n lo hi : Nat) : Nat :=
  if lo < hi then
    let middle := (lo + hi) / 2
    if key middle ≤ n then firstAbove key n (middle + 1) hi
    else firstAbove key n lo middle
  else lo
termination_by hi - lo

end Search

section Words

/-- The words of a text between blanks and line feeds. -/
def words (s : String) : List (List Char) :=
  (fields ' ' (s.toList.map fun c => if c = '\n' then ' ' else c)).filter (!·.isEmpty)

/-- The words of several texts. -/
def allWords (texts : List String) : List (List Char) :=
  texts.flatMap words

/-- The number that hexadecimal digits write; other characters count as zero. -/
def hexNumber (ds : List Char) : Nat :=
  ds.foldl (fun n c => 16 * n + (hexValue? c).getD 0) 0

/-- The characters that hexadecimal numbers between dots write. -/
def hexChars (ds : List Char) : List Char :=
  if ds.isEmpty then [] else (fields '.' ds).map fun d => Char.ofNat (hexNumber d)

/-- A word cut at the first occurrence of a mark. -/
def cutWord (mark : Char) (word : List Char) : List Char × List Char :=
  (word.takeWhile (· != mark), (word.dropWhile (· != mark)).drop 1)

end Words

/-- Rows that hold from their first code point up to the next row. -/
structure Steps (α : Type) where
  /-- The rows in the order of their first code points. -/
  rows : Array (Nat × α)

namespace Steps

variable {α : Type}

/-- The value of a code point; none before the first row. -/
def find? (s : Steps α) (n : Nat) : Option α :=
  match firstAbove (fun i => (s.rows[i]?.map Prod.fst).getD 0) n 0 s.rows.size with
  | 0 => none
  | i + 1 => s.rows[i]?.map Prod.snd

/-- The table whose rows are words: a hexadecimal code point, a mark and a value. -/
def ofWords (mark : Char) (read : List Char → α) (texts : List String) : Steps α where
  rows := ((allWords texts).map fun w =>
    let (start, value) := cutWord mark w
    (hexNumber start, read value)).toArray

end Steps

/-- A set of code points. -/
structure CodeSet where
  /-- Where the set begins, ends, begins again and so on. -/
  bounds : Array Nat

namespace CodeSet

/-- Is the code point in the set? -/
def contains (s : CodeSet) (n : Nat) : Bool :=
  firstAbove (fun i => s.bounds[i]?.getD 0) n 0 s.bounds.size % 2 == 1

/-- The set whose bounds are hexadecimal words. -/
def ofWords (texts : List String) : CodeSet where
  bounds := ((allWords texts).map hexNumber).toArray

end CodeSet

end Text
end RequestGuard
