import RequestGuard.Text.Basic

/-!
# Paths

A path is a text whose parts stand between slashes.

* `join` puts one path below another: a path that starts with a slash stands alone, and
  a slash comes between the two unless one is there.  Nothing else is changed.
* `parts` is what a path says: repeated slashes, slashes at the end and steps to the same
  place say nothing, a leading step to the same place apart.
-/

namespace RequestGuard
namespace Files
namespace Path

/-- Does a path start at the root? -/
def isRooted (p : String) : Bool :=
  p.toList.head? == some '/'

/-- A path below another. -/
def join (above below : String) : String :=
  if isRooted below then below
  else if above.isEmpty ∨ above.toList.getLast? = some '/' then above ++ below
  else above ++ "/" ++ below

/-- The pieces of a path that say something. -/
def meaningful (pieces : List (List Char)) : List (List Char) :=
  pieces.filter fun p => !p.isEmpty && p != ['.']

/-- Whether a path starts at the root, and its parts. -/
def parts (p : String) : Bool × List (List Char) :=
  if isRooted p then (true, meaningful (Text.fields '/' p.toList))
  else
    match Text.fields '/' p.toList with
    | ['.'] :: more => (false, ['.'] :: meaningful more)
    | pieces => (false, meaningful pieces)

/-- The beginnings of a path that end where a piece ends, the shortest first. -/
def beginnings (p : String) : List String :=
  let pieces := Text.fields '/' p.toList
  (List.range pieces.length).map fun i => String.ofList (Text.join '/' (pieces.take (i + 1)))

/-- Do two paths say the same? -/
def same (p q : String) : Bool :=
  parts p == parts q

end Path
end Files
end RequestGuard
