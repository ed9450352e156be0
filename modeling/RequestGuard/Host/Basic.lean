import RequestGuard.Text.Basic

/-!
# Host names

A host name is a text of labels separated by dots.  This module holds the
operations that need no table: the normal form, the name above a name, and the
order "equal to or below".

* `normalize` trims blanks, drops final dots and makes Latin letters small.
* `parent?` removes the first label.
* `isWithin host domain` holds when `host` is `domain` or a name below it.
-/

namespace RequestGuard
namespace Host

/-- Blanks and final dots removed, Latin letters small. -/
def normalize (host : String) : String :=
  String.ofList
    ((Text.dropTrailing (· == '.') (Text.trimChars host.toList)).map Text.lowerChar)

/-- The labels of a host name, the first one first. -/
def labels (host : String) : List (List Char) :=
  Text.fields '.' host.toList

/-- What stands after the first dot, if that is anything. -/
def parentChars? : List Char → Option (List Char)
  | [] => none
  | c :: rest =>
    if c = '.' then (if rest.isEmpty then none else some rest)
    else parentChars? rest

/-- The name above a name: what stands after its first dot, if that is anything. -/
def parent? (host : String) : Option String :=
  (parentChars? host.toList).map String.ofList

/-- The name above a name is shorter. -/
theorem length_parentChars? {cs ps : List Char} (h : parentChars? cs = some ps) :
    ps.length < cs.length := by
  induction cs with
  | nil => simp [parentChars?] at h
  | cons c rest ih =>
    unfold parentChars? at h
    split at h
    · split at h
      · simp at h
      · simp only [Option.some.injEq] at h
        simp [← h]
    · have := ih h
      simp only [List.length_cons]
      omega

/-- A list of characters with every list above it, the nearest first. -/
def chainChars (cs : List Char) : List (List Char) :=
  match _h : parentChars? cs with
  | none => [cs]
  | some ps => cs :: chainChars ps
termination_by cs.length
decreasing_by exact length_parentChars? _h

/-- A name with every name above it, the nearest first. -/
def chain (host : String) : List String :=
  (chainChars host.toList).map String.ofList

/-- `host` is `domain`, or ends in a dot and `domain`; nothing is within the empty name. -/
def isWithin (host domain : String) : Bool :=
  !domain.isEmpty &&
    (host == domain || ('.' :: domain.toList).isSuffixOf host.toList)

end Host
end RequestGuard
