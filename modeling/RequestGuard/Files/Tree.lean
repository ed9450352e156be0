import RequestGuard.Failure
import RequestGuard.Files.Path
import RequestGuard.Text.Utf8

/-!
# File trees

Directories and the files in them.

* A `Place` is a way from the root, or from the working directory, without detours.  From the
  working directory it can lead up first; it is not known how the directories on the way up are
  called, so a way that leads down to them again is another place.
* `Tree.walk` follows a path as it is used to reach a file: every step is taken from a
  directory that exists, also a step up and a step to the same place.
* `Tree.reckon?` follows a path on paper: steps up take back the step before, and what
  does not exist can be passed.  Only below a file nothing can be.
-/

namespace RequestGuard
namespace Files

/-- A way without detours. -/
structure Place where
  /-- Whether it starts at the root, or else at the working directory. -/
  rooted : Bool
  /-- The names of the steps, the last one first.  From the working directory the first steps
  can be steps up. -/
  names : List (List Char)
  deriving DecidableEq, Repr

/-- What is at a place. -/
inductive Entry where
  | directory
  | file (bytes : List UInt8)
  deriving DecidableEq, Repr

/-- Directories and files. -/
structure Tree where
  /-- What is at each place. -/
  entries : List (Place × Entry)
  deriving DecidableEq, Repr

namespace Place

/-- The text of a place. -/
def text (p : Place) : String :=
  (if p.rooted then "/" else "") ++ String.ofList (Text.join '/' p.names.reverse)

/-- The step to the same place. -/
def isHere (step : List Char) : Bool :=
  step.isEmpty || step == ['.']

/-- The step up. -/
def isUp (step : List Char) : Bool :=
  step == ['.', '.']

/-- The root, the working directory, or a directory above that. -/
def isBase (p : Place) : Bool :=
  p.names.all isUp

/-- The place above.  Above the root is the root. -/
def above (p : Place) : Place :=
  if p.isBase then if p.rooted then p else { p with names := ['.', '.'] :: p.names }
  else { p with names := p.names.tail }

/-- The place of a name in a directory. -/
def below (p : Place) (name : List Char) : Place :=
  { p with names := name :: p.names }

/-- Where a path starts. -/
def startOf (path : String) : Place :=
  ⟨Path.isRooted path, []⟩

end Place

namespace Tree

section Entries

/-- A tree without files. -/
def empty : Tree :=
  ⟨[]⟩

/-- What is at a place.  The root, the working directory and those above it always exist. -/
def lookup? (t : Tree) (p : Place) : Option Entry :=
  if p.isBase then some .directory else t.entries.lookup p

/-- Puts an entry at a place. -/
def put (t : Tree) (p : Place) (e : Entry) : Tree :=
  ⟨(p, e) :: t.entries.filter fun q => q.1 != p⟩

/-- Makes the directories on the way to a place, as far as they are missing. -/
def makeWay (t : Tree) (rooted : Bool) : List (List Char) → Tree
  | [] => t
  | name :: names =>
    let t := t.makeWay rooted names
    let p : Place := ⟨rooted, name :: names⟩
    match t.lookup? p with
    | none => t.put p .directory
    | some _ => t

end Entries

section Paths

/-- One step of a path, which is taken from a directory. -/
def step (t : Tree) (p : Place) (step : List Char) : Except FileFault Place :=
  match t.lookup? p with
  | none => .error .absent
  | some (.file _) => .error .notDirectory
  | some .directory =>
    if Place.isHere step then .ok p
    else if Place.isUp step then .ok p.above
    else .ok (p.below step)

/-- The place to which a path leads. -/
def walk (t : Tree) (path : String) : Except FileFault Place :=
  if path.isEmpty then .error .absent
  else (Text.fields '/' path.toList).foldlM t.step (Place.startOf path)

/-- One step of a path on paper. -/
def paperStep (t : Tree) (p : Place) (step : List Char) : Option Place :=
  if Place.isHere step then some p
  else if Place.isUp step then some p.above
  else
    match t.lookup? p with
    | some (.file _) => none
    | _ => some (p.below step)

/-- The place that a path means on paper. -/
def reckon? (t : Tree) (path : String) : Option Place :=
  (Text.fields '/' path.toList).foldlM t.paperStep (Place.startOf path)

end Paths

section Access

/-- What a path leads to. -/
def find (t : Tree) (path : String) : Except FileFault Entry := do
  let p ← t.walk path
  match t.lookup? p with
  | some e => .ok e
  | none => .error .absent

/-- Does a path lead to a file? -/
def isFile (t : Tree) (path : String) : Bool :=
  match t.find path with
  | .ok (.file _) => true
  | _ => false

/-- The bytes of a file. -/
def read (t : Tree) (path : String) : Except FileFault (List UInt8) := do
  match ← t.find path with
  | .file bytes => .ok bytes
  | .directory => .error .isDirectory

/-- The text of a file. -/
def readText (t : Tree) (path : String) : Except FileFault String := do
  match Text.Utf8.decode (← t.read path) with
  | .ok cs => .ok (String.ofList cs)
  | .error _ => .error .notText

/-- Puts an entry where a path means on paper, with the directories above it. -/
def write (t : Tree) (path : String) (e : Entry) : Tree :=
  match t.reckon? path with
  | some p => (t.makeWay p.rooted p.names.tail).put p e
  | none => t

/-- Takes away what a path leads to, and all below it. -/
def delete (t : Tree) (path : String) : Tree :=
  match t.walk path with
  | .ok p => ⟨t.entries.filter fun q => !(q.1.rooted == p.rooted && p.names.isSuffixOf q.1.names)⟩
  | .error _ => t

/-- The files that are not in an earlier tree as they are now. -/
def changes (t earlier : Tree) : List (Place × List UInt8) :=
  t.entries.filterMap fun
    | (p, .file bytes) => if earlier.lookup? p == some (.file bytes) then none else some (p, bytes)
    | (_, .directory) => none

end Access

section Laws

/-- What was put at a place is there. -/
theorem lookup?_put (t : Tree) {p : Place} (h : p.isBase = false) (e : Entry) :
    (t.put p e).lookup? p = some e := by
  simp [lookup?, put, h]

/-- What is at other places stays. -/
theorem lookup?_put_of_ne (t : Tree) {p q : Place} (h : q ≠ p) (e : Entry) :
    (t.put p e).lookup? q = t.lookup? q := by
  have hrest : ∀ entries : List (Place × Entry),
      (entries.filter fun r => r.1 != p).lookup q = entries.lookup q := by
    intro entries
    induction entries with
    | nil => rfl
    | cons r rest ih =>
      obtain ⟨place, entry⟩ := r
      by_cases hr : place = p
      · have hne : (q == place) = false := by simpa [hr] using h
        simp [hr, List.lookup_cons, ← ih, hr ▸ hne]
      · by_cases hq : q = place
        · simp [hq, hq ▸ h]
        · have hne : (q == place) = false := by simpa using hq
          simp [hr, List.lookup_cons, hne, ih]
  have hpq : (q == p) = false := by simpa using h
  simp [lookup?, put, List.lookup_cons, hpq, hrest]

end Laws

end Tree
end Files
end RequestGuard
