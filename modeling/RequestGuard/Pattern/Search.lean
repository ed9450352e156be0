import RequestGuard.Pattern.Program

/-!
# Patterns: search

The first match of a pattern in a text, and what its groups matched.  Of all matches the
one that starts first is found, and of those the one that prefers the first way of every
fork, from the start of the match on.

A search goes through pairs of a step and a spot and takes no pair twice: a pair that has
led to no match will not lead to one.  So the number of steps of a search is at most the
length of the text times the length of the program.
-/

namespace RequestGuard

/-- A pattern to search texts for. -/
structure Pattern where
  /-- Its steps. -/
  program : Pattern.Program
  /-- The number of its groups. -/
  groups : Nat
  /-- The names of groups. -/
  names : List (String × Nat)
  /-- Whether matches must start between characters. -/
  wholeChars : Bool

namespace Pattern

/-- Reads a pattern; none if it is not one. -/
def compile? (options : Options) (pattern : String) : Option Pattern :=
  (Syntax.parse? options pattern).map fun s =>
    ⟨.ofExpr s.expr, s.groups, s.names, options.wholeChars⟩

section Traversal

/-- A step at a spot, with the spots remembered so far. -/
structure Thread where
  /-- The number of the step. -/
  step : Nat
  /-- The spot. -/
  spot : Spot
  /-- The spots that slots remember, the last one first. -/
  slots : List (Nat × Nat)

/-- The threads that follow one, in the order in which they are preferred. -/
def Thread.followers (t : Thread) : Step → List Thread
  | .char a next =>
    match t.spot.charAfter? with
    | some (c, n) =>
      if a.contains c.toNat then [⟨next, t.spot.forward n, t.slots⟩] else []
    | none => []
  | .byte a next =>
    match t.spot.after with
    | b :: _ => if a.contains b.toNat then [⟨next, t.spot.forward 1, t.slots⟩] else []
    | [] => []
  | .look what next =>
    if t.spot.satisfies what then [⟨next, t.spot, t.slots⟩] else []
  | .save slot next => [⟨next, t.spot, (slot, t.spot.index) :: t.slots⟩]
  | .fork first second => [⟨first, t.spot, t.slots⟩, ⟨second, t.spot, t.slots⟩]
  | .done => []

/-- The pairs of a step and a spot that a search has taken. -/
structure Taken where
  /-- The number of spots of the text. -/
  width : Nat
  /-- Which pairs are taken. -/
  marks : Array Bool

namespace Taken

/-- No pair of a program and a text of some length is taken. -/
def none (p : Program) (length : Nat) : Taken :=
  ⟨length + 1, Array.replicate (p.steps.size * (length + 1)) false⟩

/-- The number of a pair. -/
def number (t : Taken) (step spot : Nat) : Nat :=
  step * t.width + spot

/-- Is a pair taken?  A pair out of bounds counts as taken. -/
def contains (t : Taken) (step spot : Nat) : Bool :=
  t.marks[t.number step spot]?.getD true

/-- Takes a pair. -/
def take (t : Taken) (step spot : Nat) : Taken :=
  match t with
  | ⟨width, marks⟩ => ⟨width, marks.setIfInBounds (step * width + spot) true⟩

end Taken

/-- Goes on with the first thread that has not been taken, until one is done.  Fuel bounds
the number of threads. -/
def traverse (p : Program) : Nat → List Thread → Taken → Option (List (Nat × Nat)) × Taken
  | 0, _, taken => (none, taken)
  | _, [], taken => (none, taken)
  | fuel + 1, t :: more, taken =>
    if taken.contains t.step t.spot.index then traverse p fuel more taken
    else
      match p.steps[t.step]? with
      | none => traverse p fuel more taken
      | some .done => (some t.slots, taken)
      | some s =>
        traverse p fuel (t.followers s ++ more) (taken.take t.step t.spot.index)

/-- The number of threads that a search can meet at most. -/
def threadLimit (p : Program) (length : Nat) : Nat :=
  2 * (p.steps.size + 1) * (length + 1) + 2

/-- Searches from a spot on, which goes forward byte by byte. -/
def searchFrom (p : Pattern) (limit : Nat) (before : List UInt8) (index : Nat) :
    List UInt8 → Taken → Option (List (Nat × Nat))
  | after, taken =>
    let spot : Spot := ⟨index, before, after⟩
    let (found, taken) :=
      if p.wholeChars && !spot.isBetweenChars then (none, taken)
      else traverse p.program limit [⟨p.program.start, spot, []⟩] taken
    match found, after with
    | some slots, _ => some slots
    | none, [] => none
    | none, b :: rest => searchFrom p limit (b :: before) (index + 1) rest taken

end Traversal

/-- A match: the text and the spots that slots remember. -/
structure Match where
  /-- The text. -/
  text : List UInt8
  /-- The spots of the match and its groups. -/
  slots : List (Nat × Nat)

namespace Match

/-- The spot that a slot remembers. -/
def slot? (m : Match) (slot : Nat) : Option Nat :=
  (m.slots.find? fun s => s.1 == slot).map Prod.snd

/-- What a group matched; the group 0 is the match itself. -/
def group? (m : Match) (i : Nat) : Option (List UInt8) :=
  match m.slot? (2 * i), m.slot? (2 * i + 1) with
  | some start, some stop => some ((m.text.drop start).take (stop - start))
  | _, _ => none

/-- What stands before the match. -/
def before (m : Match) : List UInt8 :=
  m.text.take ((m.slot? 0).getD 0)

/-- What stands after the match. -/
def after (m : Match) : List UInt8 :=
  m.text.drop ((m.slot? 1).getD 0)

end Match

/-- The first match of a pattern in a text. -/
def find? (p : Pattern) (text : List UInt8) : Option Match :=
  (searchFrom p (threadLimit p.program text.length) [] 0 text
    (.none p.program text.length)).map fun slots => ⟨text, slots⟩

/-- Does a pattern match somewhere in a text? -/
def isMatch (p : Pattern) (text : List UInt8) : Bool :=
  (p.find? text).isSome

end Pattern
end RequestGuard
