import RequestGuard.Pattern.Parser
import RequestGuard.Text.Utf8

/-!
# Patterns: steps

An expression as a table of steps.  A step says what is asked at a spot of the text and
which step comes next; a fork prefers its first way.

`Program.ofExpr` writes the steps from the last to the first, so that every step knows
the next one; only a repetition goes back.
-/

namespace RequestGuard
namespace Pattern

/-- A step of a match. -/
inductive Step where
  /-- A character of a set. -/
  | char (set : Text.CodeSet) (next : Nat)
  /-- A byte of a set. -/
  | byte (set : Text.CodeSet) (next : Nat)
  /-- A property of the spot. -/
  | look (what : Look) (next : Nat)
  /-- Remembers the spot. -/
  | save (slot next : Nat)
  /-- Two ways to go on. -/
  | fork (first second : Nat)
  /-- The end of a match. -/
  | done

/-- Steps by number, and the one at which a match starts. -/
structure Program where
  /-- The steps. -/
  steps : Array Step
  /-- The first step. -/
  start : Nat

namespace Program

/-- Adds a step; answers its number. -/
def push (steps : Array Step) (s : Step) : Nat × Array Step :=
  (steps.size, steps.push s)

/-- A fork that prefers to go on with a repetition if `greedy`. -/
def forkStep (greedy : Bool) (again out : Nat) : Step :=
  if greedy then .fork again out else .fork out again

/-- Applies a step to steps a number of times. -/
def iterate (f : Nat → Array Step → Nat × Array Step) :
    Nat → Nat × Array Step → Nat × Array Step
  | 0, s => s
  | n + 1, (next, steps) => iterate f n (f next steps)

/-- One or more matches of a body, and then `next`.  Answers the start of the body and the
fork after it. -/
def oneOrMore (body : Nat → Array Step → Nat × Array Step) (greedy : Bool) (next : Nat)
    (steps : Array Step) : Nat × Nat × Array Step :=
  let (fork, steps) := push steps .done
  let (start, steps) := body fork steps
  (start, fork, steps.setIfInBounds fork (forkStep greedy start next))

/-- Adds the steps of an expression, after which the step `next` comes; answers the first
one. -/
def add : Expr → Nat → Array Step → Nat × Array Step
  | .empty, next, steps => (next, steps)
  | .char a, next, steps => push steps (.char a.codeSet next)
  | .byte a, next, steps => push steps (.byte a.codeSet next)
  | .look what, next, steps => push steps (.look what next)
  | .seq e f, next, steps =>
    let (middle, steps) := add f next steps
    add e middle steps
  | .alt e f, next, steps =>
    let (second, steps) := add f next steps
    let (first, steps) := add e next steps
    push steps (.fork first second)
  | .group i e, next, steps =>
    let (stop, steps) := push steps (.save (2 * i + 1) next)
    let (start, steps) := add e stop steps
    push steps (.save (2 * i) start)
  | .times e least none greedy, next, steps =>
    let (start, fork, steps) := oneOrMore (add e) greedy next steps
    match least with
    | 0 =>
      if 0 < e.minLength then (fork, steps) else push steps (forkStep greedy start next)
    | least + 1 => iterate (add e) least (start, steps)
  | .times e least (some most) greedy, next, steps =>
    let once (after : Nat) (steps : Array Step) : Nat × Array Step :=
      let (start, steps) := add e after steps
      push steps (forkStep greedy start next)
    iterate (add e) least (iterate once (most - least) (next, steps))

/-- The steps of an expression, whose match as a whole is remembered in the slots 0
and 1. -/
def ofExpr (e : Expr) : Program :=
  let (start, steps) := add (.group 0 e) 0 #[.done]
  ⟨steps, start⟩

end Program

/-- A place in a text: the bytes before it, from the last to the first, their number and
the bytes after it. -/
structure Spot where
  /-- The number of bytes before. -/
  index : Nat
  /-- The bytes before, from the last to the first. -/
  before : List UInt8
  /-- The bytes after. -/
  after : List UInt8

namespace Spot

/-- The start of a text. -/
def start (text : List UInt8) : Spot :=
  ⟨0, [], text⟩

/-- The place after a number of bytes more. -/
def forward (s : Spot) (n : Nat) : Spot :=
  ⟨s.index + n, (s.after.take n).reverse ++ s.before, s.after.drop n⟩

/-- The character after a place and the number of its bytes. -/
def charAfter? (s : Spot) : Option (Char × Nat) :=
  match s.after with
  | [] => none
  | b :: _ =>
    if b < 0x80 then some (Char.ofNat b.toNat, 1)
    else
      match Text.Utf8.next 0 s.after with
      | .ok (c, n, _) => some (c, n)
      | .error _ => none

/-- The character before a place. -/
def charBefore? (s : Spot) : Option Char :=
  [1, 2, 3, 4].findSome? fun n =>
    match Text.Utf8.next 0 (s.before.take n).reverse with
    | .ok (c, m, []) => if m = n then some c else none
    | _ => none

/-- Is a place between two characters? -/
def isBetweenChars (s : Spot) : Bool :=
  match s.after with
  | [] => true
  | b :: _ => !Text.Utf8.isTail b

section Looks

/-- The word characters of all scripts, to look characters up in. -/
def wordSet : Text.CodeSet := Ranges.word.codeSet

/-- A Latin word character. -/
def isLatinWord (b : UInt8) : Bool :=
  let c := Char.ofNat b.toNat
  Text.isLetter c || Text.isDigit c || c == '_'

/-- Does a word character stand before a place? -/
def wordBefore (s : Spot) (latin : Bool) : Bool :=
  if latin then s.before.head?.any isLatinWord
  else s.charBefore?.any fun c => wordSet.contains c.toNat

/-- Does a word character stand after a place? -/
def wordAfter (s : Spot) (latin : Bool) : Bool :=
  if latin then s.after.head?.any isLatinWord
  else s.charAfter?.any fun c => wordSet.contains c.1.toNat

/-- Has a place a property? -/
def satisfies (s : Spot) : Look → Bool
  | .start => s.before.isEmpty
  | .finish => s.after.isEmpty
  | .lineStart => s.before.head?.all (· == 10)
  | .lineFinish => s.after.head?.all (· == 10)
  | .anyLineStart =>
    match s.before with
    | [] => true
    | b :: _ => b == 10 || (b == 13 && s.after.head? != some 10)
  | .anyLineFinish =>
    match s.after with
    | [] => true
    | b :: _ => b == 13 || (b == 10 && s.before.head? != some 13)
  | .wordEdge latin => s.wordBefore latin != s.wordAfter latin
  | .noWordEdge latin => s.wordBefore latin == s.wordAfter latin
  | .wordStart latin => !s.wordBefore latin && s.wordAfter latin
  | .wordFinish latin => s.wordBefore latin && !s.wordAfter latin
  | .noWordBefore latin => !s.wordBefore latin
  | .noWordAfter latin => !s.wordAfter latin

end Looks

end Spot
end Pattern
end RequestGuard
