import RequestGuard.Pattern.Scanner

/-!
# Patterns: sets between brackets

A set between square brackets is the union of its items, or their complement after `^`:
signs, ranges, escapes, named sets between `[:` and `:]`, and sets within.  The
operators `&&`, `--` and `~~` take what both sets have, what only the first has and what
only one of them has; they bind from left to right and weaker than the union.

Every set also has a depth, since patterns may be nested to a limit only.
-/

namespace RequestGuard
namespace Pattern
namespace Scan

/-- What two sets are made into. -/
inductive SetOp where
  | both
  | firstOnly
  | oneOnly

/-- A set between brackets of which a part has been read. -/
structure OpenSet where
  /-- Whether the complement is meant. -/
  negated : Bool
  /-- An operator and the set before it. -/
  pending : Option (SetOp × Ranges × Nat)
  /-- The items after the operator, or all. -/
  items : List (Ranges × Nat)

section Sets

/-- One above the largest member of a set. -/
def limit (f : Flags) : Nat :=
  if f.unicode then Ranges.charLimit else Ranges.byteLimit

/-- The set that an operator makes. -/
def applyOp (f : Flags) (op : SetOp) (a b : Ranges) : Ranges :=
  let a := folded f false a
  let b := folded f false b
  match op with
  | .both => a.intersect (limit f) b
  | .firstOnly => a.difference (limit f) b
  | .oneOnly => a.onlyOne (limit f) b

/-- The union of items and its depth. -/
def unionOf (items : List (Ranges × Nat)) : Ranges × Nat :=
  match items with
  | [] => ([], 0)
  | [item] => item
  | items =>
    (Ranges.tidy (items.flatMap Prod.fst), 1 + items.foldl (fun d i => max d i.2) 0)

/-- The set of an operator and what stands before and after it. -/
def OpenSet.value (f : Flags) (s : OpenSet) : Ranges × Nat :=
  let (b, depth) := unionOf s.items
  match s.pending with
  | none => (b, depth)
  | some (op, a, depthA) => (applyOp f op a b, 1 + max depthA depth)

/-- The set after its closing bracket. -/
def OpenSet.close (f : Flags) (s : OpenSet) : Ranges × Nat :=
  let (a, depth) := s.value f
  (folded f s.negated a, 1 + depth)

/-- A set before an operator. -/
def OpenSet.withOp (f : Flags) (s : OpenSet) (op : SetOp) : OpenSet :=
  let (a, depth) := s.value f
  { s with pending := some (op, a, depth), items := [] }

/-- A set with one more item. -/
def OpenSet.add (s : OpenSet) (item : Ranges × Nat) : OpenSet :=
  { s with items := item :: s.items }

end Sets

section Items

/-- The member of a set that a literal stands for.  Among bytes, a character beyond the
first 128 must be written as a byte. -/
def memberOf (code : Nat) (asByte : Bool) : Scan Nat := do
  let f ← flags
  if f.unicode || code < 128 || asByte then pure code else refuse

/-- A sign or an escape within brackets. -/
def itemSign : Scan Sign := do
  match ← peek with
  | none => refuse
  | some '\\' => escape
  | some c =>
    pass 1
    pure (.literal c.toNat false)

/-- A single item or a range. -/
def item : Scan Ranges := do
  let first ← itemSign
  space
  let c ← peek
  let d ← peekSpaced
  if c = none then refuse
  else if c ≠ some '-' ∨ d = some ']' ∨ d = some '-' then
    match first with
    | .literal code asByte =>
      let n ← memberOf code asByte
      pure (Ranges.single n)
    | .set a => pure a
    | _ => refuse
  else
    passSpaced
    let last ← itemSign
    match first, last with
    | .literal a asByteA, .literal b asByteB =>
      let m ← memberOf a asByteA
      let n ← memberOf b asByteB
      if a ≤ b then pure (Ranges.closed m n) else refuse
    | _, _ => refuse

/-- A named set between `[:` and `:]`, with the signs after it. -/
def namedSet? (f : Flags) (signs : List Char) : Option (Ranges × List Char) :=
  match signs with
  | '[' :: ':' :: rest =>
    let negated := rest.head? = some '^'
    let rest := if negated then rest.drop 1 else rest
    let name := rest.takeWhile (· ≠ ':')
    match rest.dropWhile (· ≠ ':') with
    | ':' :: ']' :: after =>
      (Ranges.ofLatinName? (String.ofList name)).map fun a => (folded f negated a, after)
    | _ => none
  | _ => none

/-- Passes a named set if one comes. -/
def namedSet : Scan (Option Ranges) := fun s =>
  match namedSet? s.flags s.rest with
  | some (a, rest) => some (some a, { s with rest })
  | none => some (none, s)

/-- Hyphens at the start of a set, which stand for themselves. -/
def firstHyphens : Nat → OpenSet → Scan OpenSet
  | 0, s => pure s
  | fuel + 1, s => do
    if ← comes "-" then
      passSpaced
      firstHyphens fuel (s.add (Ranges.single 45, 0))
    else pure s

/-- The start of a set at its opening bracket. -/
def openSet : Scan OpenSet := do
  passSpaced
  let negated ← comes "^"
  if negated then passSpaced
  let s ← (fun t => firstHyphens t.rest.length ⟨negated, none, []⟩ t : Scan OpenSet)
  if s.items.isEmpty && (← comes "]") then
    passSpaced
    pure (s.add (Ranges.single 93, 0))
  else pure s

/-- The rest of a set, its closing bracket included; `fuel` bounds the signs. -/
def closeSet : Nat → OpenSet → Scan (Ranges × Nat)
  | 0, _ => refuse
  | fuel + 1, s => do
    space
    let f ← flags
    match ← peek with
    | none => refuse
    | some '[' =>
      match ← namedSet with
      | some a => closeSet fuel (s.add (a, 0))
      | none =>
        let inner ← openSet
        let a ← closeSet fuel inner
        closeSet fuel (s.add a)
    | some ']' =>
      pass 1
      pure (s.close f)
    | some _ =>
      if ← passIf "&&" then closeSet fuel (s.withOp f .both)
      else if ← passIf "--" then closeSet fuel (s.withOp f .firstOnly)
      else if ← passIf "~~" then closeSet fuel (s.withOp f .oneOnly)
      else
        let a ← item
        closeSet fuel (s.add (a, 0))

/-- A set between brackets and its depth. -/
def bracket : Scan (Ranges × Nat) := do
  let s ← openSet
  (fun t => closeSet (t.rest.length + 1) s t : Scan (Ranges × Nat))

end Items

end Scan
end Pattern
end RequestGuard
