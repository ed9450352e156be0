import RequestGuard.Pattern.Bracket

/-!
# Patterns: from signs to expressions

A pattern is made of alternatives between bars, each a sequence of pieces.  A piece is a
sign, an escape, a set or a group, and may be followed by repetitions.  A group starts
with `(` and remembers its match, unless `?:` follows; `?<name>` or `?P<name>` gives it
a name.  `(?flags)` changes flags up to the end of the group around it, `(?flags:` for a
group of its own.

`Syntax.parse?` refuses patterns that are nested too deep or that weigh too much.
-/

namespace RequestGuard
namespace Pattern

/-- A piece of a pattern. -/
structure Piece where
  /-- What it asks for. -/
  expr : Expr
  /-- How deep it is nested. -/
  depth : Nat
  /-- Whether it only changes flags, so that it cannot be repeated. -/
  silent : Bool

/-- What follows an opening bracket. -/
inductive Opening where
  /-- A change of flags, which is closed at once. -/
  | change (f : Flags)
  /-- A group with a number or without, and the flags in it. -/
  | group (index : Option Nat) (f : Flags)

namespace Scan

section Pieces

/-- Pieces one after the other; they are given from the last to the first. -/
def sequenceOf (pieces : List Piece) : Piece :=
  match pieces with
  | [] => ⟨.empty, 0, false⟩
  | [p] => p
  | pieces =>
    ⟨.seqAll (pieces.reverse.map Piece.expr), 1 + pieces.foldl (fun d p => max d p.depth) 0,
      false⟩

/-- Alternatives, given from the last to the first. -/
def choiceOf (pieces : List Piece) : Piece :=
  match pieces with
  | [] => ⟨.empty, 0, false⟩
  | [p] => p
  | pieces =>
    ⟨.altAll (pieces.reverse.map Piece.expr), 1 + pieces.foldl (fun d p => max d p.depth) 0,
      false⟩

/-- A set of characters or bytes, as the flags say. -/
def setExpr (f : Flags) (a : Ranges) : Expr :=
  if f.unicode then .char a else .byte a

/-- A literal with its variants of case. -/
def literalExpr (f : Flags) (code : Nat) (asByte : Bool) : Expr :=
  if f.unicode then .char (folded f false (Ranges.single code))
  else if code < 128 then .byte (folded f false (Ranges.single code))
  else if asByte then .byte (Ranges.single code)
  else .char (Ranges.single code)

/-- What a point stands for. -/
def anyExpr (f : Flags) : Expr :=
  let ends : Ranges :=
    if f.dotAll then []
    else if f.anyLineEnd then [(10, 11), (13, 14)]
    else [(10, 11)]
  setExpr f (ends.complement (limit f))

/-- A sign or an escape as a piece. -/
def signPiece : Scan Piece := do
  let f ← flags
  let s ← sign
  pure ⟨match s with
    | .literal code asByte => literalExpr f code asByte
    | .set a => setExpr f a
    | .any => anyExpr f
    | .look what => .look what, 0, false⟩

end Pieces

section Groups

/-- A flag and what it changes. -/
def setFlag? (f : Flags) (on : Bool) : Char → Option Flags
  | 'i' => some { f with caseless := on }
  | 'm' => some { f with multiLine := on }
  | 's' => some { f with dotAll := on }
  | 'U' => some { f with lazyFirst := on }
  | 'u' => some { f with unicode := on }
  | 'R' => some { f with anyLineEnd := on }
  | 'x' => some { f with spaced := on }
  | _ => none

/-- The flags up to a colon or a closing bracket.  `seen` holds the flags and the hyphen
before. -/
def flagsFrom : Nat → Flags → List Char → Scan (Flags × List Char)
  | 0, _, _ => refuse
  | fuel + 1, f, seen => do
    match ← peek with
    | none => refuse
    | some c =>
      if c = ':' ∨ c = ')' then
        if seen.head? = some '-' then refuse else pure (f, seen)
      else if seen.contains c then refuse
      else if c = '-' then
        pass 1
        flagsFrom fuel f (c :: seen)
      else
        match setFlag? f (!seen.contains '-') c with
        | none => refuse
        | some f =>
          pass 1
          flagsFrom fuel f (c :: seen)

/-- A sign that may stand in the name of a group. -/
def isNameSign (first : Bool) (c : Char) : Bool :=
  c = '_' || Ranges.isAnyLetter c ||
    (!first && (c = '.' || c = '[' || c = ']' || Ranges.isAnyNumber c))

/-- The largest number of groups. -/
def groupLimit : Nat := 0xFFFFFFFF

/-- The number of a new group. -/
def newGroup : Scan Nat := fun s =>
  if s.groups < groupLimit then some (s.groups + 1, { s with groups := s.groups + 1 })
  else none

/-- The name of a group up to `>`, which no other group may have. -/
def groupName (index : Nat) : Scan Unit := do
  let name ← run (· ≠ '>')
  if !(← passIf ">") then refuse
  let good :=
    match name with
    | [] => false
    | c :: more => isNameSign true c && more.all (isNameSign false)
  let text := String.ofList name
  (fun s =>
    if good && !(s.names.any fun n => n.1 == text) then
      some ((), { s with names := (text, index) :: s.names })
    else none : Scan Unit)

/-- What follows an opening bracket that comes next. -/
def opening : Scan Opening := do
  pass 1
  space
  if (← comes "?=") || (← comes "?!") || (← comes "?<=") || (← comes "?<!") then refuse
  let f ← flags
  let named ← passIf "?P<"
  if named || (← (if named then pure false else passIf "?<")) then
    let index ← newGroup
    groupName index
    pure (.group (some index) f)
  else if ← passIf "?" then
    let (g, seen) ← (fun s => flagsFrom (s.rest.length + 1) f [] s : Scan (Flags × List Char))
    if ← passIf ")" then
      if seen.isEmpty then refuse else pure (.change g)
    else
      pass 1
      pure (.group none g)
  else
    let index ← newGroup
    pure (.group (some index) f)

end Groups

section Repetitions

/-- Repeats the last piece. -/
def repeatLast (pieces : List Piece) (least : Nat) (most : Option Nat) (lazy : Bool) :
    Scan (List Piece) := do
  let f ← flags
  match pieces with
  | [] => refuse
  | p :: before =>
    if p.silent then refuse
    else pure (⟨.times p.expr least most (lazy == f.lazyFirst), p.depth + 1, false⟩ :: before)

/-- The bounds between curly brackets, the opening one of which comes next. -/
def bounds : Scan (Nat × Option Nat) := do
  passSpaced
  let first ← count?
  if ← comes "," then
    passSpaced
    if ← comes "\x7d" then
      match first with
      | none => refuse
      | some least => pure (least, none)
    else
      match first with
      | none => refuse
      | some least =>
        let most ← count
        if least ≤ most then pure (least, some most) else refuse
  else
    match first with
    | none => refuse
    | some n => pure (n, some n)

end Repetitions

/-- Reads alternatives up to a closing bracket or the end.  The alternatives before and
the pieces of the current one are given from the last to the first. -/
def alternatives : Nat → List Piece → List Piece → Scan Piece
  | 0, _, _ => refuse
  | fuel + 1, before, pieces => do
    space
    match ← peek with
    | none => pure (choiceOf (sequenceOf pieces :: before))
    | some ')' => pure (choiceOf (sequenceOf pieces :: before))
    | some '|' =>
      pass 1
      alternatives fuel (sequenceOf pieces :: before) []
    | some '(' =>
      let outer ← flags
      match ← opening with
      | .change f =>
        setFlags f
        alternatives fuel before (⟨.empty, 0, true⟩ :: pieces)
      | .group index f =>
        setFlags f
        let body ← alternatives fuel [] []
        if !(← passIf ")") then refuse
        setFlags outer
        let expr :=
          match index with
          | some i => Expr.group i body.expr
          | none => body.expr
        alternatives fuel before (⟨expr, body.depth + 1, false⟩ :: pieces)
    | some '[' =>
      let f ← flags
      let (a, depth) ← bracket
      alternatives fuel before (⟨setExpr f a, depth, false⟩ :: pieces)
    | some '?' =>
      pass 1
      let pieces ← repeatLast pieces 0 (some 1) (← passIf "?")
      alternatives fuel before pieces
    | some '*' =>
      pass 1
      let pieces ← repeatLast pieces 0 none (← passIf "?")
      alternatives fuel before pieces
    | some '+' =>
      pass 1
      let pieces ← repeatLast pieces 1 none (← passIf "?")
      alternatives fuel before pieces
    | some '\x7b' =>
      let (least, most) ← bounds
      if !(← comes "\x7d") then refuse
      passSpaced
      let pieces ← repeatLast pieces least most (← passIf "?")
      alternatives fuel before pieces
    | some _ =>
      let p ← signPiece
      alternatives fuel before (p :: pieces)

end Scan

namespace Expr

/-- Does an expression match whole characters only? -/
def isWhole : Expr → Bool
  | .empty => true
  | .char _ => true
  | .byte a => a.all fun r => r.2 ≤ 128
  | .look _ => true
  | .seq e f => e.isWhole && f.isWhole
  | .alt e f => e.isWhole && f.isWhole
  | .group _ e => e.isWhole
  | .times e _ _ _ => e.isWhole

end Expr

/-- An expression, the number of its groups and the names of some. -/
structure Syntax where
  /-- What the pattern asks for. -/
  expr : Expr
  /-- The number of groups. -/
  groups : Nat
  /-- The names of groups. -/
  names : List (String × Nat)

namespace Syntax

/-- How deep a pattern may be nested. -/
def depthLimit : Nat := 250

/-- Reads a pattern. -/
def parse? (options : Options) (pattern : String) : Option Syntax :=
  let signs := pattern.toList
  match Scan.alternatives (signs.length + 1) [] [] ⟨signs, options.flags, 0, []⟩ with
  | none => none
  | some (piece, s) =>
    if s.rest.isEmpty && piece.depth ≤ depthLimit && piece.expr.weight ≤ Expr.weightLimit &&
        (!options.wholeChars || piece.expr.isWhole) then
      some ⟨piece.expr, s.groups, s.names⟩
    else none

end Syntax
end Pattern
end RequestGuard
