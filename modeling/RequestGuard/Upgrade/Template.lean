import RequestGuard.Pattern.Search

/-!
# Replacement templates

What takes the place of a match.  A template is text with references to groups: `$1`,
`\1` and `${1}` are the text of the first group, `${name}` and `$name` of a named one,
and `$$` is a dollar sign.  A group that there is not, or that took no part in the
match, has no text.

`braced` writes the references by number alike, between brackets, so that what follows
them cannot be taken for a part of them.  `pieces` then reads the text and the
references.
-/

namespace RequestGuard
namespace Upgrade

open Text

/-- A part of a template. -/
inductive Piece where
  /-- Text that stands for itself. -/
  | text (bytes : List UInt8)
  /-- The group of a number. -/
  | group (index : Nat)
  /-- The group of a name. -/
  | named (name : String)
  deriving DecidableEq, Repr

namespace Piece

section References

/-- The decimal digits of all scripts, to look characters up in. -/
def digitSet : CodeSet := Pattern.Ranges.digits.codeSet

/-- A decimal digit of any script. -/
def isAnyDigit (c : Char) : Bool :=
  digitSet.contains c.toNat

/-- A template whose references by number stand between brackets.  `skip` counts the
signs that have been written already. -/
def bracedFrom : Nat → List Char → List Char
  | _, [] => []
  | skip + 1, _ :: rest => bracedFrom skip rest
  | 0, c :: rest =>
    let digits := rest.takeWhile isAnyDigit
    if (c = '\\' ∨ c = '$') ∧ !digits.isEmpty then
      ['$', '\x7b'] ++ digits ++ ['\x7d'] ++ bracedFrom digits.length rest
    else c :: bracedFrom 0 rest

/-- A template whose references by number stand between brackets. -/
def braced (template : List Char) : List Char :=
  bracedFrom 0 template

end References

section Pieces

/-- A sign of a name without brackets. -/
def isNameSign (c : Char) : Bool :=
  isLetter c || isDigit c || c == '_'

/-- The largest number of a group. -/
def indexLimit : Nat := 0xFFFFFFFFFFFFFFFF

/-- What a name refers to: a group by number if it is a number, which may have a sign. -/
def ofName (name : List Char) : Piece :=
  let digits := if name.head? = some '+' then name.drop 1 else name
  let n := decimal digits
  if !digits.isEmpty && digits.all isDigit && n ≤ indexLimit then .group n
  else .named (String.ofList name)

/-- The reference after a dollar sign, and the number of the signs after the dollar sign
that it takes. -/
def reference? : List Char → Option (Piece × Nat)
  | '\x7b' :: rest =>
    let name := rest.takeWhile (· ≠ '\x7d')
    if (rest.drop name.length).isEmpty then none else some (ofName name, name.length + 2)
  | rest =>
    let name := rest.takeWhile isNameSign
    if name.isEmpty then none else some (ofName name, name.length)

/-- The pieces of a template.  `skip` counts the signs that have been read already. -/
def piecesFrom : Nat → List Char → List Piece
  | _, [] => []
  | skip + 1, _ :: rest => piecesFrom skip rest
  | 0, c :: rest =>
    if c ≠ '$' then .text (Utf8.encodeChar c) :: piecesFrom 0 rest
    else if rest.head? = some '$' then .text (Utf8.encodeChar '$') :: piecesFrom 1 rest
    else
      match reference? rest with
      | some (piece, n) => piece :: piecesFrom n rest
      | none => .text (Utf8.encodeChar '$') :: piecesFrom 0 rest

/-- The pieces of a template. -/
def pieces (template : List Char) : List Piece :=
  piecesFrom 0 template

/-- What a piece stands for in a match. -/
def expand (p : Pattern) (m : Pattern.Match) : Piece → List UInt8
  | .text bytes => bytes
  | .group i => (m.group? i).getD []
  | .named name =>
    match p.names.find? fun n => n.1 == name with
    | some (_, i) => (m.group? i).getD []
    | none => []

end Pieces

end Piece

/-- The bytes of a text with its first match replaced by a template. -/
def replaceFirst (p : Pattern) (m : Pattern.Match) (template : String) : List UInt8 :=
  m.before ++ (Piece.pieces (Piece.braced template.toList)).flatMap (Piece.expand p m) ++ m.after

end Upgrade
end RequestGuard
