import RequestGuard.Pattern.Ranges

/-!
# Patterns: expressions

What a pattern asks of a text.  A text is a list of bytes; a character is one to four of
them.

* `minLength` is a number of bytes or characters that every match has at least.
* `weight` estimates the room that an expression takes when its counted repetitions are
  written out.  Patterns above a limit of weight are refused.
-/

namespace RequestGuard
namespace Pattern

/-- What a pattern asks of the place between two bytes. -/
inductive Look where
  /-- The start of the text. -/
  | start
  /-- The end of the text. -/
  | finish
  /-- The start of a line that ends with a line feed. -/
  | lineStart
  /-- The end of a line that ends with a line feed. -/
  | lineFinish
  /-- The start of a line that ends with a carriage return, a line feed or both. -/
  | anyLineStart
  /-- The end of such a line. -/
  | anyLineFinish
  /-- A word character on one side only, among all characters or the Latin ones. -/
  | wordEdge (latin : Bool)
  /-- Word characters on both sides or on none. -/
  | noWordEdge (latin : Bool)
  /-- The start of a word. -/
  | wordStart (latin : Bool)
  /-- The end of a word. -/
  | wordFinish (latin : Bool)
  /-- No word character before. -/
  | noWordBefore (latin : Bool)
  /-- No word character after. -/
  | noWordAfter (latin : Bool)
  deriving DecidableEq, Repr

/-- What a pattern asks of a text. -/
inductive Expr where
  | empty
  /-- A character of a set. -/
  | char (set : Ranges)
  /-- A byte of a set. -/
  | byte (set : Ranges)
  /-- A property of the place. -/
  | look (what : Look)
  /-- One after the other. -/
  | seq (first second : Expr)
  /-- One or the other; the first is preferred. -/
  | alt (first second : Expr)
  /-- An expression whose match is remembered. -/
  | group (index : Nat) (body : Expr)
  /-- An expression several times: as often as possible if `greedy`. -/
  | times (body : Expr) (least : Nat) (most : Option Nat) (greedy : Bool)
  deriving Repr

namespace Expr

/-- Expressions one after the other. -/
def seqAll (es : List Expr) : Expr :=
  match es with
  | [] => .empty
  | [e] => e
  | e :: more => .seq e (seqAll more)

/-- Expressions of which one is to match. -/
def altAll (es : List Expr) : Expr :=
  match es with
  | [] => .empty
  | [e] => e
  | e :: more => .alt e (altAll more)

/-- A length that every match has at least. -/
def minLength : Expr → Nat
  | .empty => 0
  | .char _ => 1
  | .byte _ => 1
  | .look _ => 0
  | .seq e f => e.minLength + f.minLength
  | .alt e f => min e.minLength f.minLength
  | .group _ e => e.minLength
  | .times e least _ _ => least * e.minLength

/-- The weight of a set of characters. -/
def setWeight (a : Ranges) : Nat :=
  if a.all fun r => r.2 ≤ 128 then 32 + 8 * a.length else 64 * a.length + 32

/-- The room that an expression takes, about in bytes.  This is an estimate: what a machine
for the expression takes is not known here, so that patterns near the limit can be judged
otherwise. -/
def weight : Expr → Nat
  | .empty => 32
  | .char a => setWeight a
  | .byte a => 32 + 8 * a.length
  | .look _ => 32
  | .seq e f => e.weight + f.weight
  | .alt e f => e.weight + f.weight + 8
  | .group _ e => e.weight + 64
  | .times e least none _ => max 1 least * e.weight + 80
  | .times e least (some most) _ => (max least most) * (e.weight + 40) + 32

/-- The largest weight of a pattern. -/
def weightLimit : Nat := 10 * 1024 * 1024

end Expr
end Pattern
end RequestGuard
