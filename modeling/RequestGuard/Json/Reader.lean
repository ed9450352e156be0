import RequestGuard.Json.Fault

/-!
# JSON: reading a text

A reader takes the bytes still to come and the number of bytes passed.  It answers a
value or a fault, and in both cases where it stopped, since the end of a list or an
object is looked for even after a fault within it.

`Reader.run` reads a whole text: blanks may follow the value, nothing else.
-/

namespace RequestGuard
namespace Json

/-- A place in a text: what is to come and how much has passed. -/
structure Cursor where
  /-- The bytes to come. -/
  rest : List UInt8
  /-- The number of bytes passed. -/
  passed : Nat

/-- What a reader answers, and where it stopped. -/
inductive Outcome (α : Type) where
  | ok (value : α) (stop : Cursor)
  | fail (fault : Fault) (stop : Cursor)

/-- A step that reads a value. -/
def Reader (α : Type) : Type := Cursor → Outcome α

namespace Reader

variable {α β : Type}

/-- Readers one after the other; the first fault ends the reading. -/
instance : Monad Reader where
  pure a := fun c => .ok a c
  bind r f := fun c =>
    match r c with
    | .ok a c => f a c
    | .fail fault c => .fail fault c

section Faults

/-- Fails where the reader stands. -/
def failHere (cause : Cause) : Reader α := fun c =>
  .fail ⟨cause, some c.passed⟩ c

/-- Fails at the byte to come, which the place counts in. -/
def failNext (cause : Cause) : Reader α := fun c =>
  .fail ⟨cause, some (if c.rest.isEmpty then c.passed else c.passed + 1)⟩ c

/-- Fails at a place that the list or object around it will give. -/
def failWithin (cause : Cause) : Reader α := fun c =>
  .fail ⟨cause, none⟩ c

/-- Gives a fault without a place the place where the reader stopped. -/
def placed (r : Reader α) : Reader α := fun c =>
  match r c with
  | .ok a c => .ok a c
  | .fail fault c => .fail (fault.placedAt c.passed) c

/-- Reads a body and then its end, which is looked for after a fault too.  The fault of
the body wins. -/
def closedBy (body : Reader α) (finish : Reader Unit) : Reader α := placed fun c =>
  match body c with
  | .ok a c => (do finish; pure a : Reader α) c
  | .fail fault c =>
    match finish c with
    | .ok _ c => .fail fault c
    | .fail _ c => .fail fault c

end Faults

section Bytes

/-- The byte to come. -/
def peek : Reader (Option UInt8) := fun c =>
  .ok c.rest.head? c

/-- The byte to come, which is passed. -/
def next : Reader (Option UInt8) := fun c =>
  match c.rest with
  | [] => .ok none c
  | b :: rest => .ok (some b) ⟨rest, c.passed + 1⟩

/-- Passes the byte to come. -/
def skip : Reader Unit := do
  let _ ← next

/-- The bytes to come as long as they satisfy `p`, which are passed. -/
def run (p : UInt8 → Bool) : Reader (List UInt8) := fun c =>
  let taken := c.rest.takeWhile p
  .ok taken ⟨c.rest.dropWhile p, c.passed + taken.length⟩

/-- A blank of the format. -/
def isBlank (b : UInt8) : Bool :=
  b == 32 || b == 10 || b == 9 || b == 13

/-- The byte after the blanks to come. -/
def afterBlanks : Reader (Option UInt8) := do
  let _ ← run isBlank
  peek

/-- The byte that a character stands for. -/
def byte (c : Char) : UInt8 :=
  UInt8.ofNat c.toNat

/-- A decimal digit. -/
def isDigit (b : UInt8) : Bool :=
  48 ≤ b && b ≤ 57

/-- The byte to come if it satisfies `p`. -/
def nextIs (p : UInt8 → Bool) : Reader Bool := fun c =>
  .ok ((c.rest.head?.map p).getD false) c

/-- The remaining letters of a word. -/
def word : List Char → Reader Unit
  | [] => pure ()
  | letter :: more => do
    match ← next with
    | none => failHere .valueMissing
    | some b => if b = byte letter then word more else failHere .wordExpected

end Bytes

/-- The value of a whole text, or what is wrong with it. -/
def ofText (r : Reader α) (text : List UInt8) : Except Fault α :=
  let whole : Reader α := do
    let a ← r
    match ← afterBlanks with
    | none => pure a
    | some _ => failNext .textTrailing
  match whole ⟨text, 0⟩ with
  | .ok a _ => .ok a
  | .fail fault _ => .error fault

end Reader
end Json
end RequestGuard
