import RequestGuard.Json.Container

/-!
# JSON: values of a known kind

Readers of a value that must be of one kind.  A value of another kind is read far enough
to name it in the fault.

A `Record` is a value with named members.  It is written as an object, whose members
may come in any order and may be left out where there is a default, or as a list of the
members' values in their order.  Members of other names are passed; a name given twice
is a fault.
-/

namespace RequestGuard
namespace Json
namespace Reader

variable {α σ : Type}

section Kinds

/-- The value to come, as far as a fault names it. -/
def found (b : UInt8) : Reader Found := do
  if b = byte 'n' then
    skip
    word "ull".toList
    pure .null
  else if b = byte 't' then
    skip
    word "rue".toList
    pure (.boolean true)
  else if b = byte 'f' then
    skip
    word "alse".toList
    pure (.boolean false)
  else if b = byte '-' then
    skip
    let n ← number false
    pure (.number n)
  else if isDigit b then
    let n ← number true
    pure (.number n)
  else if b = byte '"' then
    skip
    let s ← text
    pure (.string s)
  else if b = byte '[' then pure .sequence
  else if b = byte '\x7b' then pure .mapping
  else failNext .valueExpected

/-- Refuses the value to come, which is not of the expected kind. -/
def refuse (expected : String) (b : UInt8) : Reader α := do
  let f ← found b
  failHere (.kind f expected)

/-- Reads a value by its first byte. -/
def byFirst (read : UInt8 → Reader α) : Reader α := do
  match ← afterBlanks with
  | none => failNext .valueMissing
  | some b => read b

/-- A text, which a fault calls `expected`. -/
def textAs (expected : String) : Reader String :=
  byFirst fun b =>
    if b = byte '"' then do
      skip
      text
    else refuse expected b

/-- A text. -/
def string : Reader String :=
  textAs "a string"

/-- A truth value. -/
def boolean : Reader Bool :=
  byFirst fun b =>
    if b = byte 't' then do
      skip
      word "rue".toList
      pure true
    else if b = byte 'f' then do
      skip
      word "alse".toList
      pure false
    else refuse "a boolean" b

/-- A natural number up to a limit, which a fault calls `expected`. -/
def naturalUpTo (limit : Nat) (expected : String) : Reader Nat :=
  byFirst fun b =>
    if b = byte '-' ∨ isDigit b then do
      let f ← found b
      match f with
      | .number (.natural n) =>
        if n ≤ limit then pure n else failHere (.bounds f expected)
      | .number (.negative _) => failHere (.bounds f expected)
      | _ => failHere (.kind f expected)
    else refuse expected b

/-- A value, or nothing where null stands. -/
def optional (value : Reader α) : Reader (Option α) := do
  if (← afterBlanks) = some (byte 'n') then
    skip
    word "ull".toList
    pure none
  else
    let a ← value
    pure (some a)

/-- A list of values. -/
def list (item : Reader α) : Reader (List α) :=
  byFirst fun b =>
    if b = byte '[' then inList (items item) else refuse "a sequence" b

/-- An object whose values are of one kind, in the order of its members. -/
def mapping (value : Reader α) : Reader (List (String × α)) :=
  byFirst fun b =>
    if b = byte '\x7b' then
      inObject do
        let pairs ← members (fun pairs key => do
          colon
          let a ← value
          pure ((key, a) :: pairs)) []
        pure pairs.reverse
    else refuse "a map" b

end Kinds

end Reader

/-- A member of a record. -/
structure Member (σ : Type) where
  /-- The name. -/
  name : String
  /-- Whether the member must be given. -/
  required : Bool
  /-- Reads the value and says what it makes of the record. -/
  read : Reader (σ → σ)

/-- A kind of value with named members. -/
structure Record (σ : Type) where
  /-- The name by which faults call the kind. -/
  name : String
  /-- The value of which no member is given. -/
  start : σ
  /-- The members in their order. -/
  members : List (Member σ)

namespace Record

open Reader

variable {σ : Type}

/-- The name of the kind, in faults. -/
def expected (r : Record σ) : String :=
  "struct " ++ r.name

/-- The kind with the number of its members, in faults. -/
def expectedLength (r : Record σ) : String :=
  let n := r.members.length
  r.expected ++ s!" with {n} element" ++ (if n = 1 then "" else "s")

/-- Reads what follows a key, given the record so far and the names seen. -/
def member (r : Record σ) (s : σ × List String) (key : String) : Reader (σ × List String) :=
  match r.members.find? (·.name == key) with
  | none => do
    colon
    anything
    pure s
  | some m => do
    if s.2.contains key then failWithin (.memberTwice key)
    else
      colon
      let change ← m.read
      pure (change s.1, key :: s.2)

/-- The record, unless a member that must be given was not seen. -/
def complete (r : Record σ) (s : σ × List String) : Reader σ :=
  match r.members.find? fun m => m.required && !s.2.contains m.name with
  | some m => failWithin (.memberMissing m.name)
  | none => pure s.1

/-- Reads the values of the members to come from a list; `index` counts the members
before them, and `first` says that no value has been read yet. -/
def fromItems (r : Record σ) : List (Member σ) → Nat → Bool → σ → Reader σ
  | [], _, _, s => pure s
  | m :: more, index, first, s => do
    if ← anotherItem first then
      let change ← m.read
      fromItems r more (index + 1) false (change s)
    else if m.required then failWithin (.lengthTooSmall index r.expectedLength)
    else fromItems r more (index + 1) first s

/-- Reads a record. -/
def read (r : Record σ) : Reader σ :=
  byFirst fun b =>
    if b = byte '[' then inList (fromItems r r.members 0 true r.start)
    else if b = byte '\x7b' then
      inObject do
        let s ← Reader.members r.member (r.start, [])
        r.complete s
    else refuse r.expected b

end Record
end Json
end RequestGuard
