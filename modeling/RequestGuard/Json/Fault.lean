import RequestGuard.Json.Number
import RequestGuard.Text.Quoted

/-!
# JSON: what can be wrong with a text

A fault has a cause and, as soon as it is known, a place.  A place is the number of bytes
before it; messages count lines and columns.
-/

namespace RequestGuard
namespace Json

/-- A value that stands where another kind of value should. -/
inductive Found where
  | null
  | boolean (b : Bool)
  | number (n : Number)
  | string (s : String)
  | sequence
  | mapping
  deriving DecidableEq, Repr

/-- A value found, in words. -/
def Found.text : Found → String
  | .null => "null"
  | .boolean b => s!"boolean `{b}`"
  | .number (.real x) => s!"floating point `{(Number.real x).text}`"
  | .number n => s!"integer `{n.text}`"
  | .string s => "string " ++ Text.Quoted.encode s
  | .sequence => "sequence"
  | .mapping => "map"

/-- What is wrong. -/
inductive Cause where
  | listUnclosed
  | objectUnclosed
  | stringUnclosed
  | valueMissing
  | colonExpected
  | listEndExpected
  | objectEndExpected
  | wordExpected
  | valueExpected
  | escapeInvalid
  | numberInvalid
  | numberTooLarge
  | characterInvalid
  | controlCharacter
  | keyExpected
  | surrogateAlone
  | commaTrailing
  | textTrailing
  | escapeUnfinished
  | nestedTooDeep
  /-- A value of another kind than the expected one. -/
  | kind (found : Found) (expected : String)
  /-- A value of the expected kind that is out of bounds. -/
  | bounds (found : Found) (expected : String)
  /-- A member that must be given is not. -/
  | memberMissing (name : String)
  /-- A member is given twice. -/
  | memberTwice (name : String)
  /-- A list is too short to give all members. -/
  | lengthTooSmall (count : Nat) (expected : String)
  deriving DecidableEq, Repr

/-- A cause, in words. -/
def Cause.text : Cause → String
  | .listUnclosed => "EOF while parsing a list"
  | .objectUnclosed => "EOF while parsing an object"
  | .stringUnclosed => "EOF while parsing a string"
  | .valueMissing => "EOF while parsing a value"
  | .colonExpected => "expected `:`"
  | .listEndExpected => "expected `,` or `]`"
  | .objectEndExpected => "expected `,` or `\x7d`"
  | .wordExpected => "expected ident"
  | .valueExpected => "expected value"
  | .escapeInvalid => "invalid escape"
  | .numberInvalid => "invalid number"
  | .numberTooLarge => "number out of range"
  | .characterInvalid => "invalid unicode code point"
  | .controlCharacter => "control character (\\u0000-\\u001F) found while parsing a string"
  | .keyExpected => "key must be a string"
  | .surrogateAlone => "lone leading surrogate in hex escape"
  | .commaTrailing => "trailing comma"
  | .textTrailing => "trailing characters"
  | .escapeUnfinished => "unexpected end of hex escape"
  | .nestedTooDeep => "recursion limit exceeded"
  | .kind found expected => s!"invalid type: {found.text}, expected {expected}"
  | .bounds found expected => s!"invalid value: {found.text}, expected {expected}"
  | .memberMissing name => s!"missing field `{name}`"
  | .memberTwice name => s!"duplicate field `{name}`"
  | .lengthTooSmall count expected => s!"invalid length {count}, expected {expected}"

/-- A cause, and the number of bytes before its place once that is known. -/
structure Fault where
  /-- What is wrong. -/
  cause : Cause
  /-- The number of bytes before the place. -/
  place : Option Nat
  deriving DecidableEq, Repr

namespace Fault

/-- The fault at a place, unless it has one. -/
def placedAt (f : Fault) (n : Nat) : Fault :=
  { f with place := f.place.or (some n) }

/-- The line of a place, and the number of bytes before the place in its line. -/
def lineColumn (text : List UInt8) (place : Nat) : Nat × Nat :=
  (text.take place).foldl
    (fun (line, column) (b : UInt8) => if b = 10 then (line + 1, 0) else (line, column + 1))
    (1, 0)

/-- What is wrong with a text and where, in words. -/
def message (f : Fault) (text : List UInt8) : String :=
  match f.place with
  | none => f.cause.text
  | some place =>
    let (line, column) := lineColumn text place
    s!"{f.cause.text} at line {line} column {column}"

end Fault
end Json
end RequestGuard
