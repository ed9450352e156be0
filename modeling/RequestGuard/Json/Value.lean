import RequestGuard.Json.Record

/-!
# JSON: values of any kind

Values as a tree.  The members of an object are in the order of their keys; of several
members with one key the last is kept.

`Value.read` refuses lists and objects nested deeper than a limit.  `Value.text` writes
a value without blanks.
-/

namespace RequestGuard
namespace Json

/-- A value. -/
inductive Value where
  | null
  | boolean (b : Bool)
  | number (n : Number)
  | string (s : String)
  | list (items : List Value)
  | object (members : List (String × Value))

namespace Value

section Reading

variable {α : Type}

/-- Gives a key a value among pairs in the order of their keys. -/
def put (key : String) (a : α) : List (String × α) → List (String × α)
  | [] => [(key, a)]
  | (k, b) :: more =>
    if key = k then (key, a) :: more
    else if key < k then (key, a) :: (k, b) :: more
    else (k, b) :: put key a more

open Reader

/-- The members of an object by their keys, within its brackets. -/
def keyed (value : Reader α) : Reader (List (String × α)) :=
  inObject (Reader.members (fun pairs key => do
    colon
    let a ← value
    pure (put key a pairs)) [])

/-- Reads a value in which at most `levels` lists and objects stand within each other. -/
def read : Nat → Reader Value
  | 0 => byFirst fun b =>
    if b = byte '[' ∨ b = byte '\x7b' then failNext .nestedTooDeep else scalar b
  | levels + 1 => byFirst fun b =>
    if b = byte '[' then do
      let xs ← inList (items (read levels))
      pure (.list xs)
    else if b = byte '\x7b' then do
      let ms ← keyed (read levels)
      pure (.object ms)
    else scalar b
where
  /-- A value that is neither a list nor an object. -/
  scalar (b : UInt8) : Reader Value := do
    match ← found b with
    | .null => pure .null
    | .boolean b => pure (.boolean b)
    | .number n => pure (.number n)
    | .string s => pure (.string s)
    | _ => failNext .valueExpected

/-- The number of lists and objects that may stand within each other. -/
def levels : Nat := 127

/-- An object of values of any kind, by its keys. -/
def readKeyed : Reader (List (String × Value)) :=
  byFirst fun b =>
    if b = byte '\x7b' then keyed (read (levels - 1)) else refuse "a map" b

end Reading

section Writing

/-- A character within a text. -/
def escapeChar (c : Char) : List Char :=
  if c = '"' then ['\\', '"']
  else if c = '\\' then ['\\', '\\']
  else if c.toNat = 8 then ['\\', 'b']
  else if c.toNat = 12 then ['\\', 'f']
  else if c = '\n' then ['\\', 'n']
  else if c = '\r' then ['\\', 'r']
  else if c = '\t' then ['\\', 't']
  else if c.toNat < 32 then
    ['\\', 'u', '0', '0', Text.hexDigit (c.toNat / 16), Text.hexDigit (c.toNat % 16)]
  else [c]

/-- A text between its quotes. -/
def quote (s : String) : List Char :=
  '"' :: s.toList.flatMap escapeChar ++ ['"']

mutual

/-- A value without blanks. -/
def chars : Value → List Char
  | .null => "null".toList
  | .boolean b => (if b then "true" else "false").toList
  | .number n => n.text.toList
  | .string s => quote s
  | .list items => '[' :: itemChars items ++ [']']
  | .object members => '\x7b' :: memberChars members ++ ['\x7d']

/-- Values between commas. -/
def itemChars : List Value → List Char
  | [] => []
  | [v] => chars v
  | v :: more => chars v ++ ',' :: itemChars more

/-- Members between commas. -/
def memberChars : List (String × Value) → List Char
  | [] => []
  | [(k, v)] => quote k ++ ':' :: chars v
  | (k, v) :: more => quote k ++ ':' :: chars v ++ ',' :: memberChars more

end

/-- The text of a value. -/
def text (v : Value) : String :=
  String.ofList v.chars

end Writing

end Value
end Json
end RequestGuard
