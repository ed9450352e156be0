import RequestGuard.Json.Token

/-!
# JSON: lists and objects

How the items of a list and the members of an object follow each other.

* `anotherItem first` and `anotherKey first` look whether one more comes, past the comma
  before it; `first` says that none has been read yet.
* `items` reads all items of a list, `members` all members of an object.
* `inList` and `inObject` read the brackets around a body.  Whatever the body leaves
  before the closing bracket is a fault.
-/

namespace RequestGuard
namespace Json
namespace Reader

variable {α σ : Type}

section Lists

/-- Does one more item come? -/
def anotherItem (first : Bool) : Reader Bool := do
  match ← afterBlanks with
  | none => failNext .listUnclosed
  | some b =>
    if b = byte ']' then pure false
    else if first then pure true
    else if b = byte ',' then
      skip
      match ← afterBlanks with
      | none => failNext .valueMissing
      | some b => if b = byte ']' then failNext .commaTrailing else pure true
    else failNext .listEndExpected

/-- The end of a list. -/
def listEnd : Reader Unit := do
  match ← afterBlanks with
  | none => failNext .listUnclosed
  | some b =>
    if b = byte ']' then skip
    else if b = byte ',' then
      skip
      match ← afterBlanks with
      | none => failNext .textTrailing
      | some b => failNext (if b = byte ']' then .commaTrailing else .textTrailing)
    else failNext .textTrailing

/-- A body between square brackets. -/
def inList (body : Reader α) : Reader α :=
  closedBy (do skip; body) listEnd

/-- The items to come; `fuel` bounds their number. -/
def itemsFrom (item : Reader α) : Nat → Bool → Reader (List α)
  | 0, _ => failNext .listUnclosed
  | fuel + 1, first => do
    if ← anotherItem first then
      let a ← item
      let more ← itemsFrom item fuel false
      pure (a :: more)
    else pure []

/-- The items of a list, within its brackets. -/
def items (item : Reader α) : Reader (List α) := fun c =>
  itemsFrom item (c.rest.length + 1) true c

end Lists

section Objects

/-- Does one more member come?  Its key then starts at the next byte. -/
def anotherKey (first : Bool) : Reader Bool := do
  match ← afterBlanks with
  | none => failNext .objectUnclosed
  | some b =>
    if b = byte '\x7d' then pure false
    else if first then
      if b = byte '"' then pure true else failNext .keyExpected
    else if b = byte ',' then
      skip
      match ← afterBlanks with
      | none => failNext .valueMissing
      | some b =>
        if b = byte '"' then pure true
        else failNext (if b = byte '\x7d' then .commaTrailing else .keyExpected)
    else failNext .objectEndExpected

/-- The colon between a key and its value. -/
def colon : Reader Unit := do
  match ← afterBlanks with
  | none => failNext .objectUnclosed
  | some b => if b = byte ':' then skip else failNext .colonExpected

/-- The end of an object. -/
def objectEnd : Reader Unit := do
  match ← afterBlanks with
  | none => failNext .objectUnclosed
  | some b =>
    if b = byte '\x7d' then skip
    else failNext (if b = byte ',' then .commaTrailing else .textTrailing)

/-- A body between curly brackets. -/
def inObject (body : Reader α) : Reader α :=
  closedBy (do skip; body) objectEnd

/-- Folds the members to come into a value; `member` reads what follows a key.  Fuel
bounds their number. -/
def membersFrom (member : σ → String → Reader σ) : Nat → Bool → σ → Reader σ
  | 0, _, _ => failNext .objectUnclosed
  | fuel + 1, first, s => do
    if ← anotherKey first then
      skip
      let key ← text
      let s ← member s key
      membersFrom member fuel false s
    else pure s

/-- Folds the members of an object, within its brackets. -/
def members (member : σ → String → Reader σ) (start : σ) : Reader σ := fun c =>
  membersFrom member (c.rest.length + 1) true start c

end Objects

section Passing

mutual

/-- Passes a value; `fuel` bounds the values within it. -/
def passValue : Nat → Reader Unit
  | 0 => failNext .valueExpected
  | fuel + 1 => do
    match ← afterBlanks with
    | none => failNext .valueMissing
    | some b =>
      if b = byte 'n' then
        skip
        word "ull".toList
      else if b = byte 't' then
        skip
        word "rue".toList
      else if b = byte 'f' then
        skip
        word "alse".toList
      else if b = byte '-' then
        skip
        passNumber
      else if isDigit b then passNumber
      else if b = byte '"' then
        skip
        passText
      else if b = byte '[' then
        skip
        passItems fuel true
      else if b = byte '\x7b' then
        skip
        passMembers fuel true
      else failNext .valueExpected

/-- Passes the items to come and the end of their list. -/
def passItems : Nat → Bool → Reader Unit
  | 0, _ => failNext .valueExpected
  | fuel + 1, first => do
    match ← afterBlanks with
    | none => failNext .listUnclosed
    | some b =>
      if b = byte ']' then skip
      else if first then
        passValue fuel
        passItems fuel false
      else if b = byte ',' then
        skip
        passValue fuel
        passItems fuel false
      else failNext .listEndExpected

/-- Passes the members to come and the end of their object. -/
def passMembers : Nat → Bool → Reader Unit
  | 0, _ => failNext .valueExpected
  | fuel + 1, first => do
    match ← afterBlanks with
    | none => failNext .objectUnclosed
    | some b =>
      if b = byte '\x7d' then skip
      else if first then
        passMember fuel
        passMembers fuel false
      else if b = byte ',' then
        skip
        passMember fuel
        passMembers fuel false
      else failNext .objectEndExpected

/-- Passes a member. -/
def passMember : Nat → Reader Unit
  | 0 => failNext .valueExpected
  | fuel + 1 => do
    match ← afterBlanks with
    | none => failNext .objectUnclosed
    | some b =>
      if b = byte '"' then
        skip
        passText
        colon
        passValue fuel
      else failNext .keyExpected

end

/-- Passes a value of any kind. -/
def anything : Reader Unit := fun c =>
  passValue (2 * c.rest.length + 2) c

end Passing

end Reader
end Json
end RequestGuard
