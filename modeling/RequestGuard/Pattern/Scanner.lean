import RequestGuard.Pattern.Expr
import RequestGuard.Pattern.Flags
import RequestGuard.Text.Basic

/-!
# Patterns: reading signs

The smallest pieces of the pattern syntax: blanks and comments, numbers, escapes and the
names of character sets.  A step that cannot go on refuses the pattern as a whole.

`escape` reads what follows a backslash.  A backslash keeps a sign from being special;
before a letter or a digit it has a meaning of its own or none at all.
-/

namespace RequestGuard
namespace Pattern

/-- Where the reading of a pattern stands. -/
structure Scanner where
  /-- The signs to come. -/
  rest : List Char
  /-- How they are read. -/
  flags : Flags
  /-- The number of groups so far. -/
  groups : Nat
  /-- The names of groups so far. -/
  names : List (String × Nat)

/-- A step that reads a part of a pattern or refuses it. -/
abbrev Scan (α : Type) : Type := StateT Scanner Option α

namespace Scan

section Signs

/-- Refuses the pattern. -/
def refuse {α : Type} : Scan α := fun _ => none

/-- The sign to come. -/
def peek : Scan (Option Char) := fun s => some (s.rest.head?, s)

/-- Passes a number of signs. -/
def pass (n : Nat) : Scan Unit := fun s => some ((), { s with rest := s.rest.drop n })

/-- The sign to come, which is passed; there must be one. -/
def next : Scan Char := fun s =>
  match s.rest with
  | [] => none
  | c :: rest => some (c, { s with rest })

/-- The flags that hold. -/
def flags : Scan Flags := fun s => some (s.flags, s)

/-- Makes flags hold. -/
def setFlags (f : Flags) : Scan Unit := fun s => some ((), { s with flags := f })

/-- Do these signs come? -/
def comes (signs : String) : Scan Bool := fun s =>
  some (signs.toList.isPrefixOf s.rest, s)

/-- Passes these signs if they come, and tells whether they do. -/
def passIf (signs : String) : Scan Bool := do
  if ← comes signs then
    pass signs.length
    pure true
  else pure false

/-- The signs to come as long as they satisfy `p`, which are passed. -/
def run (p : Char → Bool) : Scan (List Char) := fun s =>
  some (s.rest.takeWhile p, { s with rest := s.rest.dropWhile p })

end Signs

section Blanks

/-- The signs after blanks and comments; a comment goes from `#` to the end of its line. -/
def afterSpace (inComment : Bool) : List Char → List Char
  | [] => []
  | c :: rest =>
    if inComment then afterSpace (c ≠ '\n') rest
    else if Text.isBlank c then afterSpace false rest
    else if c = '#' then afterSpace true rest
    else c :: rest

/-- Passes blanks and comments where they say nothing. -/
def space : Scan Unit := fun s =>
  some ((), if s.flags.spaced then { s with rest := afterSpace false s.rest } else s)

/-- Passes a sign and what says nothing after it. -/
def passSpaced : Scan Unit := do
  pass 1
  space

/-- The sign after the one to come, past blanks where they say nothing. -/
def peekSpaced : Scan (Option Char) := fun s =>
  let after := s.rest.drop 1
  let blanksGone := after.dropWhile Text.isBlank
  let found :=
    if !s.flags.spaced then after.head?
    else if blanksGone.head? = some '#' then ((blanksGone.drop 1).dropWhile Text.isBlank).head?
    else blanksGone.head?
  some (found, s)

end Blanks

section Numbers

/-- The largest number in a repetition. -/
def countLimit : Nat := 0xFFFFFFFF

/-- The decimal digits to come, between which blanks may stand where they say nothing. -/
def digitsFrom : Nat → Scan (List Char)
  | 0 => pure []
  | fuel + 1 => do
    match ← peek with
    | some c =>
      if Text.isDigit c then
        passSpaced
        let more ← digitsFrom fuel
        pure (c :: more)
      else pure []
    | none => pure []

/-- A number that may be missing, between blanks. -/
def count? : Scan (Option Nat) := do
  let _ ← run Text.isBlank
  let ds ← (fun s => digitsFrom s.rest.length s : Scan (List Char))
  let _ ← run Text.isBlank
  space
  if ds.isEmpty then pure none
  else
    let n := Text.decimal ds
    if countLimit < n then refuse else pure (some n)

/-- A number that must be given. -/
def count : Scan Nat := do
  match ← count? with
  | some n => pure n
  | none => refuse

/-- Is a number a code point of a character? -/
def isCodePoint (n : Nat) : Bool :=
  n < 0xD800 || (0xDFFF < n && n < 0x110000)

/-- The hexadecimal digits up to a closing bracket. -/
def bracedDigits : Nat → Scan (List Char)
  | 0 => refuse
  | fuel + 1 => do
    passSpaced
    let c ← (do match ← peek with
      | some c => pure c
      | none => refuse : Scan Char)
    if c = '\x7d' then pure []
    else if (Text.hexValue? c).isSome then
      let more ← bracedDigits fuel
      pure (c :: more)
    else refuse

/-- A fixed number of hexadecimal digits. -/
def fixedDigits : Nat → Scan (List Char)
  | 0 => pure []
  | n + 1 => do
    match ← peek with
    | some c =>
      if (Text.hexValue? c).isSome then
        passSpaced
        let more ← fixedDigits n
        pure (c :: more)
      else refuse
    | none => refuse

/-- The code point of an escape by number, and whether its form allows a byte. -/
def numbered (kind : Char) : Scan (Nat × Bool) := do
  passSpaced
  if ← comes "\x7b" then
    let ds ← (fun s => bracedDigits (s.rest.length + 1) s : Scan (List Char))
    passSpaced
    let n := Text.hexNumber ds
    if ds.isEmpty || !isCodePoint n then refuse else pure (n, false)
  else
    let ds ← fixedDigits (if kind = 'x' then 2 else if kind = 'u' then 4 else 8)
    let n := Text.hexNumber ds
    if isCodePoint n then pure (n, kind = 'x') else refuse

end Numbers

section Sets

/-- Adds what differs in case alone, if the flags say so, and then takes the complement,
if asked to. -/
def folded (f : Flags) (negated : Bool) (a : Ranges) : Ranges :=
  let a :=
    if !f.caseless then a
    else if f.unicode then a.foldCase
    else a.foldLatinCase
  if negated then a.complement (if f.unicode then Ranges.charLimit else Ranges.byteLimit)
  else a

/-- The set of `\d`, `\s` and `\w`, and for capitals its complement. -/
def perlSet (f : Flags) (letter : Char) : Ranges :=
  let a :=
    match Text.lowerChar letter, f.unicode with
    | 'd', true => Ranges.digits
    | 's', true => Ranges.space
    | 'w', true => Ranges.word
    | 'd', false => Ranges.latinDigits
    | 's', false => Ranges.latinSpace
    | _, _ => Ranges.latinWord
  if letter = Text.lowerChar letter then a
  else a.complement (if f.unicode then Ranges.charLimit else Ranges.byteLimit)

/-- The signs of a property's name up to a closing bracket. -/
def bracedName : Nat → Scan (List Char)
  | 0 => refuse
  | fuel + 1 => do
    passSpaced
    match ← peek with
    | none => refuse
    | some c =>
      if c = '\x7d' then
        pass 1
        pure []
      else
        let more ← bracedName fuel
        pure (c :: more)

/-- What a name between brackets stands for, and whether it asks for the complement. -/
def propertyOf? (name : List Char) : Option (Ranges × Bool) :=
  let text := String.ofList
  match Text.cutAt? ['!', '='] name with
  | some (p, v) => (Ranges.valued? (text p) (text v)).map fun a => (a, true)
  | none =>
    match (Text.cutAt? [':'] name).orElse fun _ => Text.cutAt? ['='] name with
    | some (p, v) => (Ranges.valued? (text p) (text v)).map fun a => (a, false)
    | none => (Ranges.named? (text name)).map fun a => (a, false)

/-- The set of `\p` or `\P`. -/
def propertySet (letter : Char) : Scan Ranges := do
  passSpaced
  let name ← (do
    match ← peek with
    | none => refuse
    | some c =>
      if c = '\x7b' then fun s => bracedName (s.rest.length + 1) s
      else if c = '\\' then refuse
      else
        passSpaced
        pure [c] : Scan (List Char))
  let f ← flags
  match propertyOf? name with
  | some (a, other) => if f.unicode then pure (folded f ((letter = 'P') != other) a) else refuse
  | none => refuse

end Sets

/-- What a sign or an escape stands for. -/
inductive Sign where
  /-- A code point, and whether it is written as a byte. -/
  | literal (code : Nat) (asByte : Bool)
  /-- A set. -/
  | set (a : Ranges)
  /-- Any character or byte but line ends. -/
  | any
  /-- A property of the place. -/
  | look (what : Look)

section Escapes

/-- A sign that is special somewhere. -/
def isMeta (c : Char) : Bool :=
  "\\.+*?()|[]\x7b\x7d^$#&-~".toList.contains c

/-- A sign that a backslash keeps from being special. -/
def isEscapable (c : Char) : Bool :=
  isMeta c || (c.toNat < 128 && !Text.isDigit c && !Text.isLetter c && c ≠ '<' && c ≠ '>')

/-- A letter or hyphen of the name of a place. -/
def isPlaceSign (c : Char) : Bool :=
  Text.isLetter c || c = '-'

/-- The signs of the name of a place. -/
def placeName : Nat → Scan (List Char)
  | 0 => pure []
  | fuel + 1 => do
    match ← peek with
    | some c =>
      if isPlaceSign c then
        passSpaced
        let more ← placeName fuel
        pure (c :: more)
      else pure []
    | none => pure []

/-- The place that `\b` stands for.  A name between brackets may follow; other brackets
are left for a repetition. -/
def wordPlace (latin : Bool) : Scan Look := do
  if ← comes "\x7b" then
    let start ← (fun s => some (s, s) : Scan Scanner)
    passSpaced
    match ← peek with
    | none => refuse
    | some c =>
      if isPlaceSign c then
        let name ← (fun s => placeName s.rest.length s : Scan (List Char))
        if ← passIf "\x7d" then
          match String.ofList name with
          | "start" => pure (.wordStart latin)
          | "end" => pure (.wordFinish latin)
          | "start-half" => pure (.noWordBefore latin)
          | "end-half" => pure (.noWordAfter latin)
          | _ => refuse
        else refuse
      else
        (fun _ => some ((), start) : Scan Unit)
        pure (.wordEdge latin)
  else pure (.wordEdge latin)

/-- The character that a letter after a backslash stands for. -/
def controlOf? : Char → Option Nat
  | 'a' => some 7
  | 'f' => some 12
  | 't' => some 9
  | 'n' => some 10
  | 'r' => some 13
  | 'v' => some 11
  | _ => none

/-- What stands after a backslash that comes next. -/
def escape : Scan Sign := do
  pass 1
  match ← peek with
  | none => refuse
  | some c =>
    let f ← flags
    if c = 'x' ∨ c = 'u' ∨ c = 'U' then
      let (n, asByte) ← numbered c
      pure (.literal n asByte)
    else if c = 'p' ∨ c = 'P' then
      let a ← propertySet c
      pure (.set a)
    else if "dswDSW".toList.contains c then
      pass 1
      pure (.set (perlSet f c))
    else
      pass 1
      if isEscapable c then pure (.literal c.toNat false)
      else
        match controlOf? c with
        | some n => pure (.literal n false)
        | none =>
          match c with
          | 'A' => pure (.look .start)
          | 'z' => pure (.look .finish)
          | 'B' => pure (.look (.noWordEdge !f.unicode))
          | '<' => pure (.look (.wordStart !f.unicode))
          | '>' => pure (.look (.wordFinish !f.unicode))
          | 'b' =>
            let place ← wordPlace !f.unicode
            pure (.look place)
          | _ => refuse

/-- The sign or the escape to come. -/
def sign : Scan Sign := do
  match ← peek with
  | none => refuse
  | some '\\' => escape
  | some c =>
    pass 1
    let f ← flags
    match c with
    | '.' => pure .any
    | '^' =>
      pure (.look (if !f.multiLine then .start
        else if f.anyLineEnd then .anyLineStart else .lineStart))
    | '$' =>
      pure (.look (if !f.multiLine then .finish
        else if f.anyLineEnd then .anyLineFinish else .lineFinish))
    | c => pure (.literal c.toNat false)

end Escapes

end Scan
end Pattern
end RequestGuard
