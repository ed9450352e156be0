import RequestGuard.Text.Basic

/-!
# Encoded labels

The encoding of a label of any characters by letters, digits and hyphens.

The characters below 128 come first, then a hyphen.  Each other character follows
as a number: how many steps a counter takes from the last insertion to this one,
where the counter runs over all places of the label for one character, then over
all places for the next.  Numbers are written in digits to base 36 whose weights
adapt to the numbers seen so far.

* `encode` writes a label.
* `decode?` reads one, and refuses a text that is no encoding or names no character.
-/

namespace RequestGuard
namespace Name
namespace Punycode

section Digits

/-- The digit of a value below 36: letters, then decimal digits. -/
def digit (n : Nat) : Char :=
  if n < 26 then Char.ofNat (97 + n) else Char.ofNat (22 + n)

/-- The value of a digit, a capital letter counting as its small letter. -/
def value? (c : Char) : Option Nat :=
  if 'a' ≤ c ∧ c ≤ 'z' then some (c.toNat - 97)
  else if 'A' ≤ c ∧ c ≤ 'Z' then some (c.toNat - 65)
  else if '0' ≤ c ∧ c ≤ '9' then some (c.toNat - 22)
  else none

/-- A digit below this value is the last one of its number. -/
def threshold (place bias : Nat) : Nat :=
  max 1 (min 26 (place - bias))

/-- At every place there is a digit that ends a number. -/
theorem threshold_pos (place bias : Nat) : 1 ≤ threshold place bias := by
  unfold threshold
  omega

/-- At no place more than 26 digits end a number. -/
theorem threshold_le (place bias : Nat) : threshold place bias ≤ 26 := by
  unfold threshold
  omega

/-- Divides by 35 until the number is at most 455; each division adds 36. -/
def settle (delta : Nat) : Nat :=
  if delta ≤ 455 then 36 * delta / (delta + 38)
  else 36 + settle (delta / 35)
termination_by delta
decreasing_by omega

/-- The bias after a number, where the label now has `count` characters. -/
def adapt (delta count : Nat) (first : Bool) : Nat :=
  let delta := if first then delta / 700 else delta / 2
  settle (delta + delta / count)

/-- The digits of a number, the digit of the lowest weight first. -/
def writeNumber (bias place n : Nat) : List Char :=
  let t := threshold place bias
  if n < t then [digit n]
  else digit (t + (n - t) % (36 - t)) :: writeNumber bias (place + 36) ((n - t) / (36 - t))
termination_by n
decreasing_by
  have h₁ := threshold_pos place bias
  have h₂ := threshold_le place bias
  have h₃ : (n - threshold place bias) / (36 - threshold place bias) ≤
      n - threshold place bias := Nat.div_le_self _ _
  omega

end Digits

section Encode

/-- What the encoder knows between two characters. -/
structure Writer where
  /-- Steps since the last insertion. -/
  delta : Nat
  /-- The bias of the next number. -/
  bias : Nat
  /-- How many characters are written. -/
  count : Nat
  /-- The digits so far. -/
  out : List Char

/-- Passes one place of the label while the counter is at the character `n`. -/
def Writer.visit (basics n : Nat) (w : Writer) (c : Char) : Writer :=
  if c.toNat < n then { w with delta := w.delta + 1 }
  else if c.toNat = n then
    { delta := 0
      bias := adapt w.delta (w.count + 1) (w.count == basics)
      count := w.count + 1
      out := w.out ++ writeNumber w.bias 36 w.delta }
  else w

/-- Writes all occurrences of the characters of a growing list; `last` is the
first character that the counter has not passed. -/
def writeAll (label : List Char) (basics : Nat) : List Nat → Nat → Writer → Writer
  | [], _, w => w
  | n :: rest, last, w =>
    let w := { w with delta := w.delta + (n - last) * (w.count + 1) }
    let w := label.foldl (Writer.visit basics n) w
    writeAll label basics rest (n + 1) { w with delta := w.delta + 1 }

/-- Inserts a number into a growing list that has no number twice. -/
def insertNew (n : Nat) : List Nat → List Nat
  | [] => [n]
  | m :: rest => if n < m then n :: m :: rest else if n = m then m :: rest
    else m :: insertNew n rest

/-- The code points of a label from 128 on, growing, each once. -/
def extended (label : List Char) : List Nat :=
  ((label.map Char.toNat).filter (128 ≤ ·)).foldr insertNew []

/-- The encoding of a label. -/
def encode (label : List Char) : List Char :=
  let basic := label.filter (·.toNat < 128)
  let head := if basic.isEmpty then [] else basic ++ ['-']
  let start : Writer := ⟨0, 72, basic.length, []⟩
  head ++ (writeAll label basic.length (extended label) 128 start).out

end Encode

section Decode

/-- What the decoder knows between two digits. -/
structure Reader where
  /-- The character that the counter is at. -/
  point : Nat
  /-- The place that the counter is at. -/
  index : Nat
  /-- The place before the number that is being read. -/
  start : Nat
  /-- The weight of the next digit. -/
  weight : Nat
  /-- The place value step of the next digit. -/
  place : Nat
  /-- The bias of the number that is being read. -/
  bias : Nat
  /-- The label so far. -/
  label : List Char

/-- A character of its own, not half of a pair. -/
def isScalar (n : Nat) : Bool :=
  n < 0xD800 || (0xDFFF < n && n ≤ 0x10FFFF)

/-- Reads one digit; the last digit of a number inserts a character. -/
def Reader.push (r : Reader) (c : Char) : Option Reader := do
  let d ← value? c
  let index := r.index + d * r.weight
  let t := threshold r.place r.bias
  if d < t then
    let count := r.label.length + 1
    let point := r.point + index / count
    if !isScalar point then none
    else
      let index := index % count
      some
        { point := point
          index := index + 1
          start := index + 1
          weight := 1
          place := 36
          bias := adapt (r.index + d * r.weight - r.start) count (r.start == 0)
          label := r.label.take index ++ Char.ofNat point :: r.label.drop index }
  else some { r with index := index, weight := r.weight * (36 - t), place := r.place + 36 }

/-- The characters before the last hyphen, and the digits after it.  A hyphen before which
nothing stands is no end of such characters, and is left to the digits, which have none. -/
def cutBasic (cs : List Char) : List Char × List Char :=
  let tail := (cs.reverse.takeWhile (· != '-')).reverse
  if cs.length ≤ tail.length + 1 then ([], cs)
  else (cs.take (cs.length - tail.length - 1), tail)

/-- The label of an encoding. -/
def decode? (cs : List Char) : Option (List Char) := do
  let (basic, digits) := cutBasic cs
  let r ← digits.foldlM Reader.push ⟨128, 0, 0, 1, 36, 72, basic⟩
  if r.place = 36 ∧ r.weight = 1 then some r.label else none

end Decode

end Punycode
end Name
end RequestGuard
