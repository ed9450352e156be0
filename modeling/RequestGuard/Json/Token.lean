import RequestGuard.Json.Reader
import RequestGuard.Text.Utf8

/-!
# JSON: texts and numbers

Readers of the two kinds of value that have an inner form.  Each comes twice: to read
the value, and to pass it, which demands less of it.
-/

namespace RequestGuard
namespace Json
namespace Reader

open Decimal

section Texts

/-- The number that four hexadecimal digits write. -/
def fourDigits : Reader Nat := do
  match ← (fun c => .ok c.rest c : Reader (List UInt8)) with
  | a :: b :: c :: d :: _ =>
    skip; skip; skip; skip
    let digits := [a, b, c, d].map fun x => Text.hexValue? (Char.ofNat x.toNat)
    if digits.all Option.isSome then pure (digits.foldl (fun n d => 16 * n + d.getD 0) 0)
    else failHere .escapeInvalid
  | _ =>
    let _ ← run fun _ => true
    failHere .stringUnclosed

/-- Passes a byte of a pair of escapes, or refuses the pair. -/
def pairByte (expected : Char) : Reader Unit := do
  match ← peek with
  | none => failHere .stringUnclosed
  | some b =>
    skip
    if b = byte expected then pure () else failHere .escapeUnfinished

/-- The character after `\u`: one number, or two that form a pair. -/
def numberedChar : Reader Char := do
  let n ← fourDigits
  if 0xDC00 ≤ n ∧ n ≤ 0xDFFF then failHere .surrogateAlone
  else if n < 0xD800 ∨ 0xDBFF < n then pure (Char.ofNat n)
  else
    pairByte '\\'
    pairByte 'u'
    let m ← fourDigits
    if m < 0xDC00 ∨ 0xDFFF < m then failHere .surrogateAlone
    else pure (Char.ofNat ((n - 0xD800) * 0x400 + (m - 0xDC00) + 0x10000))

/-- The character that a letter after a backslash stands for. -/
def plainEscape? (b : UInt8) : Option Char :=
  if b = byte '"' then some '"'
  else if b = byte '\\' then some '\\'
  else if b = byte '/' then some '/'
  else if b = byte 'b' then some '\x08'
  else if b = byte 'f' then some '\x0c'
  else if b = byte 'n' then some '\n'
  else if b = byte 'r' then some '\r'
  else if b = byte 't' then some '\t'
  else none

/-- The character after a backslash. -/
def escape : Reader Char := do
  match ← next with
  | none => failHere .stringUnclosed
  | some b =>
    if b = byte 'u' then numberedChar
    else
      match plainEscape? b with
      | some c => pure c
      | none => failHere .escapeInvalid

/-- A byte that stands for itself within a text. -/
def isPlain (b : UInt8) : Bool :=
  32 ≤ b && b != byte '"' && b != byte '\\'

/-- The bytes of a text up to its closing quote; `fuel` bounds the escapes. -/
def textBytes : Nat → Reader (List UInt8)
  | 0 => failHere .stringUnclosed
  | fuel + 1 => do
    let plain ← run isPlain
    match ← peek with
    | none => failHere .stringUnclosed
    | some b =>
      if b = byte '"' then pure plain
      else if b = byte '\\' then
        skip
        let c ← escape
        let more ← textBytes fuel
        pure (plain ++ Text.Utf8.encodeChar c ++ more)
      else
        skip
        failHere .controlCharacter

/-- The text after an opening quote.  Its bytes must be characters. -/
def text : Reader String := fun c =>
  (do
    let bytes ← textBytes (c.rest.length + 1)
    match Text.Utf8.decode bytes with
    | .error _ => failHere .characterInvalid
    | .ok cs =>
      skip
      pure (String.ofList cs) : Reader String) c

/-- Passes an escape after its backslash. -/
def passEscape : Reader Unit := do
  match ← next with
  | none => failHere .stringUnclosed
  | some b =>
    if b = byte 'u' then
      let _ ← fourDigits
    else if (plainEscape? b).isSome then pure ()
    else failHere .escapeInvalid

/-- Passes a text after its opening quote; `fuel` bounds the escapes. -/
def passTextFrom : Nat → Reader Unit
  | 0 => failHere .stringUnclosed
  | fuel + 1 => do
    let _ ← run isPlain
    match ← peek with
    | none => failHere .stringUnclosed
    | some b =>
      if b = byte '"' then skip
      else if b = byte '\\' then
        skip
        passEscape
        passTextFrom fuel
      else failHere .controlCharacter

/-- Passes a text after its opening quote. -/
def passText : Reader Unit := fun c =>
  passTextFrom (c.rest.length + 1) c

end Texts

section Numbers

/-- The largest natural number that is kept as one. -/
def naturalLimit : Nat := 0xFFFFFFFFFFFFFFFF

/-- The value of the leading digits that stay within the limit, going on from `n`, and
the number of the digits after them. -/
def leading (n : Nat) : List UInt8 → Nat × Nat
  | [] => (n, 0)
  | d :: ds =>
    let m := 10 * n + (d.toNat - 48)
    if m ≤ naturalLimit then leading m ds else (n, ds.length + 1)

/-- Scales a number by `10 ^ e`, in steps of at most `10 ^ 308`; none beyond the largest
number.  Fuel bounds the steps. -/
def scale? (x : Binary64) (e : Int) : Nat → Option Binary64
  | 0 => some x
  | fuel + 1 =>
    if e.natAbs ≤ 308 then
      match Binary64.ofNat? (Nat.pow 10 e.natAbs) with
      | none => none
      | some power => if 0 ≤ e then x.mul? power else x.div? power
    else if x.mantissa = 0 then some x
    else if 0 ≤ e then none
    else
      match Binary64.ofNat? (Nat.pow 10 308) with
      | none => none
      | some power =>
        match x.div? power with
        | none => none
        | some y => scale? y (e + 308) fuel

/-- The floating-point number of digits, an exponent and a sign. -/
def realOf (positive : Bool) (significand : Nat) (e : Int) : Reader Number := do
  match (Binary64.ofNat? significand).bind fun x => scale? x e (e.natAbs / 308 + 2) with
  | none => failHere .numberTooLarge
  | some x => pure (.real (if positive then x else x.neg))

/-- The largest exponent that is counted. -/
def exponentLimit : Nat := 0x7FFFFFFF

/-- An exponent within the numbers that are counted. -/
def clampExponent (e : Int) : Int :=
  max (-0x80000000) (min e 0x7FFFFFFF)

/-- The digits of an exponent as long as their number stays within the limit, going on
from `n`; none as soon as it does not, with that digit passed. -/
def exponentDigits (n : Nat) : Nat → Reader (Option Nat)
  | 0 => pure (some n)
  | fuel + 1 => do
    if ← nextIs isDigit then
      let d ← next
      let m := 10 * n + ((d.getD 48).toNat - 48)
      if m ≤ exponentLimit then exponentDigits m fuel else pure none
    else pure (some n)

/-- The number after the mark of an exponent. -/
def withExponent (positive : Bool) (significand : Nat) (start : Int) : Reader Number := do
  skip
  let sign ← peek
  if sign = some (byte '+') ∨ sign = some (byte '-') then skip
  let up := sign != some (byte '-')
  match ← next with
  | none => failHere .valueMissing
  | some d =>
    if !isDigit d then failHere .numberInvalid
    else
      let length ← (fun c => .ok c.rest.length c : Reader Nat)
      match ← exponentDigits (d.toNat - 48) length with
      | some e =>
        realOf positive significand
          (clampExponent (if up then start + (e : Int) else start - (e : Int)))
      | none =>
        if significand ≠ 0 ∧ up then failHere .numberTooLarge
        else
          let _ ← run isDigit
          let zero : Binary64 := ⟨!positive, 0, -1074⟩
          pure (.real zero)

/-- A number after its digits before the point: an exponent may follow. -/
def afterFraction (positive : Bool) (significand : Nat) (e : Int) : Reader Number := do
  if ← nextIs fun b => b == byte 'e' || b == byte 'E' then
    withExponent positive significand e
  else realOf positive significand e

/-- The number after a point. -/
def withFraction (positive : Bool) (significand : Nat) (start : Int) : Reader Number := do
  skip
  let ds ← run isDigit
  if ds.isEmpty then
    failNext (if (← peek).isNone then .valueMissing else .numberInvalid)
  else
    let (m, beyond) := leading significand ds
    afterFraction positive m (start - ((ds.length - beyond : Nat) : Int))

/-- A number whose leading digits have been read. -/
def afterInteger (positive : Bool) (significand beyond : Nat) : Reader Number := do
  if ← nextIs (· == byte '.') then withFraction positive significand beyond
  else if ← nextIs (fun b => b == byte 'e' || b == byte 'E') then
    withExponent positive significand beyond
  else if beyond ≠ 0 then realOf positive significand beyond
  else if positive then pure (.natural significand)
  else if significand = 0 ∨ 0x8000000000000000 < significand then realOf false significand 0
  else pure (.negative significand)

/-- A number after its sign. -/
def number (positive : Bool) : Reader Number := do
  match ← next with
  | none => failHere .valueMissing
  | some d =>
    if d = byte '0' then
      if ← nextIs isDigit then failNext .numberInvalid else afterInteger positive 0 0
    else if isDigit d then
      let ds ← run isDigit
      let (m, beyond) := leading (d.toNat - 48) ds
      afterInteger positive m beyond
    else failHere .numberInvalid

/-- Passes what follows the mark of an exponent. -/
def passExponent : Reader Unit := do
  skip
  if ← nextIs (fun b => b == byte '+' || b == byte '-') then skip
  match ← next with
  | none => failHere .numberInvalid
  | some d =>
    if isDigit d then
      let _ ← run isDigit
    else failHere .numberInvalid

/-- Passes an exponent if there is one. -/
def passExponentIfAny : Reader Unit := do
  if ← nextIs (fun b => b == byte 'e' || b == byte 'E') then passExponent

/-- Passes a number after its sign. -/
def passNumber : Reader Unit := do
  match ← next with
  | none => failHere .numberInvalid
  | some d =>
    if d = byte '0' then
      if ← nextIs isDigit then failNext .numberInvalid
    else if isDigit d then
      let _ ← run isDigit
    else failHere .numberInvalid
  if ← nextIs (· == byte '.') then
    skip
    let ds ← run isDigit
    if ds.isEmpty then failNext .numberInvalid else passExponentIfAny
  else passExponentIfAny

end Numbers

end Reader
end Json
end RequestGuard
