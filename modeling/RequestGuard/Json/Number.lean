import RequestGuard.Decimal.Binary64

/-!
# JSON: numbers

A number is a natural number below `2 ^ 64`, a negative integer of at least `-2 ^ 63`,
or a binary floating-point number.

`Number.text` writes the shortest decimal that reads back.  The decimal point stands
among the digits or within five places of them up to `10 ^ 16`; beyond, an exponent
with a sign and at least two digits follows.
-/

namespace RequestGuard
namespace Json

open Decimal

/-- A number. -/
inductive Number where
  /-- A natural number. -/
  | natural (n : Nat)
  /-- The negative of a natural number other than zero. -/
  | negative (n : Nat)
  /-- A number with a fraction or an exponent, or too large for an integer. -/
  | real (x : Binary64)
  deriving DecidableEq, Repr

namespace Number

/-- An exponent with its sign and at least two digits. -/
def exponentText (e : Int) : String :=
  let size := e.natAbs
  (if e < 0 then "-" else "+") ++ (if size < 10 then "0" else "") ++ toString size

/-- Zeros in a row. -/
def zeros (n : Nat) : String :=
  String.ofList (List.replicate n '0')

/-- The text of `d · 10 ^ k` for a number `d` other than zero. -/
def decimalText (d : Nat) (k : Int) : String :=
  let digits := toString d
  let count := digits.length
  let point := k + count
  if 0 ≤ k ∧ point ≤ 16 then digits ++ zeros k.toNat ++ ".0"
  else if 0 < point ∧ point ≤ 16 then
    String.ofList (digits.toList.take point.toNat) ++ "." ++
      String.ofList (digits.toList.drop point.toNat)
  else if -5 < point ∧ point ≤ 0 then "0." ++ zeros (-point).toNat ++ digits
  else
    let tail := String.ofList (digits.toList.drop 1)
    String.ofList (digits.toList.take 1) ++ (if tail.isEmpty then "" else "." ++ tail) ++ "e" ++
      exponentText (point - 1)

/-- The text of a floating-point number. -/
def realText (x : Binary64) : String :=
  let sign := if x.negative then "-" else ""
  if x.mantissa = 0 then sign ++ "0.0"
  else
    let (d, k) := x.shortest
    sign ++ decimalText d k

/-- The text of a number. -/
def text : Number → String
  | .natural n => toString n
  | .negative n => "-" ++ toString n
  | .real x => realText x

end Number
end Json
end RequestGuard
