/-!
# Binary floating-point numbers

Numbers of the form `± m · 2 ^ e` with at most 53 binary digits in `m`, as exact
values.

* `ofRatio?` rounds a quotient of natural numbers to the nearest such number; of two
  equally near ones it takes the one with the even `m`.  A quotient that is too large
  has none.
* `shortest` gives the decimal with the fewest digits among those that round to the
  number, and the nearest of them.
-/

namespace RequestGuard
namespace Decimal

/-- A finite binary floating-point number, `± mantissa · 2 ^ exponent`. -/
structure Binary64 where
  /-- Whether the number carries a minus sign. -/
  negative : Bool
  /-- A number below `2 ^ 53`. -/
  mantissa : Nat
  /-- An exponent of at least `-1074`. -/
  exponent : Int
  deriving DecidableEq, Repr

namespace Binary64

section Rounding

/-- The natural number nearest to a quotient, the even one of two. -/
def nearest (num den : Nat) : Nat :=
  let q := num / den
  let r := num % den
  if 2 * r < den then q
  else if den < 2 * r then q + 1
  else if q % 2 = 0 then q
  else q + 1

/-- The numerator and the denominator of `num / den / 2 ^ e`. -/
def scaled (num den : Nat) (e : Int) : Nat × Nat :=
  (num <<< (-e).toNat, den <<< e.toNat)

/-- The exponent at which a positive quotient has 53 binary digits, or the least one. -/
def exponentOf (num den : Nat) : Int :=
  let e : Int := (num.log2 : Int) - den.log2 - 52
  let (n, d) := scaled num den e
  max (-1074) (if n < d <<< 52 then e - 1 else e)

/-- The number nearest to a quotient; none above the largest one. -/
def ofRatio? (num den : Nat) : Option Binary64 :=
  if num = 0 then some ⟨false, 0, -1074⟩
  else
    let e := exponentOf num den
    let (n, d) := scaled num den e
    let m := nearest n d
    let (m, e) := if m = 1 <<< 53 then (1 <<< 52, e + 1) else (m, e)
    if 971 < e then none else some ⟨false, m, e⟩

/-- The number nearest to a natural number. -/
def ofNat? (n : Nat) : Option Binary64 :=
  ofRatio? n 1

end Rounding

section Arithmetic

/-- The size of a number as a quotient. -/
def ratio (x : Binary64) : Nat × Nat :=
  (x.mantissa <<< x.exponent.toNat, 1 <<< (-x.exponent).toNat)

/-- The size of a product, rounded. -/
def mul? (x y : Binary64) : Option Binary64 :=
  let (a, b) := x.ratio
  let (c, d) := y.ratio
  ofRatio? (a * c) (b * d)

/-- The size of a quotient by a number other than zero, rounded. -/
def div? (x y : Binary64) : Option Binary64 :=
  let (a, b) := x.ratio
  let (c, d) := y.ratio
  ofRatio? (a * d) (b * c)

/-- The number with the other sign. -/
def neg (x : Binary64) : Binary64 :=
  { x with negative := !x.negative }

end Arithmetic

section Shortest

/-- The bounds of the decimals that round to a number, and the number itself, each
times four and over one denominator: lower bound, number, upper bound, denominator. -/
def window (x : Binary64) : Nat × Nat × Nat × Nat :=
  let below := if x.mantissa = 1 <<< 52 ∧ -1074 < x.exponent then 1 else 2
  let up := 1 <<< x.exponent.toNat
  ((4 * x.mantissa - below) * up, 4 * x.mantissa * up, (4 * x.mantissa + 2) * up,
    4 <<< (-x.exponent).toNat)

/-- The best multiple of `10 ^ k` among those that round to a number. -/
def onGrid? (x : Binary64) (k : Int) : Option Nat :=
  let (low, value, high, den) := x.window
  let up := Nat.pow 10 (-k).toNat
  let unit := den * Nat.pow 10 k.toNat
  let inside (d : Nat) : Bool :=
    if x.mantissa % 2 = 0 then low * up ≤ d * unit && d * unit ≤ high * up
    else low * up < d * unit && d * unit < high * up
  let d := value * up / unit
  let r := value * up % unit
  let near := if 2 * r < unit || (2 * r == unit && d % 2 == 0) then d else d + 1
  let far := if near = d then d + 1 else d
  if inside near then some near
  else if inside far then some far
  else none

/-- The digits and the exponent of the shortest decimal that rounds to a number. -/
def shortest (x : Binary64) : Nat × Int :=
  if x.mantissa = 0 then (0, 0)
  else
    ((List.range 680).findSome? fun (i : Nat) =>
      let k : Int := 310 - Int.ofNat i
      (x.onGrid? k).map fun d => (d, k)).getD (0, 0)

end Shortest

end Binary64
end Decimal
end RequestGuard
