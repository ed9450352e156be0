import RequestGuard.Text.Basic

/-!
# Written addresses

Which texts are numeric addresses in their usual written form, and which numbers
they write.

* Version 4: four decimal numbers up to 255 between dots, without leading zeros.
* Version 6: eight groups of one to four hexadecimal digits between colons, the
  last two of which may be written as a version 4 address; one run of at least
  one zero group may be left out, which leaves two colons in a row.
-/

namespace RequestGuard
namespace Host

section Version4

/-- A decimal number up to 255 without leading zeros. -/
def octet? (ds : List Char) : Option Nat :=
  if ds.isEmpty || 3 < ds.length || !ds.all Text.isDigit ||
      (1 < ds.length && ds.head? == some '0') || 255 < Text.decimal ds then none
  else some (Text.decimal ds)

/-- The four numbers of a version 4 address. -/
def version4? (cs : List Char) : Option (List Nat) :=
  let pieces := Text.fields '.' cs
  if pieces.length == 4 then pieces.mapM octet? else none

end Version4

section Version6

/-- One to four hexadecimal digits. -/
def group? (ds : List Char) : Option Nat :=
  if ds.isEmpty || 4 < ds.length then none
  else (ds.mapM Text.hexValue?).map fun vs => vs.foldl (fun n v => 16 * n + v) 0

/-- Two groups written as a version 4 address. -/
def mixedGroups? (cs : List Char) : Option (List Nat) :=
  match version4? cs with
  | some [a, b, c, d] => some [256 * a + b, 256 * c + d]
  | _ => none

/-- The groups between colons; with `mixed`, the last two may be written as a
version 4 address. -/
def groups? (mixed : Bool) (cs : List Char) : Option (List Nat) :=
  if cs.isEmpty then some []
  else
    let pieces := Text.fields ':' cs
    match pieces.dropLast.mapM group?, pieces.getLast? with
    | some before, some last =>
      match group? last with
      | some g => some (before ++ [g])
      | none => if mixed then (mixedGroups? last).map (before ++ ·) else none
    | _, _ => none

/-- The eight groups of a version 6 address. -/
def version6? (cs : List Char) : Option (List Nat) :=
  match Text.cutAt? [':', ':'] cs with
  | none =>
    match groups? true cs with
    | some gs => if gs.length = 8 then some gs else none
    | none => none
  | some (before, after) =>
    match groups? false before, groups? true after with
    | some bs, some as =>
      if bs.length + as.length ≤ 7 then
        some (bs ++ List.replicate (8 - bs.length - as.length) 0 ++ as)
      else none
    | _, _ => none

end Version6

/-- A numeric address of either version. -/
def isAddress (cs : List Char) : Bool :=
  (version4? cs).isSome || (version6? cs).isSome

end Host
end RequestGuard
