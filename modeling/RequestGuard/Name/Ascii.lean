import RequestGuard.Name.Label
import RequestGuard.Name.Punycode

/-!
# International names in Latin letters

A host name that holds other characters is mapped, its labels are checked, and
each label that still holds other characters is written in the encoding that
starts with `xn--`.

* `Label.ofMapped?` reads one label of a mapped name: an encoded label must hold the
  encoding of a valid label that needs it.
* `asciiForm?` is none for a name that has no such form or holds a character that is
  denied; `toAscii?` denies what an address may not hold in a host name.  Capital letters
  are denied in any case: mapping leaves none.
-/

namespace RequestGuard
namespace Name

section Label

/-- A checked label: how it is written, and the characters it stands for. -/
structure Label where
  /-- The written form. -/
  written : List Char
  /-- The characters. -/
  chars : List Char

/-- What an encoded label starts with. -/
def encodedMark : List Char := ['x', 'n', '-', '-']

/-- A character below 128. -/
def isBasic (c : Char) : Bool :=
  c.toNat < 128

/-- A character below 128 that may not stand in the host name of an address. -/
def isForbidden (c : Char) : Bool :=
  c.toNat ≤ 32 || c.toNat == 127 ||
    ['%', '#', '/', ':', '<', '>', '?', '@', '[', '\\', ']', '^', '|'].contains c

/-- The longest label that is encoded, in characters. -/
def encodeLimit : Nat := 1000

/-- The longest encoding that is decoded, in characters. -/
def decodeLimit : Nat := 2000

/-- A label of a mapped name. -/
def Label.ofMapped? (label : List Char) : Option Label :=
  if encodedMark.isPrefixOf label then
    let code := label.drop encodedMark.length
    if decodeLimit < code.length || !code.all isBasic then none
    else
      (Punycode.decode? code).bind fun chars =>
        if chars.all isBasic || !isValid chars then none
        else some ⟨label, chars⟩
  else if !isValid label then none
  else if label.all isBasic then some ⟨label, label⟩
  else if encodeLimit < label.length then none
  else some ⟨encodedMark ++ Punycode.encode label, label⟩

end Label

/-- The written form of a name in letters, digits and signs below 128, of which some are
denied. -/
def asciiForm? (denied : Char → Bool) (name : List Char) : Option (List Char) := do
  let whole ← mapped? name
  if whole.any fun c => isBasic c && (denied c || Text.lowerChar c != c) then none
  let ls ← (Text.fields '.' whole).mapM Label.ofMapped?
  if ls.any (holdsRightToLeft ·.chars) && !ls.all (directionFits ·.chars) then none
  some (Text.join '.' (ls.map Label.written))

/-- The written form of a name as an address may hold it. -/
def toAscii? (name : List Char) : Option (List Char) :=
  asciiForm? isForbidden name

end Name
end RequestGuard
