import RequestGuard.Name.MappingTable
import RequestGuard.Name.PropertyTable
import RequestGuard.Normal.Form

/-!
# Labels of international names

Which labels a host name may have once it is mapped.

* `mapped?` replaces, keeps, drops or refuses each character and takes the composed
  normal form.
* `isSettled` holds for a label that `mapped?` leaves as it is.
* `joinersFit` allows the two invisible joiners only where they change a shape.
* `directionFits` keeps labels of right-to-left scripts readable.
-/

namespace RequestGuard
namespace Name

section Mapping

/-- What the mapping table says of a character. -/
inductive Mapping where
  | keep
  | refuse
  | drop
  | replace (cs : List Char)
  deriving Repr

/-- Reads a row of the mapping table. -/
def readMapping (word : List Char) : Nat × Mapping :=
  let digits := word.takeWhile fun c => (Text.hexValue? c).isSome
  let rest := word.drop digits.length
  (Text.hexNumber digits,
    match rest with
    | '=' :: cs => .replace (Text.hexChars cs)
    | ['+'] => .keep
    | ['~'] => .drop
    | _ => .refuse)

/-- The mapping table. -/
def mappings : Text.Steps Mapping where
  rows := ((Text.allWords MappingTable.rows).map readMapping).toArray

/-- The characters that one character becomes; none when it is refused.  The table starts
at 128; below, capital letters become small. -/
def mapChar? (c : Char) : Option (List Char) :=
  if c.toNat < 128 then some [Text.lowerChar c]
  else
    match mappings.find? c.toNat with
    | some .keep => some [c]
    | some .drop => some []
    | some (.replace cs) => some cs
    | some .refuse => none
    | none => none

/-- A text after mapping, in the composed normal form. -/
def mapped? (cs : List Char) : Option (List Char) :=
  (cs.mapM mapChar?).map fun css => Normal.form css.flatten

/-- A text that mapping leaves as it is. -/
def isSettled (cs : List Char) : Bool :=
  mapped? cs == some cs

end Mapping

section Joiners

/-- How a character joins its neighbours in a connected script. -/
inductive Joining where
  | none
  | left
  | right
  | both
  | causing
  | transparent
  deriving DecidableEq, Repr

/-- Joining types. -/
def joinings : Text.Steps Joining :=
  .ofWords ':' (fun
    | ['L'] => .left
    | ['R'] => .right
    | ['D'] => .both
    | ['C'] => .causing
    | ['T'] => .transparent
    | _ => .none) PropertyTable.joiningTypes

/-- The joining type of a character. -/
def joiningOf (c : Char) : Joining :=
  (joinings.find? c.toNat).getD .none

/-- The combining class of the signs that mute a vowel. -/
def mutingClass : Nat := 9

/-- The invisible sign that keeps two letters apart. -/
def nonJoiner : Char := '\u200c'

/-- The invisible sign that asks two letters to join. -/
def joiner : Char := '\u200d'

/-- Both joiners of `rest` stand where they change a shape; `before` holds the
characters in front of it, the last one first. -/
def joinersFitFrom (before : List Char) : List Char → Bool
  | [] => true
  | c :: rest =>
    let afterMute : Bool :=
      match before with
      | [] => false
      | b :: _ => Normal.classOf b == mutingClass
    let between : Bool :=
      match before.dropWhile (joiningOf · == .transparent),
          rest.dropWhile (joiningOf · == .transparent) with
      | b :: _, a :: _ =>
        (joiningOf b == .left || joiningOf b == .both) &&
          (joiningOf a == .right || joiningOf a == .both)
      | _, _ => false
    let fits :=
      if c = nonJoiner then afterMute || between
      else if c = joiner then afterMute
      else true
    fits && joinersFitFrom (c :: before) rest

/-- Every joiner of a label stands where it changes a shape. -/
def joinersFit (label : List Char) : Bool :=
  joinersFitFrom [] label

end Joiners

section Direction

/-- The property `Bidi_Class`, as far as the rule for labels looks at it. -/
inductive Direction where
  | leftToRight
  | rightToLeft
  | arabicLetter
  | arabicNumber
  | europeanNumber
  | europeanSeparator
  | commonSeparator
  | europeanTerminator
  | otherNeutral
  | boundaryNeutral
  | nonspacingMark
  | other
  deriving DecidableEq, Repr

/-- Directions of writing. -/
def directions : Text.Steps Direction :=
  .ofWords ':' (fun
    | ['L'] => .leftToRight
    | ['R'] => .rightToLeft
    | ['A', 'L'] => .arabicLetter
    | ['A', 'N'] => .arabicNumber
    | ['E', 'N'] => .europeanNumber
    | ['E', 'S'] => .europeanSeparator
    | ['C', 'S'] => .commonSeparator
    | ['E', 'T'] => .europeanTerminator
    | ['O', 'N'] => .otherNeutral
    | ['B', 'N'] => .boundaryNeutral
    | ['N', 'S', 'M'] => .nonspacingMark
    | _ => .other) PropertyTable.directions

/-- The direction of a character. -/
def directionOf (c : Char) : Direction :=
  (directions.find? c.toNat).getD .leftToRight

/-- Does the label hold a character that is written from right to left? -/
def holdsRightToLeft (label : List Char) : Bool :=
  label.any fun c =>
    directionOf c matches .rightToLeft | .arabicLetter | .arabicNumber

/-- The last direction of a label that is not a nonspacing mark. -/
def lastDirection? (ds : List Direction) : Option Direction :=
  (Text.dropTrailing (· == .nonspacingMark) ds).getLast?

/-- The rule for labels of a name that holds a right-to-left label. -/
def directionFits (label : List Char) : Bool :=
  let ds := label.map directionOf
  match ds with
  | [] => true
  | .leftToRight :: _ =>
    ds.all (fun d => d matches .leftToRight | .europeanNumber | .europeanSeparator |
      .commonSeparator | .europeanTerminator | .otherNeutral | .boundaryNeutral |
      .nonspacingMark) &&
    (match lastDirection? ds with
      | some .leftToRight | some .europeanNumber => true
      | _ => false)
  | .rightToLeft :: _ | .arabicLetter :: _ =>
    ds.all (fun d => d matches .rightToLeft | .arabicLetter | .arabicNumber |
      .europeanNumber | .europeanSeparator | .commonSeparator | .europeanTerminator |
      .otherNeutral | .boundaryNeutral | .nonspacingMark) &&
    (match lastDirection? ds with
      | some .rightToLeft | some .arabicLetter | some .europeanNumber |
        some .arabicNumber => true
      | _ => false) &&
    !(ds.contains .europeanNumber && ds.contains .arabicNumber)
  | _ => false

end Direction

section Validity

/-- Marks: characters that combine with the one before. -/
def marks : Text.CodeSet :=
  .ofWords PropertyTable.marks

/-- A label that mapping leaves alone, that starts with no mark and whose joiners fit. -/
def isValid (label : List Char) : Bool :=
  isSettled label &&
    (match label with
      | [] => true
      | c :: _ => !marks.contains c.toNat) &&
    joinersFit label

end Validity

end Name
end RequestGuard
