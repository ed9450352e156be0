import Std.Data.HashMap
import RequestGuard.Normal.Table
import RequestGuard.Text.Steps

/-!
# The composed normal form

Texts that look the same may be written with different characters: a letter with
an accent is one character, or a letter and an accent.  The composed normal form
picks one of the ways.

1. `decompose` replaces every character by its full canonical decomposition.
2. `arrange` sorts each run of accents by combining class and keeps the order of
   equal classes.
3. `compose` puts each base character together with the accents after it that it
   has a composition with, unless another accent of the same class stands between.

Korean syllables are decomposed and composed by arithmetic.
-/

namespace RequestGuard
namespace Normal

section Tables

/-- The full canonical decompositions, by code point. -/
def decompositions : Std.HashMap Nat (List Char) :=
  (Text.allWords Table.decompositions).foldl (fun m w =>
    let (c, ds) := Text.cutWord '=' w
    m.insert (Text.hexNumber c) (Text.hexChars ds)) ∅

/-- The composition of two characters, by the pair of their code points. -/
def compositions : Std.HashMap (Nat × Nat) Char :=
  (Text.allWords Table.compositions).foldl (fun m w =>
    let (pair, c) := Text.cutWord '=' w
    let (a, b) := Text.cutWord '.' pair
    m.insert (Text.hexNumber a, Text.hexNumber b) (Char.ofNat (Text.hexNumber c))) ∅

/-- The combining classes. -/
def classes : Text.Steps Nat :=
  .ofWords ':' Text.hexNumber Table.classes

/-- The combining class of a character; zero for a base character. -/
def classOf (c : Char) : Nat :=
  (classes.find? c.toNat).getD 0

end Tables

section Syllables

/-- The first syllable. -/
def syllableBase : Nat := 0xAC00

/-- The parts of a syllable: leading consonant, vowel and, if there is one, final
consonant. -/
def syllableParts? (n : Nat) : Option (List Char) :=
  if syllableBase ≤ n ∧ n < syllableBase + 11172 then
    let i := n - syllableBase
    let head := [Char.ofNat (0x1100 + i / 588), Char.ofNat (0x1161 + i % 588 / 28)]
    some (if i % 28 = 0 then head else head ++ [Char.ofNat (0x11A7 + i % 28)])
  else none

/-- The syllable of a leading consonant and a vowel, or of a syllable without a
final consonant and a final consonant. -/
def syllable? (a b : Nat) : Option Char :=
  if 0x1100 ≤ a ∧ a < 0x1113 ∧ 0x1161 ≤ b ∧ b < 0x1176 then
    some (Char.ofNat (syllableBase + ((a - 0x1100) * 21 + (b - 0x1161)) * 28))
  else if syllableBase ≤ a ∧ a < syllableBase + 11172 ∧ (a - syllableBase) % 28 = 0 ∧
      0x11A7 < b ∧ b < 0x11C3 then
    some (Char.ofNat (a + (b - 0x11A7)))
  else none

end Syllables

section Decompose

/-- The full canonical decomposition of a character. -/
def decomposeChar (c : Char) : List Char :=
  match syllableParts? c.toNat with
  | some parts => parts
  | none => (decompositions[c.toNat]?).getD [c]

/-- Every character replaced by its full canonical decomposition. -/
def decompose (cs : List Char) : List Char :=
  cs.flatMap decomposeChar

/-- Puts an accent behind the accents of its class or a lower one. -/
def insertAccent (k : Nat) (c : Char) : List (Nat × Char) → List (Nat × Char)
  | [] => [(k, c)]
  | (k', c') :: rest =>
    if k < k' then (k, c) :: (k', c') :: rest else (k', c') :: insertAccent k c rest

/-- Each run of accents in the order of combining classes. -/
def arrange (cs : List Char) : List Char :=
  let step : List Char × List (Nat × Char) → Char → List Char × List (Nat × Char) :=
    fun (done, run) c =>
      match classOf c with
      | 0 => (c :: ((run.map Prod.snd).reverse ++ done), [])
      | k + 1 => (done, insertAccent (k + 1) c run)
  let (done, run) := cs.foldl step ([], [])
  done.reverse ++ run.map Prod.snd

end Decompose

section Compose

/-- The composition of two characters. -/
def pair? (a b : Char) : Option Char :=
  (syllable? a.toNat b.toNat).or (compositions[(a.toNat, b.toNat)]?)

/-- A text on its way to the composed form: what is done, the last base character
and the accents after it that did not compose, both from the end. -/
structure Partial where
  /-- Finished characters, the last one first. -/
  done : List Char
  /-- The last base character. -/
  base : Option Char
  /-- The accents that wait behind it, the last one first. -/
  accents : List Char

/-- All characters of a partial text, the last one first. -/
def Partial.flush (p : Partial) : List Char :=
  p.accents ++ p.base.toList ++ p.done

/-- Takes the next character of an arranged text. -/
def Partial.push (p : Partial) (c : Char) : Partial :=
  let free : Bool :=
    match p.accents with
    | [] => true
    | last :: _ => classOf last < classOf c
  match if free then p.base.bind (pair? · c) else none with
  | some composed => { p with base := some composed }
  | none =>
    if classOf c = 0 then ⟨p.flush, some c, []⟩
    else { p with accents := c :: p.accents }

/-- Base characters composed with the accents behind them. -/
def compose (cs : List Char) : List Char :=
  (cs.foldl Partial.push ⟨[], none, []⟩).flush.reverse

end Compose

/-- The composed normal form of a text. -/
def form (cs : List Char) : List Char :=
  if cs.all (·.toNat < 0x300) then cs else compose (arrange (decompose cs))

end Normal
end RequestGuard
