import RequestGuard.Filter.Basic
import RequestGuard.Pattern.Ranges
import RequestGuard.Text.Utf8
import Std.Data.HashMap

/-!
# Tokens

The words of an address and of a filter, runs of letters and digits.  A filter is kept
under one of its words, and looked at for addresses that have this word only.

A word counts if it is longer than one byte and not next to `*`.  A body may be a part of
longer words: its last word does not count unless it ends the address, and then its first
word does not.
-/

namespace RequestGuard
namespace Filter
namespace Token

open Text

/-- A sign of a word. -/
def isWordSign (c : Char) : Bool :=
  c == '%' || Pattern.Ranges.isAnyLetter c || Pattern.Ranges.isAnyNumber c

/-- Is a word longer than one byte? -/
def isLong (word : List Char) : Bool :=
  match word with
  | [] => false
  | [c] => 128 ≤ c.toNat
  | _ => true

/-- Where the reading of words stands. -/
structure State where
  /-- The signs of the current word, from the last to the first. -/
  word : List Char
  /-- Whether the current word is at the start. -/
  first : Bool
  /-- The last sign that is none of a word. -/
  before : Option Char

/-- The words to come, the first or the last of the text apart if asked to. -/
def wordsFrom (skipFirst skipLast : Bool) : State → List Char → List (List Char)
  | s, [] =>
    if !skipLast && isLong s.word && s.before ≠ some '*' then [s.word.reverse] else []
  | s, c :: rest =>
    if isWordSign c then wordsFrom skipFirst skipLast { s with word := c :: s.word } rest
    else
      let more := wordsFrom skipFirst skipLast ⟨[], false, some c⟩ rest
      if isLong s.word && !(s.first && skipFirst) && c ≠ '*' && s.before ≠ some '*' then
        s.word.reverse :: more
      else more

/-- The words of a text, the first or the last apart if asked to. -/
def wordsOf (skipFirst skipLast : Bool) (cs : List Char) : List (List Char) :=
  wordsFrom skipFirst skipLast ⟨[], true, none⟩ cs

/-- The words of a host that may go on after its last label. -/
def openHostWords (host : List Char) : List (List Char) :=
  match (fields '.' host).dropLast with
  | [] => []
  | labels => wordsOf false false (join '.' labels)

end Token

open Token

/-- The lists of words under one of which a filter is kept.  A filter for some pages alone
that has no words is kept under the host of each. -/
def tokenLists (f : Filter) : List (List (List Char)) :=
  let t := f.terms
  let page : List (List Char) :=
    match f.included, f.excluded with
    | some [host], none => [host.toList]
    | _, _ => []
  let body :=
    match f.body with
    | some b => if t.complete then [] else wordsOf t.rightAnchor (!t.rightAnchor) b
    | none => []
  let host :=
    match f.host with
    | some h => if t.openHost then openHostWords h else wordsOf false false h
    | none => []
  let own := page ++ body ++ host
  match own, f.included, f.excluded, t.modifier with
  | [], _, _, some (.removeParam name) => [wordsOf false false (name.toList.map Text.lowerChar)]
  | [], some hosts, none, _ => hosts.map fun h => [h.toList]
  | _, _, _, _ =>
    let protocol :=
      if t.http && !t.https then ["http".toList]
      else if t.https && !t.http then ["https".toList]
      else []
    [own ++ protocol]

/-- Words that nearly every address has. -/
def commonTokens : List String :=
  ["http", "https", "www", "com"]

/-- How often each word occurs; the common words occur as often as all words together. -/
def histogram (lists : List (List (List Char))) : Std.HashMap String Nat :=
  let words := lists.flatten.map String.ofList
  let counts := words.foldl (fun m w => m.insert w (m.getD w 0 + 1)) ∅
  commonTokens.foldl (fun m w => m.insert w words.length) counts

/-- The rarest of some words, the first of several; none if there are no words. -/
def rarest (counts : Std.HashMap String Nat) (words : List (List Char)) :
    Option (List Char) :=
  (words.foldl (fun best w =>
    let n := counts.getD (String.ofList w) 0
    match best with
    | none => some (w, n)
    | some (_, m) => if n < m then some (w, n) else best) none).map Prod.fst

end Filter
end RequestGuard
