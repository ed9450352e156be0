import Std.Data.HashSet
import RequestGuard.Host.Address
import RequestGuard.Host.Basic
import RequestGuard.Host.SuffixTable

/-!
# Registrable domains and sites

The registrable domain of a host is the label in front of its public suffix,
together with the suffix.  Two hosts are of one site when their registrable
domains are equal.  An address, and a host that has no label in front of its
suffix, is its own site.

Of all rules that apply to a host, an exception wins, and otherwise the longest
one; the rule that every last label is a suffix always applies.

* `suffixSize` is the number of labels of the public suffix.
* `registrable?` is the suffix with one label more.
* `siteOf` is the registrable domain of a host in normal form.
-/

namespace RequestGuard
namespace Host

section Rules

/-- Names that are suffixes, names whose children are, and children that are not. -/
structure SuffixRules where
  /-- Suffixes that count as they stand. -/
  plain : Std.HashSet String
  /-- Names every child of which is a suffix. -/
  wildcard : Std.HashSet String
  /-- Children of wildcard names that are no suffixes. -/
  exception : Std.HashSet String

/-- The set of the names in texts of names between blanks. -/
def namesOf (texts : List String) : Std.HashSet String :=
  texts.foldl (fun names text =>
    (Text.fields ' ' (text.toList.map fun c => if c = '\n' then ' ' else c)).foldl
      (fun names name => names.insert (String.ofList name)) names) ∅

/-- The rules of the table. -/
def publicSuffixes : SuffixRules where
  plain := namesOf SuffixTable.plainTexts
  wildcard := namesOf SuffixTable.wildcardTexts
  exception := namesOf SuffixTable.exceptionTexts

/-- The name that a list of labels writes. -/
def ofLabels (ls : List (List Char)) : String :=
  String.ofList (Text.join '.' ls)

/-- Is the name of these labels a suffix by a rule of its own length? -/
def SuffixRules.matches (rules : SuffixRules) (ls : List (List Char)) : Bool :=
  rules.plain.contains (ofLabels ls) || rules.wildcard.contains (ofLabels (ls.drop 1))

/-- The lengths, in labels, of the suffixes that a rule gives to the host, the
longest first; the last label is always one. -/
def SuffixRules.sizes (rules : SuffixRules) : List (List Char) → List Nat
  | [] => []
  | [_] => [1]
  | l :: rest =>
    if rules.matches (l :: rest) then (rest.length + 1) :: rules.sizes rest
    else rules.sizes rest

/-- The length of the suffix that an exception leaves to the host, if one applies. -/
def SuffixRules.exceptionSize? (rules : SuffixRules) : List (List Char) → Option Nat
  | [] => none
  | l :: rest =>
    if rules.exception.contains (ofLabels (l :: rest)) then some rest.length
    else rules.exceptionSize? rest

/-- The number of labels of the public suffix of a host. -/
def SuffixRules.suffixSize (rules : SuffixRules) (ls : List (List Char)) : Nat :=
  (rules.exceptionSize? ls).getD ((rules.sizes ls).headD 0)

end Rules

section Site

/-- The public suffix with the label in front of it.  There is none where nothing
but dots stands in front of the suffix, or a suffix has no character. -/
def registrable? (rules : SuffixRules) (host : String) : Option String :=
  let ls := labels host
  let size := rules.suffixSize ls
  let before := ls.take (ls.length - size)
  let suffix := ls.drop (ls.length - size)
  if (Text.join '.' suffix).isEmpty || (Text.join '.' before).isEmpty then none
  else some (ofLabels (ls.drop (ls.length - size - 1)))

/-- A host without opening brackets at its start and closing ones at its end. -/
def withoutBrackets (cs : List Char) : List Char :=
  Text.dropTrailing (· == ']') (cs.dropWhile (· == '['))

/-- The registrable domain of a host in normal form, or the normal form itself. -/
def siteOf (rules : SuffixRules) (host : String) : String :=
  let host := normalize host
  if isAddress (withoutBrackets host.toList) then host
  else (registrable? rules host).getD host

/-- The site of a host by the public suffixes. -/
def site (host : String) : String :=
  siteOf publicSuffixes host

/-- Two hosts of one registrable domain. -/
def sameSite (a b : String) : Bool :=
  site a == site b

/-- A request to `host` from a page on `base` leaves the page's site. -/
def thirdParty (base host : String) : Bool :=
  !sameSite base host

end Site

end Host
end RequestGuard
