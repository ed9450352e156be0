import RequestGuard.Failure
import RequestGuard.Filter.Line
import RequestGuard.Filter.Matching
import RequestGuard.Request.Matcher

/-!
# Filter lists

A list of filters and what it makes of a request.

* A filter that another one cancels has no say.
* A request is blocked if an important filter is about it, or if another blocking filter
  is and no exception.
* Filters are kept under their rarest word.  Filters that have it in common and differ
  in their bodies alone are looked at together.
* The number of rules counts the lines that are written as rules about requests,
  understood or not.
-/

namespace RequestGuard
namespace Filter

open Text

section Index

/-- Filters of one role, each under a word of the addresses it is about, or none. -/
structure Index where
  /-- The filters. -/
  bundles : List (Option (List Char) × Bundle)

/-- May a filter be looked at together with others? -/
def isSimple (f : Filter) : Bool :=
  f.included.isNone && f.excluded.isNone && !f.terms.hostAnchor &&
    (match f.terms.modifier with
    | some (.redirect ..) => false
    | some (.policy _) => false
    | _ => true)

/-- Filters grouped by their terms, in the order of the first of each group. -/
def byTerms : List Filter → List (Filter × List Filter)
  | [] => []
  | f :: more =>
    let groups := byTerms more
    match groups.find? fun g => g.1.terms == f.terms with
    | some (g, gs) => (f, g :: gs) :: groups.filter fun h => h.1.terms != f.terms
    | none => (f, []) :: groups

/-- The bundles of the filters under one word. -/
def bundlesOf (fs : List Filter) : List Bundle :=
  let (simple, others) := fs.partition isSimple
  (byTerms simple).map (fun g => .of g.1 g.2) ++ others.map fun f => .of f []

/-- The filters under each word, or under none. -/
def gather (entries : List (Option (List Char) × Filter)) :
    List (Option (List Char) × List Filter) :=
  (entries.map Prod.fst).eraseDups.map fun key =>
    (key, (entries.filter fun e => e.1 == key).map Prod.snd)

/-- The index of filters. -/
def Index.of (fs : List Filter) : Index :=
  let lists := fs.map fun f => (f, tokenLists f)
  let counts := histogram (lists.flatMap Prod.snd)
  let entries := lists.flatMap fun (f, ls) => ls.map fun words => (rarest counts words, f)
  ⟨(gather entries).flatMap fun (key, fs) => (bundlesOf fs).map fun b => (key, b)⟩

/-- Is one of the filters about a request?  Filters with a tag are not asked. -/
def Index.hits (i : Index) (r : Target) : Bool :=
  i.bundles.any fun (key, b) =>
    (match key with
      | none => true
      | some word => r.tokens.contains word) &&
    b.filter.tag.isNone && b.isAbout r

end Index

section Roles

/-- What part a filter has in the answer. -/
inductive Role where
  | important
  | blocking
  | exception
  | none
  deriving DecidableEq, Repr

/-- The part of a filter.  One with a tag blocks on demand only. -/
def roleOf (f : Filter) : Role :=
  let t := f.terms
  match t.modifier with
  | some (.policy _) => .none
  | some (.removeParam _) => .none
  | m =>
    if t.unhide then .none
    else if t.exception then .exception
    else if t.important then .important
    else
      match m with
      | some (.redirect _ blocks) => if blocks then .blocking else .none
      | _ => if f.tag.isSome then .none else .blocking

/-- The filters that others do not cancel. -/
def uncancelled (fs : List Filter) : List Filter :=
  let cancelling := fs.filter (·.cancels)
  fs.filter fun f => !f.cancels && !cancelling.any (same f)

end Roles
end Filter

/-- A filter list. -/
structure FilterList where
  /-- The filters that cannot be lifted. -/
  important : Filter.Index
  /-- The other filters that block. -/
  blocking : Filter.Index
  /-- The filters that lift others. -/
  exceptions : Filter.Index
  /-- The number of rules. -/
  ruleCount : Nat

namespace FilterList

open RequestGuard.Filter Text

/-- What marks a rule for elements. -/
def elementMarkers : List String :=
  ["##", "#@#", "#?#", "#$#"]

/-- Is a line written as a rule about requests? -/
def isRule (line : List Char) : Bool :=
  let line := trimChars line
  !(line.isEmpty || line.head? == some '!' || line.head? == some '[' ||
    elementMarkers.any fun m => holds m.toList line)

/-- The list of a text. -/
def ofText (text : String) : FilterList :=
  let ls := lines text.toList
  let fs := uncancelled (ls.filterMap ofLine?)
  let index (role : Role) : Index := .of (fs.filter (roleOf · == role))
  ⟨index .important, index .blocking, index .exception, (ls.filter isRule).length⟩

/-- The list of rule data. -/
def ofBytes (bytes : List UInt8) : Except Failure FilterList :=
  match Utf8.decode bytes with
  | .ok cs => .ok (ofText (String.ofList cs))
  | .error fault => .error (.dataInvalid .adBlock fault.message)

/-- What becomes of a request. -/
def decide (l : FilterList) (r : Request) : Decision :=
  let t := Target.ofRequest r
  .blockIf (t.supported &&
    (l.important.hits t || (l.blocking.hits t && !l.exceptions.hits t)))

/-- The list as a matcher. -/
def matcher (l : FilterList) : Matcher :=
  ⟨l.decide, l.ruleCount⟩

/-- The list, in words. -/
def describe (l : FilterList) : String :=
  s!"FilterListMatcher \x7b rules: {l.ruleCount} \x7d"

end FilterList
end RequestGuard
