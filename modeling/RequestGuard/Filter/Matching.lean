import RequestGuard.Filter.Target
import RequestGuard.Pattern.Search

/-!
# What filters match

When a filter is about a request.

* `Terms.allow` looks at the kind, the protocol and the party of the request; an
  exception is about every page.
* `belongs` is the test on the host: the filter's host must be the requested one, or its
  start or its end at a dot.  A host in the middle must stand at a dot to the left, and
  the requested host must have a dot where it would with the host at its start.
* A body with signs becomes a pattern: `*` stands for anything, and `^` for a sign that
  separates words of an address, or, at the end, for the end of the address.
-/

namespace RequestGuard
namespace Filter

open Text

section Terms

/-- Is a filter about this kind of request, over this protocol, for this party? -/
def Terms.allow (t : Terms) (r : Target) : Bool :=
  (match r.kind with
    | none => false
    | some .document => t.exception || t.kinds.contains .document
    | some k => t.kinds.contains k) &&
  (t.https || !r.https) && (t.http || !r.http) &&
  (if r.thirdParty then t.thirdParty else t.firstParty)

/-- Is a filter about requests of these pages? -/
def allowsPages (f : Filter) (pages : List String) : Bool :=
  (f.included.all fun hosts => pages.any hosts.contains) &&
    (f.excluded.all fun hosts => !pages.any hosts.contains)

end Terms

section Hosts

/-- The number of signs before the first occurrence of a text. -/
def indexOf? (needle cs : List Char) : Option Nat :=
  (cutAt? needle cs).map fun p => p.1.length

/-- Is there a dot after a number of signs? -/
def dotAt (host : List Char) (n : Nat) : Bool :=
  (host.drop n).head? == some '.'

/-- Does a requested host belong to the host of a filter?  With `isOpen`, the filter's host
may go on within a label. -/
def belongs (own host : List Char) (isOpen : Bool) : Bool :=
  let fitsRight := isOpen || own.getLast? == some '.' || dotAt host own.length
  let fitsLeft (n : Nat) := own.head? == some '.' || dotAt host (n - 1)
  if own.isEmpty then true
  else if own.length = host.length then own == host
  else
    match indexOf? own host with
    | none => false
    | some 0 => fitsRight
    | some n => if n = host.length - own.length then fitsLeft n else fitsRight && fitsLeft n

/-- What follows the first occurrence of a host in an address; without one, `otherwise`. -/
def afterHost (own address otherwise : List Char) : List Char :=
  match cutAt? own address with
  | some (_, after) => after
  | none => otherwise

end Hosts

section Bodies

/-- A sign that is special in patterns but not in filters. -/
def isSpecial (c : Char) : Bool :=
  "|.$+?\x7b\x7d()[]".toList.contains c

/-- A sign that separates the words of an address. -/
def separator : List Char := "(?:[^\\w\\d\\._%-])".toList

/-- Such a sign, or the end of the address. -/
def finalSeparator : List Char := "(?:[^\\w\\d\\._%-]|$)".toList

/-- A body with special signs escaped and `*` written out. -/
def escaped (body : List Char) : List Char :=
  body.flatMap fun c =>
    if isSpecial c then ['\\', c] else if c = '*' then ['.', '*'] else [c]

/-- Writes out each `^` with the sign after it; a `^` after a `^` that was written out
stays. -/
def withSeparators : List Char → List Char
  | [] => []
  | '^' :: c :: rest => separator ++ c :: withSeparators rest
  | c :: rest => c :: withSeparators rest

/-- Writes out a final `^`. -/
def withFinalSeparator (cs : List Char) : List Char :=
  if cs.getLast? = some '^' then cs.dropLast ++ finalSeparator else cs

/-- The pattern of a body with signs. -/
def wildcardSource (leftAnchor rightAnchor : Bool) (body : List Char) : List Char :=
  (if leftAnchor then ['^'] else []) ++ withFinalSeparator (withSeparators (escaped body)) ++
    (if rightAnchor then ['$'] else [])

/-- A text with each occurrence of two signs replaced by the second. -/
def unescape (a b : Char) : List Char → List Char
  | [] => []
  | [c] => [c]
  | c :: d :: rest =>
    if c = a ∧ d = b then b :: unescape a b rest else c :: unescape a b (d :: rest)

/-- The pattern of a body between slashes. -/
def completeSource (body : List Char) : List Char :=
  unescape '\\' ':' (unescape '\\' '/' ((body.drop 1).dropLast))

/-- What filters with the same terms look for. -/
inductive Search where
  /-- Nothing: any address will do. -/
  | anything
  /-- One of some texts. -/
  | texts (ts : List (List Char))
  /-- One of some patterns. -/
  | patterns (ps : List Pattern)
  /-- A pattern that is none, so that nothing is found. -/
  | impossible

/-- What filters with the same terms look for.  If one of the patterns is none, nothing is
found. -/
def Search.of (t : Terms) (bodies : List (Option (List Char))) : Search :=
  match bodies.mapM id with
  | none => .anything
  | some given =>
    if t.wildcards || (t.complete && !t.hostAnchor) then
      let source (b : List Char) : List Char :=
        if t.complete then completeSource b else wildcardSource t.leftAnchor t.rightAnchor b
      match given.mapM fun b => Pattern.compile? .bytes (String.ofList (source b)) with
      | some ps => .patterns ps
      | none => .impossible
    else .texts given

/-- Is a text found, bound as the anchors say? -/
def foundText (leftAnchor rightAnchor : Bool) (address t : List Char) : Bool :=
  if leftAnchor && rightAnchor then address == t
  else if leftAnchor then t.isPrefixOf address
  else if rightAnchor then t.isSuffixOf address
  else holds t address

/-- Is what is looked for found in an address? -/
def Search.found (s : Search) (leftAnchor rightAnchor : Bool) (address : List Char) : Bool :=
  match s with
  | .anything => true
  | .texts ts => ts.any (foundText leftAnchor rightAnchor address)
  | .patterns ps => ps.any fun p => p.isMatch (Utf8.encode address)
  | .impossible => false

end Bodies

/-- Filters that have all but their bodies in common. -/
structure Bundle where
  /-- One of the filters. -/
  filter : Filter
  /-- What they look for. -/
  search : Search

namespace Bundle

/-- The bundle of filters with the terms of the first. -/
def of (f : Filter) (others : List Filter) : Bundle :=
  ⟨f, .of f.terms (f.body :: others.map Filter.body)⟩

/-- Is what the filters look for found in a request? -/
def found (b : Bundle) (r : Target) : Bool :=
  let t := b.filter.terms
  let address := r.addressFor t.matchCase
  if !t.hostAnchor then b.search.found t.leftAnchor t.rightAnchor address
  else
    let own := b.filter.host.getD []
    belongs own r.host t.openHost &&
      (if t.wildcards then
        b.search.found false false (afterHost own address (address.drop own.length))
      else
        match b.search with
        | .anything => !t.rightAnchor || t.leftAnchor || own.isSuffixOf r.host
        | s =>
          if t.rightAnchor && !t.leftAnchor then s.found false true address
          else s.found t.leftAnchor t.rightAnchor (afterHost own address []))

/-- Is one of the filters about a request? -/
def isAbout (b : Bundle) (r : Target) : Bool :=
  b.filter.terms.allow r && allowsPages b.filter r.pages && b.found r

end Bundle
end Filter
end RequestGuard
