import RequestGuard.Filter.Option
import RequestGuard.Name.Ascii

/-!
# Filter lines

From a line of a filter list to a filter.

* `isSupported` tells the lines that may be filters from comments, headings and rules
  for elements.
* A line starts with `@@` for exceptions, then with `||` if a host follows and with `|`
  if the address starts there; a final `|` ends the address.
* After `||`, the host goes up to the first sign that ends it.
-/

namespace RequestGuard
namespace Filter

open Text

section Support

/-- What follows a number sign in rules for elements. -/
def elementMarks : List String :=
  ["@$#", "@%#", "%#", "$#", "?#", "#", "@#"]

/-- Is a line, without blanks around it, neither a comment nor a heading nor a rule for
elements? -/
def isSupported (line : List Char) : Bool :=
  let comment :=
    (String.ofList line).utf8ByteSize ≤ 1 || line.head? == some '!' ||
      (line.head? == some '#' && (line.drop 1).head?.any isBlank) ||
      "[Adblock".toList.isPrefixOf line
  let forced := line.head? == some '|' || "@@|".toList.isPrefixOf line
  let element :=
    holds ['$', '$'] line ||
      (match cutAt? ['#'] line with
      | some (_, after) => elementMarks.any fun m => m.toList.isPrefixOf after
      | none => false)
  !comment && (forced || !element)

end Support

section Parts

/-- How a line binds the body to the left. -/
inductive LeftMark where
  | none
  | start
  | host
  deriving DecidableEq, Repr

/-- The parts of a line. -/
structure Parts where
  /-- Whether the filter lifts others. -/
  exception : Bool
  /-- How the pattern is bound to the left. -/
  left : LeftMark
  /-- Whether the pattern ends the address. -/
  right : Bool
  /-- The pattern. -/
  pattern : List Char
  /-- The options. -/
  choices : List Choice

/-- What stands before and after the last dollar sign. -/
def atOptions (line : List Char) : List Char × Option (List Char) :=
  match (fields '$' line).reverse with
  | last :: first :: more => (join '$' (first :: more).reverse, some last)
  | _ => (line, none)

/-- The parts of a line; none if the options make it void. -/
def Parts.ofLine? (line : List Char) : Option Parts := do
  let exception := "@@".toList.isPrefixOf line
  let (rule, options) := atOptions (if exception then line.drop 2 else line)
  let choices ← match options with
    | none => some []
    | some text => Choice.all? text
  let left : LeftMark :=
    if "||".toList.isPrefixOf rule then .host
    else if rule.head? == some '|' then .start
    else .none
  let rest := rule.drop (match left with | .none => 0 | .start => 1 | .host => 2)
  let right := rest.getLast? == some '|'
  some ⟨exception, left, right, if right then rest.dropLast else rest, choices⟩

end Parts

section Choices

/-- The kinds that options ask for. -/
def wantedKinds (choices : List Choice) : List Kind :=
  choices.flatMap fun
    | .kind k true => [k]
    | .everyKind => Kind.all
    | _ => []

/-- The kinds that options do not want. -/
def unwantedKinds (choices : List Choice) : List Kind :=
  choices.filterMap fun
    | .kind k false => some k
    | _ => none

/-- The kinds that a filter is about.  Without any that it wants, these are all kinds but
pages, and for taking parameters those that carry them; a kind that it does not want
stands for wanting all others. -/
def kindsOf (choices : List Choice) (takesParameter implied : Bool) : List Kind :=
  let wanted := wantedKinds choices
  let unwanted := unwantedKinds choices
  let start : List Kind :=
    if !takesParameter && !unwanted.isEmpty then wanted ++ Kind.network
    else if !wanted.isEmpty then wanted
    else if takesParameter then [.document, .subdocument, .xmlHttpRequest]
    else if implied then Kind.all
    else Kind.network
  Kind.all.filter fun k => start.contains k && !unwanted.contains k

/-- The last value among the options. -/
def lastOf {α : Type} (pick : Choice → Option α) (choices : List Choice) : Option α :=
  (choices.filterMap pick).getLast?

/-- Hosts in order, each once. -/
def sortedHosts (hosts : List (List Char)) : List String :=
  ((hosts.map String.ofList).mergeSort fun a b => a ≤ b).eraseDups

/-- The hosts of pages that an option includes, or excludes. -/
def pageHosts (included : Bool) : Choice → Option (List String)
  | .pages hosts =>
    let chosen := (hosts.filter (·.1 == included)).map Prod.snd
    if chosen.isEmpty then none else some (sortedHosts chosen)
  | _ => none

end Choices

section Bodies

/-- Has a pattern the signs `*` or `^`? -/
def hasWildcards (pattern : List Char) : Bool :=
  pattern.any fun c => c == '*' || c == '^'

/-- Is a pattern given between slashes? -/
def isBetweenSlashes (pattern : List Char) : Bool :=
  1 < pattern.length && pattern.head? == some '/' && pattern.getLast? == some '/'

/-- How a pattern is divided into a host and a body, and what binds the body. -/
structure Division where
  /-- The host, if there is one. -/
  host : Option (List Char)
  /-- What follows it. -/
  rest : List Char
  leftAnchor : Bool
  rightAnchor : Bool
  wildcards : Bool
  openHost : Bool

/-- Divides a pattern at the end of its host. -/
def Division.atHost (pattern : List Char) (rightAnchor : Bool) : Division :=
  if hasWildcards pattern then
    let host := pattern.takeWhile fun c => c ≠ '/' && c ≠ '^' && c ≠ '*'
    let rest := pattern.drop host.length
    let openHost := rest.head? == some '*'
    if rest == ['^'] then ⟨some host, [], false, true, false, openHost⟩
    else ⟨some host, rest, true, rightAnchor, hasWildcards rest, openHost⟩
  else
    let host := pattern.takeWhile (· ≠ '/')
    let rest := pattern.drop host.length
    ⟨some host, rest, !rest.isEmpty, rightAnchor, false, false⟩

/-- Divides a pattern. -/
def Division.of (p : Parts) : Division :=
  match p.left with
  | .host => .atHost p.pattern p.right
  | .start => ⟨none, p.pattern, true, p.right, hasWildcards p.pattern, false⟩
  | .none => ⟨none, p.pattern, false, p.right, hasWildcards p.pattern, false⟩

/-- A division whose body neither ends nor starts with `*`.  A body that started with it
is not bound to the left. -/
def Division.trimmed (d : Division) : Division :=
  let rest := if d.rest.getLast? == some '*' then d.rest.dropLast else d.rest
  match rest with
  | '*' :: rest => { d with rest, leftAnchor := false }
  | rest => { d with rest }

/-- The protocols that a body alone stands for: over `http`, over `https`, and whether web
sockets are meant. -/
def protocolOf? (body : List Char) : Option (Bool × Bool × Bool) :=
  match String.ofList body with
  | "ws://" => some (false, false, true)
  | "http://" => some (true, false, false)
  | "https://" => some (false, true, false)
  | "http*://" => some (true, true, false)
  | _ => none

/-- A repeated start of a text removed. -/
def dropStarts (start : List Char) (cs : List Char) : List Char :=
  if _h : start ≠ [] ∧ start.isPrefixOf cs ∧ 0 < cs.length then
    dropStarts start (cs.drop start.length)
  else cs
termination_by cs.length
decreasing_by
  have : 0 < start.length := List.length_pos_iff.2 _h.1
  simp only [List.length_drop]
  omega

/-- A host in small letters below 128, without `www.` at its start. -/
def hostForm? (anchored : Bool) (host : List Char) : Option (List Char) :=
  let host := (if anchored then dropStarts "www.".toList host else host).map lowerChar
  if host.all fun c => c.toNat < 128 then some host
  else Name.asciiForm? (fun _ => false) host

end Bodies

/-- The filter of the parts of a line; none if it is void. -/
def ofParts? (p : Parts) : Option Filter := do
  let has (c : Choice) : Bool := p.choices.contains c
  let modifier := lastOf Choice.modifier? p.choices
  let takesParameter := modifier matches some (.removeParam _)
  let complete := isBetweenSlashes p.pattern
  if has .matchCase && !complete then none
  if has .unhide && !p.exception then none
  let divided := Division.of p
  let d := divided.trimmed
  let protocol := if d.leftAnchor then protocolOf? d.rest else none
  let body := if protocol.isSome then [] else d.rest
  let host ← match d.host with
    | none => some none
    | some h => (hostForm? (p.left == .host) h).map some
  let implied := p.left == .host && d.rightAnchor && !p.right
  let kinds := kindsOf p.choices takesParameter implied
  let sockets := protocol.any fun q => q.2.2
  some
    { terms :=
        { kinds :=
            if sockets && !(unwantedKinds p.choices).contains .webSocket then
              Kind.all.filter fun k => kinds.contains k || k == .webSocket
            else kinds
          firstParty := !has (.party true)
          thirdParty := !has (.party false)
          http := protocol.all fun q => q.1
          https := protocol.all fun q => q.2.1
          exception := p.exception
          important := has .important
          matchCase := has .matchCase
          unhide := has .unhide
          hostAnchor := p.left == .host
          leftAnchor := d.leftAnchor && protocol.isNone
          rightAnchor := d.rightAnchor
          wildcards := if body.isEmpty then divided.wildcards else hasWildcards body
          complete := complete
          openHost := d.openHost
          modifier := modifier }
      body :=
        if body.isEmpty then none
        else some (if has .matchCase then body else body.map lowerChar)
      host := host
      included := lastOf (pageHosts true) p.choices
      excluded := lastOf (pageHosts false) p.choices
      tag := lastOf (fun | .tag name => some name | _ => none) p.choices
      cancels := has .cancels }

/-- The filter of a line; none if the line is no filter that is understood. -/
def ofLine? (line : List Char) : Option Filter :=
  let line := trimChars line
  if line.isEmpty || !isSupported line then none
  else (Parts.ofLine? line).bind ofParts?

end Filter
end RequestGuard
