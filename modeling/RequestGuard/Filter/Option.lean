import RequestGuard.Filter.Basic

/-!
# Filter options

What follows the last dollar sign of a filter: names between commas, some with a value,
some negated by a tilde.  An unknown name, a negation where there is none, or an empty
value where one is needed makes the filter void.
-/

namespace RequestGuard
namespace Filter

/-- An option of a filter. -/
inductive Choice where
  /-- Hosts of pages, each included or not. -/
  | pages (hosts : List (Bool × List Char))
  /-- Requests to other sites, or to the site of the page. -/
  | party (third : Bool)
  /-- A kind of request, asked for or not. -/
  | kind (k : Kind) (wanted : Bool)
  /-- Every kind of request. -/
  | everyKind
  | important
  | matchCase
  | cancels
  | unhide
  | tag (name : String)
  | modifier (m : Modifier)
  deriving DecidableEq, Repr

namespace Choice

/-- The kinds of request by their names, other than whole pages. -/
def kindNames : List (String × Kind) :=
  [("image", .image), ("media", .media), ("object", .object), ("object-subrequest", .object),
    ("other", .other), ("ping", .ping), ("beacon", .ping), ("script", .script),
    ("stylesheet", .stylesheet), ("css", .stylesheet), ("subdocument", .subdocument),
    ("frame", .subdocument), ("xmlhttprequest", .xmlHttpRequest), ("xhr", .xmlHttpRequest),
    ("websocket", .webSocket), ("font", .font)]

/-- Is a host of a page given as a pattern between slashes? -/
def isPattern (host : List Char) : Bool :=
  host.head? == some '/' && host.getLast? == some '/'

/-- The hosts of pages between bars, patterns apart. -/
def pagesOf (value : List Char) : List (Bool × List Char) :=
  let hosts := (Text.fields '|' value).map fun h =>
    match h with
    | '~' :: host => (false, host)
    | host => (true, host)
  hosts.filter fun h => !isPattern h.2

/-- A sign of the name of a parameter. -/
def isParameterSign (c : Char) : Bool :=
  Text.isLetter c || Text.isDigit c || c == '_' || c == '-'

/-- The option that a name stands for. -/
def ofName? (name : String) (negated : Bool) (value : List Char) : Option Choice :=
  let text := String.ofList value
  let plain (c : Choice) : Option Choice := if negated then none else some c
  match name with
  | "domain" | "from" =>
    let hosts := pagesOf value
    if hosts.isEmpty then none else some (.pages hosts)
  | "badfilter" => plain .cancels
  | "important" => plain .important
  | "match-case" => plain .matchCase
  | "third-party" | "3p" => some (.party !negated)
  | "first-party" | "1p" => some (.party negated)
  | "tag" => plain (.tag text)
  | "redirect" => if value.isEmpty then none else plain (.modifier (.redirect text true))
  | "redirect-rule" => if value.isEmpty then none else plain (.modifier (.redirect text false))
  | "csp" => some (.modifier (.policy (if value.isEmpty then none else some text)))
  | "removeparam" =>
    if value.isEmpty || !value.all isParameterSign then none
    else plain (.modifier (.removeParam text))
  | "generichide" | "ghide" => plain .unhide
  | "document" | "doc" => plain (.kind .document true)
  | "all" => plain .everyKind
  | name => (kindNames.lookup name).map fun k => .kind k !negated

/-- The option that a piece between commas writes. -/
def ofPiece? (piece : List Char) : Option Choice :=
  let body := piece.dropWhile (· == '~')
  let name := body.takeWhile (· ≠ '=')
  ofName? (String.ofList name) (piece.head? == some '~') (body.drop (name.length + 1))

/-- Is an option a kind of request? -/
def isKind : Choice → Bool
  | .kind .. => true
  | .everyKind => true
  | _ => false

/-- What else a filter with an option does. -/
def modifier? : Choice → Option Modifier
  | .modifier m => some m
  | _ => none

/-- Does an option add a policy? -/
def isPolicy : Choice → Bool
  | .modifier (.policy _) => true
  | _ => false

/-- The options after the dollar sign.  A filter does one more thing at most, and a policy
is for no kind of request in particular. -/
def all? (options : List Char) : Option (List Choice) := do
  let choices ← (Text.fields ',' options).mapM ofPiece?
  if choices.any isPolicy && choices.any isKind then none
  if 1 < (choices.filterMap modifier?).length then none
  some choices

end Choice
end Filter
end RequestGuard
