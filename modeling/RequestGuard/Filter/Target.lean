import RequestGuard.Filter.Token

/-!
# Requests as filters see them

What filters ask about a request, worked out once: the address as it is and in small
letters, its words, the protocol and the hosts above the page's host.

The protocol is what stands before the first colon, as it is written; an address without
one counts as secure.
-/

namespace RequestGuard
namespace Filter

open Text

/-- A request as filters see it. -/
structure Target where
  /-- The address as it is written. -/
  url : List Char
  /-- The address in small letters. -/
  lower : List Char
  /-- The requested host. -/
  host : List Char
  /-- The page's host and all above it; none if there is no page. -/
  pages : List String
  /-- The words under which filters are looked for. -/
  tokens : List (List Char)
  /-- What the request is for, if filters can tell. -/
  kind : Option Kind
  /-- Does the request leave the site of the page? -/
  thirdParty : Bool
  /-- Is the request made over `http`? -/
  http : Bool
  /-- Is the request made over `https`? -/
  https : Bool
  /-- Do filters speak about the protocol? -/
  supported : Bool

namespace Target

/-- How many words of an address count. -/
def tokenLimit : Nat := 127

/-- A name and what stands after each of its dots, unless nothing does. -/
def namesAbove (host : List Char) : List (List Char) :=
  match host with
  | [] => []
  | c :: rest => if c = '.' && !rest.isEmpty then rest :: namesAbove rest else namesAbove rest

/-- What stands before the first colon. -/
def scheme (url : List Char) : List Char :=
  if url.contains ':' then url.takeWhile (· ≠ ':') else []

/-- A request as filters see it.  A request of which only hosts are known asks for the root
of its host. -/
def ofRequest (r : Request) : Target :=
  let url := if r.url.isEmpty then "https://".toList ++ r.host.toList ++ ['/'] else r.url.toList
  let lower := url.map lowerChar
  let source := r.sourceHost.toList
  let pages := if source.isEmpty then [] else source :: namesAbove source
  let protocol := String.ofList (scheme url)
  let socket := protocol == "ws" || protocol == "wss"
  let https := protocol == "https" || protocol == ""
  { url := url
    lower := lower
    host := r.host.toList
    pages := pages.map String.ofList
    tokens := pages ++ (Token.wordsOf false false lower).take tokenLimit
    kind := if socket then some .webSocket else Kind.ofResources? r.resources
    thirdParty := r.thirdParty
    http := protocol == "http"
    https := https
    supported := protocol == "http" || https || socket }

/-- The address as a filter compares it. -/
def addressFor (t : Target) (matchCase : Bool) : List Char :=
  if matchCase then t.url else t.lower

end Target
end Filter
end RequestGuard
