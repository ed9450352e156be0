import RequestGuard.Request.Basic

/-!
# Filters

A filter says which requests it is about.  It has a body, which is looked for in the
address, perhaps a host to which the address must belong, and conditions on what is
requested, by which page and over which protocol.

The place of the body is bound by anchors.  A body with the signs `*` and `^` is a
wildcard pattern, and a body between slashes is a pattern of its own.
-/

namespace RequestGuard
namespace Filter

/-- What a filter can tell apart about what is requested. -/
inductive Kind where
  | document
  | font
  | image
  | media
  | object
  | other
  | ping
  | script
  | stylesheet
  | subdocument
  | webSocket
  | xmlHttpRequest
  deriving DecidableEq, Repr

namespace Kind

/-- Every kind. -/
def all : List Kind :=
  [document, font, image, media, object, other, ping, script, stylesheet, subdocument,
    webSocket, xmlHttpRequest]

/-- Every kind but whole pages. -/
def network : List Kind :=
  all.drop 1

/-- The kind of a resource; reports of policy violations have none. -/
def ofResource? : Resource → Option Kind
  | .mainFrame => some document
  | .subdocument => some subdocument
  | .stylesheet => some stylesheet
  | .script => some script
  | .image => some image
  | .font => some font
  | .object => some object
  | .xmlHttpRequest => some xmlHttpRequest
  | .fetch => some xmlHttpRequest
  | .ping => some ping
  | .beacon => some ping
  | .cspReport => none
  | .media => some media
  | .webSocket => some webSocket
  | .other => some other

/-- The resources from the one that counts most to the one that counts least. -/
def precedence : List Resource :=
  [.mainFrame, .subdocument, .stylesheet, .script, .image, .font, .object, .xmlHttpRequest,
    .fetch, .ping, .beacon, .cspReport, .media, .webSocket]

/-- The kind of a request that is for several resources: that of the one that counts
most. -/
def ofResources? (s : ResourceSet) : Option Kind :=
  ofResource? ((precedence.find? s.contains).getD .other)

end Kind

/-- What else a filter does to a request. -/
inductive Modifier where
  /-- Answers the request with a resource of the browser, and may block it otherwise. -/
  | redirect (resource : String) (blocks : Bool)
  /-- Adds a policy to a page. -/
  | policy (directives : Option String)
  /-- Takes a parameter from the address. -/
  | removeParam (name : String)
  deriving DecidableEq, Repr

/-- What a filter is about, apart from the words that it looks for. -/
structure Terms where
  /-- The kinds of request. -/
  kinds : List Kind
  /-- Requests to the site of the page. -/
  firstParty : Bool
  /-- Requests to other sites. -/
  thirdParty : Bool
  /-- Requests over `http`. -/
  http : Bool
  /-- Requests over `https`. -/
  https : Bool
  /-- The filter lifts others. -/
  exception : Bool
  /-- The filter cannot be lifted. -/
  important : Bool
  /-- The case of letters counts. -/
  matchCase : Bool
  /-- The filter lifts the hiding of elements. -/
  unhide : Bool
  /-- The address must belong to a host. -/
  hostAnchor : Bool
  /-- The body follows the host, or starts the address. -/
  leftAnchor : Bool
  /-- The body ends the address. -/
  rightAnchor : Bool
  /-- The body has the signs `*` or `^`. -/
  wildcards : Bool
  /-- The body is a pattern between slashes. -/
  complete : Bool
  /-- The last label of the host may go on. -/
  openHost : Bool
  /-- What else the filter does. -/
  modifier : Option Modifier
  deriving DecidableEq, Repr

end Filter

/-- A filter. -/
structure Filter where
  /-- What it is about. -/
  terms : Filter.Terms
  /-- What is looked for in the address; nothing where any address will do. -/
  body : Option (List Char)
  /-- The host to which the address must belong. -/
  host : Option (List Char)
  /-- The hosts whose pages it is about, if it is not about all. -/
  included : Option (List String)
  /-- The hosts whose pages it is not about. -/
  excluded : Option (List String)
  /-- A name for filters that are used on demand only. -/
  tag : Option String
  /-- The filter cancels filters that are otherwise the same. -/
  cancels : Bool
  deriving DecidableEq, Repr

namespace Filter

/-- Are two filters the same, their tags and whether they cancel others apart? -/
def same (f g : Filter) : Bool :=
  { f with tag := none, cancels := false : Filter } == { g with tag := none, cancels := false }

end Filter
end RequestGuard
