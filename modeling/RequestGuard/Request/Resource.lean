/-!
# Resources

What a request is for.  A request carries a set of resources, one bit each, so
that a caller that knows no better may name several.

* `Resource.ofName` reads the name a browser gives; a name that is not known
  stands for `other`.
* `Resource.ofPipelineCode` reads the number a browser's request pipeline gives.
* `ResourceSet.ofBits` drops the bits that stand for no resource.
-/

namespace RequestGuard

/-- What a request is for. -/
inductive Resource where
  | other
  | script
  | image
  | stylesheet
  | object
  | subdocument
  | mainFrame
  | xmlHttpRequest
  | webSocket
  | font
  | media
  | ping
  | cspReport
  | beacon
  | fetch
  deriving DecidableEq, Repr

namespace Resource

/-- Every resource, in the order of the bits. -/
def all : List Resource :=
  [other, script, image, stylesheet, object, subdocument, mainFrame, xmlHttpRequest,
    webSocket, font, media, ping, cspReport, beacon, fetch]

/-- The position of a resource's bit. -/
def index : Resource → Nat
  | other => 0
  | script => 1
  | image => 2
  | stylesheet => 3
  | object => 4
  | subdocument => 5
  | mainFrame => 6
  | xmlHttpRequest => 7
  | webSocket => 8
  | font => 9
  | media => 10
  | ping => 11
  | cspReport => 12
  | beacon => 13
  | fetch => 14

/-- The names that browsers use. -/
def names : List (String × Resource) :=
  [("main_frame", mainFrame), ("document", mainFrame), ("sub_frame", subdocument),
    ("subdocument", subdocument), ("stylesheet", stylesheet), ("script", script),
    ("image", image), ("font", font), ("object", object),
    ("xmlhttprequest", xmlHttpRequest), ("xhr", xmlHttpRequest), ("ping", ping),
    ("beacon", beacon), ("fetch", fetch), ("csp_report", cspReport), ("media", media),
    ("websocket", webSocket)]

/-- The resource of a browser's name. -/
def ofName (name : String) : Resource :=
  (names.lookup name).getD other

/-- The resource of a request pipeline's number. -/
def ofPipelineCode : Nat → Resource
  | 0 => mainFrame
  | 1 => subdocument
  | 2 => stylesheet
  | 3 => script
  | 4 | 12 => image
  | 5 => font
  | 7 | 17 => object
  | 8 => media
  | 13 => xmlHttpRequest
  | 14 => ping
  | 16 => cspReport
  | _ => other

end Resource

/-- A set of resources, one bit each. -/
structure ResourceSet where
  /-- The bits; those above the last resource are not set. -/
  bits : Nat
  deriving DecidableEq, Repr

namespace ResourceSet

/-- The set of one resource. -/
def single (r : Resource) : ResourceSet :=
  ⟨1 <<< r.index⟩

/-- The set that a number writes; bits above the last resource say nothing. -/
def ofBits (n : Nat) : ResourceSet :=
  ⟨n % (1 <<< Resource.all.length)⟩

/-- Is the resource in the set? -/
def contains (s : ResourceSet) (r : Resource) : Bool :=
  s.bits.testBit r.index

end ResourceSet

/-- What becomes of a request. -/
inductive Decision where
  | allow
  | block
  deriving DecidableEq, Repr

/-- Should the request be cancelled? -/
def Decision.isBlock : Decision → Bool
  | .block => true
  | .allow => false

/-- Cancels the request when the condition holds. -/
def Decision.blockIf (condition : Bool) : Decision :=
  if condition then .block else .allow

end RequestGuard
