import RequestGuard.Host.Address

/-!
# Addresses

The parts of an address, its written form, and its origin.

* `Url.text` writes an address.
* `Url.origin?` is the scheme, the host and the port of an address that belongs to
  a site; an address that does not has no origin to compare or to send.
-/

namespace RequestGuard

/-- The host of an address. -/
inductive Url.Host where
  /-- A name; in an address of no special scheme any text that a host may hold. -/
  | name (text : String)
  /-- The number of a version 4 address. -/
  | version4 (number : Nat)
  /-- The eight groups of a version 6 address. -/
  | version6 (groups : List Nat)
  deriving DecidableEq, Repr

/-- The path of an address. -/
inductive Url.Path where
  /-- A text that is not divided. -/
  | undivided (text : String)
  /-- Segments, each behind a slash. -/
  | segments (list : List String)
  deriving DecidableEq, Repr

/-- An address. -/
structure Url where
  /-- The scheme, in small letters. -/
  scheme : String
  /-- The user name, empty where there is none. -/
  username : String
  /-- The password, empty where there is none. -/
  password : String
  /-- The host.  An address of no special scheme may have the empty name. -/
  host : Option Url.Host
  /-- The port, unless it is the usual one of the scheme. -/
  port : Option Nat
  /-- The path. -/
  path : Url.Path
  /-- What stands behind the question mark. -/
  query : Option String
  /-- What stands behind the number sign. -/
  fragment : Option String
  deriving DecidableEq, Repr

namespace Url

section Host

/-- The usual written form of a version 4 address. -/
def version4Text (n : Nat) : String :=
  s!"{n / 16777216 % 256}.{n / 65536 % 256}.{n / 256 % 256}.{n % 256}"

/-- The digits of a group without leading zeros. -/
def groupText (n : Nat) : String :=
  String.ofList (Nat.toDigits 16 n)

/-- The length of the run of zeros that a list starts with. -/
def zeroRun (gs : List Nat) : Nat :=
  (gs.takeWhile (· == 0)).length

/-- The first of the longest runs of zeros: where it starts and its length. -/
def longestZeroRun : Nat → List Nat → Nat × Nat
  | _, [] => (0, 0)
  | start, g :: gs =>
    let here := zeroRun (g :: gs)
    let later := longestZeroRun (start + 1) gs
    if later.2 ≤ here then (start, here) else later

/-- The usual written form of a version 6 address: two colons for the first of the
longest runs of at least two zeros. -/
def version6Text (gs : List Nat) : String :=
  let (start, length) := longestZeroRun 0 gs
  if length < 2 then ":".intercalate (gs.map groupText)
  else
    ":".intercalate ((gs.take start).map groupText) ++ "::" ++
      ":".intercalate ((gs.drop (start + length)).map groupText)

/-- The written form of a host. -/
def Host.text : Host → String
  | .name s => s
  | .version4 n => version4Text n
  | .version6 gs => "[" ++ version6Text gs ++ "]"

/-- The written form of the host of an address, unless it is the empty name. -/
def hostText? (u : Url) : Option String :=
  (u.host.filter fun h => h != .name "").map Host.text

end Host

section Scheme

/-- The schemes whose addresses have a host and a path of segments, with their
usual ports. -/
def specialPorts : List (String × Nat) :=
  [("http", 80), ("https", 443), ("ws", 80), ("wss", 443), ("ftp", 21)]

/-- The usual port of a scheme. -/
def usualPort? (scheme : String) : Option Nat :=
  specialPorts.lookup scheme

/-- A scheme with a usual port, or `file`. -/
def isSpecial (scheme : String) : Bool :=
  scheme == "file" || (usualPort? scheme).isSome

/-- An address of the web. -/
def isWeb (u : Url) : Bool :=
  u.scheme == "http" || u.scheme == "https"

end Scheme

section Text

/-- The written form of a path. -/
def Path.text : Path → String
  | .undivided s => s
  | .segments list => String.join (list.map ("/" ++ ·))

/-- The user name and the password in front of the host. -/
def userinfoText (u : Url) : String :=
  if u.username.isEmpty && u.password.isEmpty then ""
  else if u.password.isEmpty then u.username ++ "@"
  else u.username ++ ":" ++ u.password ++ "@"

/-- What keeps a path from being read as a host: a step to the same place in front of an
empty first segment. -/
def pathGuard (u : Url) : String :=
  match u.path with
  | .segments ("" :: _ :: _) => "/."
  | _ => ""

/-- Host and port with what stands in front of them. -/
def authorityText (u : Url) : String :=
  match u.host with
  | none => if u.scheme == "file" then "//" else u.pathGuard
  | some h =>
    "//" ++ u.userinfoText ++ h.text ++
      (match u.port with
        | none => ""
        | some p => s!":{p}")

/-- The written form of an address. -/
def text (u : Url) : String :=
  u.scheme ++ ":" ++ u.authorityText ++ u.path.text ++
    (match u.query with
      | none => ""
      | some q => "?" ++ q) ++
    (match u.fragment with
      | none => ""
      | some f => "#" ++ f)

/-- An address without user name, password and fragment. -/
def bare (u : Url) : Url :=
  { u with username := "", password := "", fragment := none }

end Text

section Origin

/-- The site of an address as far as it can be compared: scheme, host and port. -/
structure Origin where
  /-- The scheme. -/
  scheme : String
  /-- The host. -/
  host : Host
  /-- The port, also where it is the usual one. -/
  port : Nat
  deriving DecidableEq, Repr

/-- Scheme, host and port of an address that has a host and a usual port. -/
def tupleOrigin? (u : Url) : Option Origin := do
  let usual ← usualPort? u.scheme
  let host ← u.host
  some ⟨u.scheme, host, u.port.getD usual⟩

/-- The written form of an origin; the usual port is left out. -/
def Origin.text (o : Origin) : String :=
  if usualPort? o.scheme = some o.port then o.scheme ++ "://" ++ o.host.text
  else o.scheme ++ "://" ++ o.host.text ++ s!":{o.port}"

end Origin

end Url
end RequestGuard
