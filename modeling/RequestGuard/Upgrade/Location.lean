import RequestGuard.Failure
import RequestGuard.Text.Basic
import RequestGuard.Text.Utf8

/-!
# Where databases are

A path of a database is the path of its file.  It is empty or `:memory:` for databases that no
other call can see.  A path that starts with `file:` is an address: it can name this machine, its
path is percent-encoded, and its parameters choose how the file is opened.
-/

namespace RequestGuard
namespace Upgrade

/-- How a database is opened. -/
inductive Access where
  | readOnly
  /-- For reading and writing, if there is one. -/
  | existing
  /-- For reading and writing, and is made if there is none. -/
  | create
  /-- In memory. -/
  | memory
  deriving DecidableEq, Repr

/-- Where a database is, and how it is opened. -/
structure Location where
  /-- The path of its file, if it has one that others can see. -/
  file? : Option String
  /-- How it is opened. -/
  access : Access
  deriving DecidableEq, Repr

namespace Access

/-- Can the database be written to? -/
def writes (a : Access) : Bool :=
  a != .readOnly

/-- The names of the kinds of access. -/
def names : List (String × Access) :=
  [("ro", .readOnly), ("rw", .existing), ("rwc", .create), ("memory", .memory)]

/-- The number of a kind of access: an address may choose one with a lower or the same number,
and memory always. -/
def rank : Access → Nat
  | .readOnly => 1
  | .existing => 2
  | .create => 6
  | .memory => 128

/-- May an address choose a kind of access where another was meant? -/
def allows (meant chosen : Access) : Bool :=
  chosen == .memory || chosen.rank ≤ meant.rank

end Access

namespace Location

section Parts

/-- The text that was percent-encoded, if it is one.  It ends at an encoded zero. -/
def unescape : List Char → List UInt8
  | '%' :: a :: b :: more =>
    match Text.hexValue? a, Text.hexValue? b with
    | some high, some low =>
      if high * 16 + low = 0 then [] else UInt8.ofNat (high * 16 + low) :: unescape more
    | _, _ => Text.Utf8.encodeChar '%' ++ unescape (a :: b :: more)
  | c :: more => Text.Utf8.encodeChar c ++ unescape more
  | [] => []

/-- A part of an address as the text it means. -/
def partText? (cs : List Char) : Option String :=
  (Text.Utf8.decode (unescape cs)).toOption.map String.ofList

/-- A text up to the first of a character, and what stands behind that. -/
def cut (mark : Char) (cs : List Char) : List Char × List Char :=
  (cs.takeWhile (· != mark), (cs.dropWhile (· != mark)).tail)

/-- What stands behind the authority of an address, which can be empty or this machine. -/
def behindAuthority (cs : List Char) : Except StoreFault (List Char) :=
  match cs with
  | '/' :: '/' :: more =>
    let authority := more.takeWhile (· != '/')
    if authority = [] ∨ authority = "localhost".toList then .ok (more.dropWhile (· != '/'))
    else .error (.foreignAuthority (String.ofList authority))
  | _ => .ok cs

end Parts

section Parameters

/-- The names of the file systems there are. -/
def systems : List String :=
  ["unix", "unix-none", "unix-dotfile", "unix-excl", "memdb"]

/-- What the parameters of an address have chosen. -/
structure Chosen where
  access : Access
  system : String

/-- Heeds a parameter. -/
def Chosen.heed (c : Chosen) (name value : String) : Except StoreFault Chosen :=
  match name with
  | "vfs" => .ok { c with system := value }
  | "cache" =>
    if value = "shared" ∨ value = "private" then .ok c else .error (.unknownMode "cache" value)
  | "mode" =>
    match Access.names.lookup value with
    | none => .error (.unknownMode "access" value)
    | some a =>
      if c.access.allows a then .ok { c with access := a }
      else .error (.modeNotAllowed "access" value)
  | _ => .ok c

/-- Heeds a parameter as it is written. -/
def heedPart (path : String) (c : Chosen) (part : List Char) : Except StoreFault Chosen :=
  let (name, value) := cut '=' part
  match partText? name, partText? value with
  | some name, some value => c.heed name value
  | _, _ => .error (.cannotOpen path)

end Parameters

section Paths

/-- Paths of databases that have no file. -/
def isUnfiled (path : String) : Bool :=
  path.isEmpty || path == ":memory:"

/-- The location with a path of a file. -/
def ofFile (a : Access) (path : String) : Location :=
  ⟨if isUnfiled path ∨ a = .memory then none else some path, a⟩

/-- Where the database of an address is, given what follows its first part. -/
def ofAddress (a : Access) (path : String) (cs : List Char) : Except StoreFault Location := do
  let (file, parameters) := cut '?' ((← behindAuthority cs).takeWhile (· != '#'))
  let parts := (Text.fields '&' parameters).filter fun part => part.head? ∉ [none, some '=']
  let c ← parts.foldlM (heedPart path) ⟨a, "unix"⟩
  if systems.contains c.system then
    match partText? file with
    | some file => .ok (ofFile (if c.system = "memdb" then .memory else c.access) file)
    | none => .error (.cannotOpen path)
  else .error (.unknownSystem c.system)

/-- Where the database of a path is. -/
def ofPath (a : Access) (path : String) : Except StoreFault Location :=
  match path.toList with
  | 'f' :: 'i' :: 'l' :: 'e' :: ':' :: cs => ofAddress a path cs
  | _ => .ok (ofFile a path)

end Paths

end Location
end Upgrade
end RequestGuard
