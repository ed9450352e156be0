import RequestGuard.Host.Basic
import RequestGuard.Name.Ascii
import RequestGuard.Url.Basic
import RequestGuard.Url.Percent

/-!
# Reading addresses

An address is read in one pass: scheme, authority, path, query, fragment.  Control
characters and spaces around it are dropped, and so are tabs and line ends in it.

* `parse` reads an address that says everything itself.
* `Fault` says why a text is none.
-/

namespace RequestGuard
namespace Url

/-- Why a text is no address. -/
inductive Fault where
  | relative
  | emptyHost
  | invalidPort
  | invalidVersion4
  | invalidVersion6
  | invalidName
  | invalidHostCharacter
  deriving DecidableEq, Repr

/-- What is wrong with an address, in words. -/
def Fault.message : Fault → String
  | .relative => "relative URL without a base"
  | .emptyHost => "empty host"
  | .invalidPort => "invalid port number"
  | .invalidVersion4 => "invalid IPv4 address"
  | .invalidVersion6 => "invalid IPv6 address"
  | .invalidName => "invalid international domain name"
  | .invalidHostCharacter => "invalid domain character"

section Clean

/-- A control character or a space. -/
def isMargin (c : Char) : Bool :=
  c.toNat ≤ 32

/-- A tab or a line end. -/
def isLineSpace (c : Char) : Bool :=
  c == '\t' || c == '\n' || c == '\r'

/-- A text without the margin around it and without tabs and line ends. -/
def clean (cs : List Char) : List Char :=
  (Text.dropTrailing isMargin (cs.dropWhile isMargin)).filter (!isLineSpace ·)

end Clean

section Scheme

/-- A character that a scheme may hold after its first letter. -/
def isSchemeChar (c : Char) : Bool :=
  Text.isLetter c || Text.isDigit c || c == '+' || c == '-' || c == '.'

/-- The scheme in small letters and what stands behind its colon. -/
def scheme? (cs : List Char) : Option (List Char × List Char) :=
  match cs with
  | [] => none
  | c :: _ =>
    if !Text.isLetter c then none
    else
      match cs.dropWhile isSchemeChar with
      | ':' :: rest => some ((cs.takeWhile isSchemeChar).map Text.lowerChar, rest)
      | _ => none

end Scheme

section Version4

/-- The number that digits to a base write, if they are digits to it. -/
def numberTo? (base : Nat) (ds : List Char) : Option Nat :=
  (ds.mapM Text.hexValue?).bind fun vs =>
    if vs.all (· < base) then some (vs.foldl (fun n v => base * n + v) 0) else none

/-- A number of a version 4 address: hexadecimal behind `0x`, octal behind a zero,
decimal otherwise. -/
def part? (cs : List Char) : Option Nat :=
  match cs with
  | [] => none
  | '0' :: 'x' :: ds => numberTo? 16 ds
  | '0' :: 'X' :: ds => numberTo? 16 ds
  | '0' :: d :: ds => numberTo? 8 (d :: ds)
  | ds => numberTo? 10 ds

/-- The last piece between dots, or the one before it if the last is empty. -/
def lastPiece? (pieces : List (List Char)) : Option (List Char) :=
  match pieces.reverse with
  | [] :: piece :: _ => some piece
  | [] :: _ => none
  | piece :: _ => some piece
  | [] => none

/-- Must the name be a version 4 address?  It must when its last piece is a number. -/
def endsInNumber (cs : List Char) : Bool :=
  match lastPiece? (Text.fields '.' cs) with
  | none => false
  | some piece => (!piece.isEmpty && piece.all Text.isDigit) || (part? piece).isSome

/-- The number of a version 4 address of up to four parts; the last part fills the
bytes that the others leave. -/
def version4Of? (cs : List Char) : Option Nat := do
  let pieces := Text.fields '.' cs
  let pieces := if pieces.getLast? = some [] then pieces.dropLast else pieces
  if 4 < pieces.length then none
  let numbers ← pieces.mapM part?
  let last ← numbers.getLast?
  let before := numbers.dropLast
  if before.any (255 < ·) || Nat.pow 256 (4 - before.length) ≤ last then none
  some (before.zipIdx.foldl (fun n (x, i) => n + x * Nat.pow 256 (3 - i)) last)

end Version4

section Host

/-- A version 6 address between brackets. -/
def bracketed (cs : List Char) : Except Fault Host :=
  match cs.getLast?, RequestGuard.Host.version6? cs.dropLast with
  | some ']', some gs => .ok (.version6 gs)
  | _, _ => .error .invalidVersion6

/-- The host of a special address. -/
def Host.parse (cs : List Char) : Except Fault Host :=
  match cs with
  | '[' :: rest => bracketed rest
  | _ =>
    match Text.Utf8.decode (Percent.decode cs) with
    | .error _ => .error .invalidName
    | .ok decoded =>
      match Name.toAscii? decoded with
      | none => .error .invalidName
      | some ascii =>
        if ascii.isEmpty then .error .emptyHost
        else if endsInNumber ascii then
          match version4Of? ascii with
          | some n => .ok (.version4 n)
          | none => .error .invalidVersion4
        else .ok (.name (String.ofList ascii))

/-- A character that no host may hold. -/
def isBadHostChar (c : Char) : Bool :=
  ['\x00', '\t', '\n', '\r', ' ', '#', '/', ':', '<', '>', '?', '@', '[', '\\', ']', '^',
    '|'].contains c

/-- The host of an address that is not special. -/
def Host.parseOpaque (cs : List Char) : Except Fault Host :=
  match cs with
  | '[' :: rest => bracketed rest
  | _ =>
    if cs.any isBadHostChar then .error .invalidHostCharacter
    else .ok (.name (String.ofList (Percent.encode Percent.control cs)))

end Host

section Authority

/-- What ends the authority of an address. -/
def endsAuthority (special : Bool) (c : Char) : Bool :=
  c == '/' || c == '?' || c == '#' || (special && c == '\\')

/-- What stands before and behind the last `@`. -/
def cutLastAt? (cs : List Char) : Option (List Char × List Char) :=
  if cs.contains '@' then
    let host := (cs.reverse.takeWhile (· != '@')).reverse
    some (cs.take (cs.length - host.length - 1), host)
  else none

/-- The user name and the password in front of the last `@`, encoded. -/
def userinfo (cs : List Char) : List Char × List Char :=
  let name := cs.takeWhile (· != ':')
  let password := (cs.dropWhile (· != ':')).drop 1
  (Percent.encode Percent.userinfo name, Percent.encode Percent.userinfo password)

/-- The host in front of the first colon outside of brackets, and the rest. -/
def cutHost : Bool → List Char → List Char × List Char
  | _, [] => ([], [])
  | inside, c :: rest =>
    if c = ':' ∧ !inside then ([], c :: rest)
    else
      let inside := if c = '[' then true else if c = ']' then false else inside
      let (host, rest) := cutHost inside rest
      (c :: host, rest)

/-- The port behind a colon and what stands behind it. -/
def portOf (usual : Option Nat) (cs : List Char) :
    Except Fault (Option Nat × List Char) :=
  let ds := cs.takeWhile Text.isDigit
  let rest := cs.dropWhile Text.isDigit
  let stops : Bool :=
    match rest with
    | [] => true
    | c :: _ => endsAuthority true c
  if !stops || 65535 < Text.decimal ds then .error .invalidPort
  else
    let port := if ds.isEmpty then none else some (Text.decimal ds)
    .ok (if port = usual then none else port, rest)

/-- The parts of an authority. -/
structure Authority where
  /-- The encoded user name. -/
  username : List Char
  /-- The encoded password. -/
  password : List Char
  /-- The host. -/
  host : Option Host
  /-- The port, unless it is the usual one. -/
  port : Option Nat
  /-- What stands behind the authority. -/
  rest : List Char

/-- The host and the port of an authority in front of `tail`. -/
def hostAndPort (scheme : String) (special : Bool) (cs tail : List Char) :
    Except Fault (Option Host × Option Nat × List Char) := do
  let (hostChars, behind) := cutHost false cs
  if special && hostChars.isEmpty then .error .emptyHost
  let host ← if special then Host.parse hostChars else Host.parseOpaque hostChars
  let host := if host = .name "" then none else some host
  match behind with
  | ':' :: digits =>
    if host.isNone then .error .emptyHost
    let (port, rest) ← portOf (usualPort? scheme) (digits ++ tail)
    .ok (host, port, rest)
  | _ => .ok (host, none, tail)

/-- Reads the authority at the front of `cs`. -/
def authority (scheme : String) (cs : List Char) : Except Fault Authority := do
  let special := isSpecial scheme
  let section' := cs.takeWhile (!endsAuthority special ·)
  let tail := cs.dropWhile (!endsAuthority special ·)
  match cutLastAt? section' with
  | none =>
    let (host, port, rest) ← hostAndPort scheme special section' tail
    .ok ⟨[], [], host, port, rest⟩
  | some (info, hostPart) =>
    if info.isEmpty && hostPart.isEmpty && !tail.isEmpty then .error .emptyHost
    let (username, password) := userinfo info
    let (host, port, rest) ← hostAndPort scheme special hostPart tail
    if host.isNone && !(username.isEmpty && password.isEmpty) then .error .emptyHost
    .ok ⟨username, password, host, port, rest⟩

end Authority

section Path

/-- A dot, which may be written as a byte. -/
def isSingleDot (segment : List Char) : Bool :=
  segment == ['.'] || segment.map Text.lowerChar == ['%', '2', 'e']

/-- Two dots, each of which may be written as a byte. -/
def isDoubleDot (segment : List Char) : Bool :=
  let s := segment.map Text.lowerChar
  s == ['.', '.'] || s == ['.', '%', '2', 'e'] || s == ['%', '2', 'e', '.'] ||
    s == ['%', '2', 'e', '%', '2', 'e']

/-- A letter and a colon or a bar. -/
def isDriveLetter (segment : List Char) : Bool :=
  match segment with
  | [a, b] => Text.isLetter a && (b == ':' || b == '|')
  | _ => false

/-- Two dots remove the segment before them unless it is a drive letter, one dot says nothing;
behind either, an empty segment stands at the end of a path. -/
def resolve (isFile : Bool) : List (List Char) → List (List Char) → List (List Char)
  | done, [] => done.reverse
  | done, segment :: rest =>
    let end' : List (List Char) := if rest.isEmpty then [[]] else []
    if isDoubleDot segment then
      let shorter :=
        match done with
        | last :: more => if isDriveLetter last then last :: more else more
        | [] => []
      resolve isFile (end' ++ shorter) rest
    else if isSingleDot segment then resolve isFile (end' ++ done) rest
    else if isFile && done.isEmpty && isDriveLetter segment then
      resolve isFile [segment.take 1 ++ [':']] rest
    else resolve isFile (segment :: done) rest

/-- The path behind its first slash, up to a question mark or a number sign. -/
def segmentsOf (special isFile : Bool) (cs : List Char) : List String :=
  let slashed := if special then cs.map fun c => if c = '\\' then '/' else c else cs
  let pieces := (Text.fields '/' slashed).map (Percent.encode Percent.path)
  (resolve isFile [] pieces).map String.ofList

/-- What ends the path of an address. -/
def endsPath (c : Char) : Bool :=
  c == '?' || c == '#'

/-- The path at the front of a text, which starts behind the authority. -/
def pathOf (special : Bool) (cs : List Char) : Path :=
  let body := cs.takeWhile (!endsPath ·)
  match body with
  | [] => .segments (if special then [""] else [])
  | c :: rest =>
    if c = '/' ∨ (special ∧ c = '\\') then .segments (segmentsOf special false rest)
    else .segments (segmentsOf special false body)

/-- The query and the fragment at the end of an address. -/
def queryAndFragment (special : Bool) (cs : List Char) : Option String × Option String :=
  let rest := cs.dropWhile (!endsPath ·)
  let fragmentOf (cs : List Char) : Option String :=
    match cs with
    | '#' :: f => some (String.ofList (Percent.encode Percent.fragment f))
    | _ => none
  match rest with
  | '?' :: behind =>
    let query := behind.takeWhile (· != '#')
    let inSet := if special then Percent.specialQuery else Percent.query
    (some (String.ofList (Percent.encode inSet query)),
      fragmentOf (behind.dropWhile (· != '#')))
  | _ => (none, fragmentOf rest)

end Path

section File

/-- The host of a `file` address, unless it is this machine or a drive letter. -/
def fileHost (cs : List Char) : Except Fault (Option Host) :=
  if cs.isEmpty || isDriveLetter cs then .ok none
  else
    (Host.parse cs).map fun host => if host = .name "localhost" then none else some host

/-- The path of a `file` address, without empty segments at its start. -/
def filePath (cs : List Char) : List String :=
  let body := cs.takeWhile (!endsPath ·)
  let body :=
    match body with
    | c :: rest => if c = '/' ∨ c = '\\' then rest else body
    | [] => body
  match (segmentsOf true true body).dropWhile (· == "") with
  | [] => [""]
  | list => list

/-- Does a path start with a drive letter? -/
def startsWithDrive (list : List String) : Bool :=
  match list with
  | s :: _ => isDriveLetter s.toList
  | [] => false

/-- Reads a `file` address behind its colon. -/
def parseFile (cs : List Char) : Except Fault Url := do
  let isSlash (c : Char) : Bool := c == '/' || c == '\\'
  let make (host : Option Host) (path : List String) (behind : List Char) : Url :=
    let (query, fragment) := queryAndFragment true behind
    { scheme := "file", username := "", password := "", host := host, port := none
      path := .segments path, query := query, fragment := fragment }
  match cs with
  | a :: b :: rest =>
    if isSlash a && isSlash b then
      let hostChars := rest.takeWhile (!endsAuthority true ·)
      let behind := rest.dropWhile (!endsAuthority true ·)
      if isDriveLetter hostChars then .ok (make none (filePath rest) rest)
      else
        let host ← fileHost hostChars
        let path := filePath behind
        .ok (make (if startsWithDrive path then none else host) path behind)
    else .ok (make none (filePath cs) cs)
  | _ => .ok (make none (filePath cs) cs)

end File

/-- Reads an address. -/
def parse (input : String) : Except Fault Url :=
  match scheme? (clean input.toList) with
  | none => .error .relative
  | some (schemeChars, rest) =>
    let scheme := String.ofList schemeChars
    let special := isSpecial scheme
    let ofAuthority (cs : List Char) : Except Fault Url := do
      let a ← authority scheme cs
      let (query, fragment) := queryAndFragment special a.rest
      .ok
        { scheme := scheme, username := String.ofList a.username
          password := String.ofList a.password, host := some (a.host.getD (.name ""))
          port := a.port
          path := pathOf special a.rest, query := query, fragment := fragment }
    if scheme = "file" then parseFile rest
    else if special then ofAuthority (rest.dropWhile fun c => c == '/' || c == '\\')
    else
      match rest with
      | '/' :: '/' :: cs => ofAuthority cs
      | _ =>
        let (query, fragment) := queryAndFragment false rest
        let path : Path :=
          match rest with
          | '/' :: _ => pathOf false rest
          | _ =>
            .undivided (String.ofList
              (Percent.encode Percent.control (rest.takeWhile (!endsPath ·))))
        .ok
          { scheme := scheme, username := "", password := "", host := none, port := none
            path := path, query := query, fragment := fragment }

/-- The host of an address in normal form; none for a text that is no address or
has no host. -/
def hostOf? (input : String) : Option String :=
  match parse input with
  | .error _ => none
  | .ok u => u.hostText?.map RequestGuard.Host.normalize

end Url
end RequestGuard
