import RequestGuard.Host.Basic
import RequestGuard.Url.Parser

/-!
# Rule keys

Under which keys the rules for a host are looked for, the most particular first: the
host itself, `*.` and each name above it that has a dot, and the host with `*` in place
of its last label.
-/

namespace RequestGuard
namespace Upgrade

open Text

/-- Has a name a dot? -/
def hasDot (cs : List Char) : Bool :=
  cs.contains '.'

/-- A name with `*` in place of what follows its last dot. -/
def wildcardLast? (host : List Char) : Option (List Char) :=
  match (fields '.' host).dropLast with
  | [] => none
  | labels => some (join '.' labels ++ ['.', '*'])

/-- The keys of a host, the most particular first. -/
def keyChars (host : List Char) : List (List Char) :=
  let above := ((Host.chainChars host).drop 1).takeWhile hasDot
  host :: above.map (fun p => '*' :: '.' :: p) ++ (wildcardLast? host).toList

/-- The keys of a host, the most particular first. -/
def keys (host : String) : List String :=
  (keyChars host.toList).map String.ofList

/-- The host of an address with the scheme `http`. -/
def insecureHost? (url : String) : Option String :=
  match Url.parse url with
  | .error _ => none
  | .ok u => if u.scheme == "http" then u.hostText?.map Host.normalize else none

/-- The host itself is asked for first. -/
theorem head?_keyChars (host : List Char) : (keyChars host).head? = some host := by
  rw [keyChars]
  rfl

theorem head?_keys (host : String) : (keys host).head? = some host := by
  rw [keys, List.head?_map, head?_keyChars, Option.map_some, String.ofList_toList]

end Upgrade
end RequestGuard
