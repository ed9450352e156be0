import RequestGuard.Config.Document
import RequestGuard.Upgrade.Template

/-!
# Upgrade rules

What turns an insecure address into a secure one.  Rules come in sets.  A set has
patterns that exclude addresses and rules, which are tried in order: a rule replaces
what its pattern matches by a template, or, as the plain rule, `http:` by `https:`.

`upgraded?` is the first result that is an address with the scheme `https:`.  A pattern
that is none matches nothing; a payload that is none holds no rules.
-/

namespace RequestGuard
namespace Upgrade

open Json Text

/-- A rule. -/
structure Rule where
  /-- The pattern of the part to replace. -/
  source? : Option String
  /-- What takes its place. -/
  template? : Option String
  /-- Other than zero for the plain rule. -/
  plain : Nat
  deriving DecidableEq, Repr

/-- Rules for addresses that are not excluded. -/
structure RuleSet where
  /-- The patterns of the addresses that are excluded. -/
  exclusions : List String
  /-- The rules in order. -/
  rules : List Rule
  deriving DecidableEq, Repr

section Application

/-- A pattern over characters; none if it is not one. -/
def compiled? (source : String) : Option Pattern :=
  Pattern.compile? .chars source

/-- An address without its scheme `http:`. -/
def afterHttp? (url : List Char) : Option (List Char) :=
  if "http:".toList.isPrefixOf url then some (url.drop 5) else none

/-- What a rule makes of an address. -/
def Rule.result? (r : Rule) (url : String) : Option String :=
  if r.plain ≠ 0 then
    (afterHttp? url.toList).map fun rest => String.ofList ("https:".toList ++ rest)
  else do
    let p ← compiled? (← r.source?)
    let m ← p.find? (Utf8.bytes url)
    let cs ← (Utf8.decode (replaceFirst p m (← r.template?))).toOption
    return String.ofList cs

/-- Is an address excluded from a set? -/
def RuleSet.excludes (s : RuleSet) (url : String) : Bool :=
  s.exclusions.any fun e => (compiled? e).any fun p => p.isMatch (Utf8.bytes url)

/-- An address with the scheme `https:`. -/
def isSecure (url : String) : Bool :=
  "https:".toList.isPrefixOf url.toList

/-- The first secure address that sets of rules make of an address. -/
def upgradeBySets? (sets : List RuleSet) (url : String) : Option String :=
  sets.findSome? fun s =>
    if s.excludes url then none
    else s.rules.findSome? fun r => (r.result? url).filter isSecure

end Application

section Payloads

/-- An exclusion in a payload. -/
def exclusionRecord : Record String where
  name := "Exclusion"
  start := ""
  members :=
    [{ Member.given "p" Reader.string fun a _ => a with required := true }]

/-- A rule in a payload. -/
def Rule.record : Record Rule where
  name := "UpgradeRule"
  start := ⟨none, none, 0⟩
  members :=
    [.given "f" (Reader.optional Reader.string) fun a r => { r with source? := a },
      .given "t" (Reader.optional Reader.string) fun a r => { r with template? := a },
      .given "d" (Reader.naturalUpTo redirectLimit "u32") fun a r => { r with plain := a }]

/-- A set of rules in a payload. -/
def RuleSet.record : Record RuleSet where
  name := "RuleSet"
  start := ⟨[], []⟩
  members :=
    [.given "e" (Reader.list exclusionRecord.read) fun a s => { s with exclusions := a },
      .given "r" (Reader.list Rule.record.read) fun a s => { s with rules := a }]

/-- The sets of rules of a payload. -/
def RuleSet.ofPayload? (payload : String) : Option (List RuleSet) :=
  ((Reader.list RuleSet.record.read).ofText (Utf8.bytes payload)).toOption

/-- The secure address that a payload makes of an address. -/
def upgraded? (payload url : String) : Option String :=
  (RuleSet.ofPayload? payload).bind fun sets => upgradeBySets? sets url

end Payloads

end Upgrade
end RequestGuard
