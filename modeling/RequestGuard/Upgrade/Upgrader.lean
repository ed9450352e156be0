import RequestGuard.Log
import RequestGuard.Upgrade.Keys
import RequestGuard.Upgrade.Redirects
import RequestGuard.Upgrade.RuleSet

/-!
# The upgrader

Answers the secure address for an insecure one.  A request that has had too many
upgrades gets none; then the answers remembered are looked through, and then the rules.

* `walk` asks a store for the rules of each key until one yields an address.  A key
  whose rules cannot be had does not stop the walk, but a walk without an address then
  counts as failed.
* An answer, also that there is none, is remembered unless the walk failed or broke off.
* The store is any value that can be asked and changes when it is.
-/

namespace RequestGuard
namespace Upgrade

/-- What a store answers about a key. -/
inductive Reply where
  /-- The payload of the key, if there is one. -/
  | found (payload : Option String)
  /-- The payload could not be had. -/
  | failed (failure : Failure)
  /-- The store breaks off. -/
  | panicked

/-- How a walk over the keys of a host ends. -/
inductive Ending where
  /-- With an address. -/
  | upgrade (url : String)
  /-- Without one; every key was answered. -/
  | nothing
  /-- Without one; a key was not answered. -/
  | failed
  /-- The store broke off. -/
  | panicked
  deriving DecidableEq, Repr

/-- A store that answers about keys and changes when asked. -/
abbrev Ask (σ : Type) : Type := σ → String → Reply × σ

section Walk

variable {σ : Type}

/-- The line that tells of a key whose rules could not be had. -/
def lookupFailed (key : String) (f : Failure) : LogLine :=
  ⟨.error, s!"HTTPS rule lookup for '{key}' failed: {f.message}"⟩

/-- Asks for the rules of keys in turn until they yield an address.  `failed` says whether
a key before was not answered. -/
def walk (ask : Ask σ) (url : String) : List String → Bool → σ → Ending × List LogLine × σ
  | [], failed, s => (if failed then .failed else .nothing, [], s)
  | key :: more, failed, s =>
    match ask s key with
    | (.panicked, s) => (.panicked, [], s)
    | (.failed f, s) =>
      let (ending, log, s) := walk ask url more true s
      (ending, lookupFailed key f :: log, s)
    | (.found payload, s) =>
      match payload.bind fun p => upgraded? p url with
      | some v => (.upgrade v, [], s)
      | none => walk ask url more failed s

end Walk

/-- The answers remembered, the counts of upgrades and the limit on them. -/
structure Upgrader where
  /-- The answers for addresses asked about last. -/
  cache : Recency.Cache String (Option String)
  /-- The upgrades of each request. -/
  redirects : Redirects
  /-- How many upgrades a request may have. -/
  maxRedirects : Nat

namespace Upgrader

variable {σ : Type}

/-- An upgrader that remembers nothing yet. -/
def empty (c : Config) : Upgrader :=
  ⟨.empty c.upgradeCapacity, .empty c.redirectCapacity, c.maxRedirects⟩

/-- Counts an upgrade; answers the address while the request is below the limit. -/
def counted (r : Upgrader) (request : Nat) (target : String) : Option String × Upgrader :=
  let (below, redirects) := r.redirects.recordIfBelow request r.maxRedirects
  (if below then some target else none, { r with redirects })

/-- What is known about an address before any rule is asked for. -/
inductive Known where
  /-- Nothing more is to be asked; this is the answer. -/
  | settled (answer : Option String)
  /-- The rules of a host are to be asked for. -/
  | open (host : String)

/-- Looks at the address, the count of the request and the answers remembered. -/
def consult (r : Upgrader) (url : String) (request : Nat) : Known × Upgrader :=
  match insecureHost? url with
  | none => (.settled none, r)
  | some host =>
    let (n, redirects) := r.redirects.count request
    let r := { r with redirects }
    if r.maxRedirects ≤ n then (.settled none, r)
    else
      let (remembered, cache) := r.cache.find url
      let r := { r with cache }
      match remembered with
      | some (some target) =>
        let (answer, r) := r.counted request target
        (.settled answer, r)
      | some none => (.settled none, r)
      | none => (.open host, r)

/-- The answer for an address; nothing if the store broke off. -/
def upgrade (r : Upgrader) (ask : Ask σ) (url : String) (request : Nat) (s : σ) :
    Option (Option String) × List LogLine × Upgrader × σ :=
  match r.consult url request with
  | (.settled answer, r) => (some answer, [], r, s)
  | (.open host, r) =>
    let (ending, log, s) := walk ask url (keys host) false s
    match ending with
    | .panicked => (none, log, r, s)
    | .failed => (some none, log, r, s)
    | .nothing => (some none, log, { r with cache := r.cache.insert url none }, s)
    | .upgrade target =>
      let (answer, r) :=
        { r with cache := r.cache.insert url (some target) : Upgrader }.counted request target
      (some answer, log, r, s)

/-- The answer for an address from the answers remembered alone. -/
def upgradeFromCache (r : Upgrader) (url : String) (request : Nat) : Option String × Upgrader :=
  match r.consult url request with
  | (.settled answer, r) => (answer, r)
  | (.open _, r) => (none, r)

end Upgrader
end Upgrade
end RequestGuard
