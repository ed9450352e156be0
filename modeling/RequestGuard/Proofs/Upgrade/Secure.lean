import RequestGuard.Proofs.Upgrade.Transparency
import RequestGuard.Proofs.Url.Scheme

/-!
# Upgrades are secure and stay as they are

Whatever the store holds, an upgrader answers only addresses with the scheme `https`, and
such an address is none that it upgrades.

* `insecureHost?_of_isSecure`: a secure address has no host whose rules are asked for.
* `isSecure_of_walk`: a walk ends only with secure addresses, so only these are remembered
  (`OnlySecure`).
* `upgrades_stay`: an answer that is asked about in turn comes to nothing and leaves no trace.
-/

namespace RequestGuard
namespace Upgrade

open Text

section Addresses

theorem isSecure_iff {url : String} :
    isSecure url = true ↔ "https:".toList <+: url.toList :=
  List.isPrefixOf_iff_prefix

/-- A text that starts like a secure address is a secure address or none. -/
theorem scheme_of_isSecure {url : String} (h : isSecure url = true) {u : Url}
    (hread : Url.parse url = .ok u) : u.scheme = "https" := by
  obtain ⟨rest, hrest⟩ := isSecure_iff.1 h
  obtain ⟨cs, behind, hscheme, hu⟩ := Url.scheme_of_parse hread
  have hhttps : Url.usualPort? "https" = some 443 := rfl
  rw [← hrest] at hscheme
  cases hscheme.symm.trans (Url.scheme?_clean hhttps rest)
  exact hu

/-- No rules are asked for where the address is secure already. -/
theorem insecureHost?_of_isSecure {url : String} (h : isSecure url = true) :
    insecureHost? url = none := by
  rw [insecureHost?]
  split
  · rfl
  · next u hread =>
      rw [scheme_of_isSecure h hread]
      exact if_neg (by decide)

end Addresses

section Walk

variable {σ : Type} {ask : Ask σ} {url target : String}

/-- Whatever a payload holds, what it makes of an address is secure. -/
theorem isSecure_of_upgraded? {payload : String} (h : upgraded? payload url = some target) :
    isSecure target = true := by
  obtain ⟨sets, -, hsets⟩ := Option.bind_eq_some_iff.1 h
  obtain ⟨s, -, hs⟩ := List.exists_of_findSome?_eq_some hsets
  split at hs
  · cases hs
  · obtain ⟨r, -, hr⟩ := List.exists_of_findSome?_eq_some hs
    exact (Option.filter_eq_some_iff.1 hr).2

/-- So is whatever a walk ends with. -/
theorem isSecure_of_walk {ks : List String} {s : σ}
    (hwalk : (walk ask url ks false s).1 = .upgrade target) : isSecure target = true := by
  obtain ⟨-, -, -, payload, -, htarget⟩ := exists_of_walk_eq_upgrade hwalk
  exact isSecure_of_upgraded? htarget

end Walk

namespace Upgrader

variable {σ : Type} {ask : Ask σ} {r r' : Upgrader} {s s' : σ}
variable {call : Call} {reply : Reply} {lookups : List Lookup} {target : String}

section Answers

/-- Every address that is remembered as an answer is secure. -/
def OnlySecure (r : Upgrader) : Prop :=
  ∀ url target, r.remembered? url = some (some target) → isSecure target = true

theorem isSecure_of_found {url : String} (h : Found ask url (some target)) :
    isSecure target = true := by
  obtain ⟨host, s, -, hwalk⟩ := h
  exact isSecure_of_walk hwalk

theorem onlySecure_empty (config : Config) : (empty config).OnlySecure := by
  intro url target h
  have hnone : (empty config).remembered? url = none :=
    Recency.Cache.peek?_empty config.upgradeCapacity url
  rw [hnone] at h
  cases h

/-- A call remembers only secure addresses. -/
theorem Turned.onlySecure (h : Turned ask r s call reply r' s' lookups) (hr : r.OnlySecure) :
    r'.OnlySecure := by
  intro url target hknown
  rcases h.found hknown with hbefore | hfound
  · exact hr url target hbefore
  · exact isSecure_of_found hfound

/-- A call answers only secure addresses, be they remembered or found by a walk. -/
theorem Turned.isSecure_of_address
    (h : Turned ask r s call (.address (some target)) r' s' lookups) (hr : r.OnlySecure) :
    isSecure target = true := by
  cases h with
  | repeated _ _ _ hknown => exact hr _ _ hknown
  | upgraded _ _ _ hwalk => exact isSecure_of_walk hwalk

/-- A run answers only secure addresses. -/
theorem isSecure_of_mem_run (hr : r.OnlySecure) {events : List (Event σ)}
    (hmem : .address (some target) ∈ (r.run ask s events).1) : isSecure target = true := by
  induction events generalizing r s with
  | nil => cases hmem
  | cons event more ih =>
      cases event with
      | change f => exact ih hr hmem
      | call call =>
          have hturned := turned_answer ask r s call
          rcases List.mem_cons.1 hmem with hfirst | hmore
          · have hreply : (r.answer ask s call).1 = .address (some target) := hfirst.symm
            rw [hreply] at hturned
            exact hturned.isSecure_of_address hr
          · exact ih (hturned.onlySecure hr) hmore

end Answers

section Results

/-- A question about a secure address is answered at once, and nothing comes of it. -/
theorem answer_of_isSecure {url : String} (h : isSecure url = true) {request : Nat}
    (hcall : call.LooksUp url request) (ask : Ask σ) (r : Upgrader) (s : σ) :
    r.answer ask s call = (.address none, [], r, s) := by
  have hconsult : r.consult url request = (.settled none, r) :=
    consult_of_foreign (insecureHost?_of_isSecure h)
  rcases hcall with rfl | rfl
  · rw [answer, upgrade, hconsult]
    rfl
  · rw [answer, upgradeFromCache, hconsult]

/-- **Upgrades do not lead on.**  Whatever rules the store has, however they change and
whichever keys fail, every address that a run answers starts with `https:`.  To ask about
that address in turn, for any request, in any state of an upgrader and with any store,
comes to nothing: no key is asked for, nothing is logged, and what is remembered and counted
stays as it is, the order of use included. -/
theorem upgrades_stay (ask : Ask σ) (config : Config) (s : σ) (events : List (Event σ))
    {target : String}
    (hanswer : .address (some target) ∈ ((empty config).run ask s events).1) :
    "https:".toList <+: target.toList ∧
      ∀ (τ : Type) (ask' : Ask τ) (later : Upgrader) (t : τ) (call : Call) (request : Nat),
        call.LooksUp target request →
          later.answer ask' t call = (.address none, [], later, t) ∧
            later.lookups ask' t call = [] := by
  have hsecure := isSecure_of_mem_run (onlySecure_empty config) hanswer
  refine ⟨isSecure_iff.1 hsecure, ?_⟩
  intro τ ask' later t call request hcall
  refine ⟨answer_of_isSecure hsecure hcall ask' later t, ?_⟩
  rw [lookups, answer_of_isSecure hsecure hcall]

/-- The store serves its one rule once and then fails.  The address that the rule gives is
asked about in turn, and nothing comes of it. -/
theorem upgrades_stay_one :
    let rules : Rules := fun key =>
      if key = "[::1]" then some "[\x7b\"r\":[\x7b\"d\":1\x7d]\x7d]" else none
    let ask : Ask Nat := fun n key =>
      (if n = 0 then .found (rules key) else .failed (.store .notReadable), n)
    let events : List (Event Nat) := [.call (.upgrade "http://[::1]/" 1), .change (· + 1)]
    let r := ((empty Config.standard).run ask 0 events).2.1
    .address (some "https://[::1]/") ∈ ((empty Config.standard).run ask 0 events).1 ∧
      r.answer ask 1 (.upgrade "https://[::1]/" 1) = (.address none, [], r, 1) ∧
      r.lookups ask 1 (.fromCache "https://[::1]/" 2) = [] := by
  intro rules ask events r
  have hanswer : rules.answer? "http://[::1]/" = some "https://[::1]/" := by decide +kernel
  have hserves : ServesWithin (· = 0) ask rules := by
    rintro n rfl key
    exact ⟨rfl, rfl⟩
  have hfirst := upgrade_empty hserves (s := 0) rfl (c := Config.standard) (by decide)
    "http://[::1]/" 1
  rw [hanswer] at hfirst
  have hreply : ((empty Config.standard).answer ask 0 (.upgrade "http://[::1]/" 1)).1 =
      .address (some "https://[::1]/") := by
    show (Option.map Reply.address
      ((empty Config.standard).upgrade ask "http://[::1]/" 1 0).1).getD .panicked = _
    rw [hfirst]
    rfl
  have hmem : Reply.address (some "https://[::1]/") ∈
      ((empty Config.standard).run ask 0 events).1 :=
    List.mem_cons.2 (Or.inl hreply.symm)
  obtain ⟨-, hstay⟩ := upgrades_stay ask Config.standard 0 events hmem
  exact ⟨hmem, (hstay Nat ask r 1 (.upgrade "https://[::1]/" 1) 1 (Or.inl rfl)).1,
    (hstay Nat ask r 1 (.fromCache "https://[::1]/" 2) 2 (Or.inr rfl)).2⟩

end Results

end Upgrader
end Upgrade
end RequestGuard
