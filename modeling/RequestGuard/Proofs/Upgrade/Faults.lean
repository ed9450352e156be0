import RequestGuard.Proofs.Upgrade.Memory

/-!
# Faults of the store

A store may fail to answer a key or break off at it.

* A call that comes to nothing by such a fault leaves the answers remembered and the
  counts as they were (`Turned.same_of_fault`).
* An upgrader is known by these alone as far as the next call goes (`Same.answer_eq`).
* Only a fault of its own breaks a call off (`Turned.panicked_iff`).

So faults never spoil what an upgrader remembers (`faults_leave_no_trace`).
-/

namespace RequestGuard
namespace Upgrade
namespace Upgrader

variable {σ : Type} {ask : Ask σ} {r r' : Upgrader} {s s' : σ}
variable {call : Call} {reply : Reply} {lookups : List Lookup}

section Views

/-- Two upgraders remember the same answers and have the same counts and limit. -/
structure Same (r r' : Upgrader) : Prop where
  maxRedirects_eq : r.maxRedirects = r'.maxRedirects
  remembered?_eq : ∀ url, r.remembered? url = r'.remembered? url
  counted?_eq : ∀ id, r.counted? id = r'.counted? id

theorem Same.upgrades_eq (h : r.Same r') (request : Nat) :
    r.upgrades request = r'.upgrades request := by
  rw [upgrades, upgrades, h.counted?_eq]

/-- To consult an upgrader changes nothing that can be seen of it. -/
theorem same_consulted (r : Upgrader) (url : String) (request : Nat) :
    (r.consulted url request).Same r :=
  ⟨rfl, fun _ => r.remembered?_consulted _ _ _, fun _ => r.counted?_consulted _ _ _⟩

/-- What is known about an address can be seen. -/
theorem Same.consult_fst_eq (h : r.Same r') (url : String) (request : Nat) :
    (r.consult url request).1 = (r'.consult url request).1 := by
  cases hurl : insecureHost? url with
  | none => rw [consult_of_foreign hurl, consult_of_foreign hurl]
  | some host =>
      rcases Nat.lt_or_ge (r.upgrades request) r.maxRedirects with hbelow | hlimit
      · have hbelow' : r'.upgrades request < r'.maxRedirects := by
          rw [← h.upgrades_eq, ← h.maxRedirects_eq]
          exact hbelow
        rw [consult_of_lt hurl hbelow, consult_of_lt hurl hbelow', h.remembered?_eq]
        rcases r'.remembered? url with _ | _ | target <;> rfl
      · have hlimit' : r'.maxRedirects ≤ r'.upgrades request := by
          rw [← h.upgrades_eq, ← h.maxRedirects_eq]
          exact hlimit
        rw [consult_of_limit hurl hlimit, consult_of_limit hurl hlimit']

/-- What a walk makes a call reply does not depend on the upgrader. -/
theorem ended_fst_eq (r r' : Upgrader) (url : String) (request : Nat) (ending : Ending) :
    (r.ended url request ending).1 = (r'.ended url request ending).1 := by
  cases ending <;> rfl

theorem Same.answer_upgrade_eq
    (h : r.Same r') (ask : Ask σ) (s : σ) (url : String) (request : Nat) :
    (r.answer ask s (.upgrade url request)).1 = (r'.answer ask s (.upgrade url request)).1 ∧
      (r.answer ask s (.upgrade url request)).2.2.2 =
        (r'.answer ask s (.upgrade url request)).2.2.2 := by
  have hfst := h.consult_fst_eq url request
  have hopen := turned_of_consult ask r s url request
  have hopen' := turned_of_consult ask r' s url request
  rcases hconsult : r.consult url request with ⟨known, r₁⟩
  rcases hconsult' : r'.consult url request with ⟨known', r₁'⟩
  rw [hconsult, hconsult'] at hfst
  rw [hconsult] at hopen
  rw [hconsult'] at hopen'
  obtain rfl : known = known' := hfst
  cases known with
  | settled answer? =>
      rw [answer, answer, upgrade, upgrade, hconsult, hconsult']
      exact ⟨rfl, rfl⟩
  | «open» host =>
      obtain ⟨-, hbelow, -, rfl⟩ := hopen
      obtain ⟨-, hbelow', -, rfl⟩ := hopen'
      rw [answer_upgrade_of_open ask r s hbelow hconsult,
        answer_upgrade_of_open ask r' s hbelow' hconsult']
      exact ⟨ended_fst_eq _ _ url request _, rfl⟩

/-- The reply to a call and the store after it do not tell upgraders apart that are the
same to see. -/
theorem Same.answer_eq (h : r.Same r') (ask : Ask σ) (s : σ) (call : Call) :
    (r.answer ask s call).1 = (r'.answer ask s call).1 ∧
      (r.answer ask s call).2.2.2 = (r'.answer ask s call).2.2.2 := by
  cases call with
  | upgrade url request => exact h.answer_upgrade_eq ask s url request
  | fromCache url request =>
      have hfst := h.consult_fst_eq url request
      rcases hconsult : r.consult url request with ⟨known, r₁⟩
      rcases hconsult' : r'.consult url request with ⟨known', r₁'⟩
      rw [hconsult, hconsult'] at hfst
      obtain rfl : known = known' := hfst
      rw [answer, answer, upgradeFromCache, upgradeFromCache, hconsult, hconsult']
      cases known <;> exact ⟨rfl, rfl⟩
  | redirects request =>
      have hcount : (r.redirects.count request).1 = (r'.redirects.count request).1 := by
        rw [count_fst, count_fst, h.upgrades_eq]
      exact ⟨congrArg Reply.count hcount, rfl⟩
  | record request =>
      have hcount : (r.redirects.count request).1 = (r'.redirects.count request).1 := by
        rw [count_fst, count_fst, h.upgrades_eq]
      exact ⟨congrArg (fun n => Reply.count (Redirects.next n)) hcount, rfl⟩
  | forget request => exact ⟨rfl, rfl⟩

/-- Nor does what a call asks for. -/
theorem Same.lookups_eq (h : r.Same r') (ask : Ask σ) (s : σ) (call : Call) :
    r.lookups ask s call = r'.lookups ask s call :=
  congrArg Prod.snd (h.answer_eq (recorded ask) (s, []) call).2

end Views

section Faults

/-- A call breaks off when the store does so at a key that the call asks for. -/
theorem Turned.panicked_iff (h : Turned ask r s call reply r' s' lookups) :
    reply = .panicked ↔ ∃ e ∈ lookups, e.2 = .panicked := by
  cases h with
  | upgraded _ _ _ hwalk | nothing _ _ _ hwalk | failed _ _ _ hwalk =>
      rw [← walk_eq_panicked_iff, hwalk]
      simp
  | panicked _ _ _ hwalk =>
      rw [← walk_eq_panicked_iff, hwalk]
      simp
  | _ => simp

/-- A fault kept a call from an answer: a key failed and no address was found, or the
store broke off. -/
def Fault (reply : Reply) (lookups : List Lookup) : Prop :=
  (reply = .address none ∧ ∃ e ∈ lookups, ∃ f, e.2 = .failed f) ∨
    ∃ e ∈ lookups, e.2 = .panicked

/-- A call that a fault kept from an answer changes nothing that can be seen. -/
theorem Turned.same_of_fault
    (h : Turned ask r s call reply r' s' lookups) (hfault : Fault reply lookups) :
    r'.Same r := by
  have hpanicked := h.panicked_iff
  rcases hfault with ⟨hreply, e, he, f, hf⟩ | hpanic
  · cases h with
    | upgraded => cases hreply
    | nothing _ _ _ hwalk =>
        obtain ⟨payload, hfound⟩ := found_of_walk_eq_nothing hwalk e he
        rw [hf] at hfound
        cases hfound
    | failed => exact same_consulted r _ _
    | panicked => cases hreply
    | _ => cases he
  · obtain rfl := hpanicked.2 hpanic
    cases h with
    | panicked => exact same_consulted r _ _

end Faults

section Results

variable {rules : Rules}

/-- That there is no answer is remembered only where no key has one. -/
theorem under?_eq_none_of_remembered?
    (hask : Follows ask rules) {config : Config} {events : List (Event σ)}
    {url host key : String}
    (hknown : ((empty config).run ask s events).2.1.remembered? url = some none)
    (hurl : insecureHost? url = some host) (hkey : key ∈ keys host) :
    rules.under? url key = none := by
  obtain ⟨host', hurl', hnone⟩ :=
    (found_of_remembered? ask config s events hknown).forall hask
  obtain rfl : host = host' := Option.some.inj (hurl.symm.trans hurl')
  exact hnone key hkey

/-- **Faults leave no trace.**  The store follows rules, but it may fail or break off at
any key that it is asked for.  After any calls a call breaks off only when the store does
so while it is asked; and a call that a fault kept from an answer leaves what is
remembered and counted as it was, so that the next call goes as it would have gone.
That there is no answer is remembered only if the rules have none, and an address only if
the rules of one of the keys make it: an address with a rule that applies is never
remembered as one without. -/
theorem faults_leave_no_trace
    (hask : Follows ask rules) (config : Config) (s : σ) (events : List (Event σ)) :
    let r := ((empty config).run ask s events).2.1
    (∀ (t : σ) (call : Call),
      ((r.answer ask t call).1 = .panicked ↔
        ∃ e ∈ r.lookups ask t call, e.2 = .panicked) ∧
      (Fault (r.answer ask t call).1 (r.lookups ask t call) →
        let r' := (r.answer ask t call).2.2.1
        (∀ url, r'.remembered? url = r.remembered? url) ∧
        (∀ id, r'.counted? id = r.counted? id) ∧
        ∀ (u : σ) (next : Call),
          (r'.answer ask u next).1 = (r.answer ask u next).1 ∧
            r'.lookups ask u next = r.lookups ask u next)) ∧
    (∀ url, r.remembered? url = some none → rules.answer? url = none) ∧
    (∀ url target, r.remembered? url = some (some target) →
      ∃ host, insecureHost? url = some host ∧ ∃ key ∈ keys host, ∃ payload,
        rules key = some payload ∧ upgraded? payload url = some target) ∧
    ∀ url host key payload target,
      insecureHost? url = some host → key ∈ keys host →
      rules key = some payload → upgraded? payload url = some target →
      r.remembered? url ≠ some none := by
  intro r
  refine ⟨fun t call => ⟨(turned_answer ask r t call).panicked_iff, ?_⟩, ?_, ?_, ?_⟩
  · intro hfault r'
    have hsame : r'.Same r := (turned_answer ask r t call).same_of_fault hfault
    exact ⟨hsame.remembered?_eq, hsame.counted?_eq, fun u next =>
      ⟨(hsame.answer_eq ask u next).1, hsame.lookups_eq ask u next⟩⟩
  · intro url hknown
    rw [Rules.answer?]
    cases hurl : insecureHost? url with
    | none => rfl
    | some host =>
        rw [Option.bind_some, List.findSome?_eq_none_iff]
        exact fun key hkey => under?_eq_none_of_remembered? hask hknown hurl hkey
  · intro url target hknown
    obtain ⟨host, hurl, key, hkey, hunder⟩ :=
      (found_of_remembered? ask config s events hknown).mem hask
    obtain ⟨payload, hpayload, htarget⟩ := Option.bind_eq_some_iff.1 hunder
    exact ⟨host, hurl, key, hkey, payload, hpayload, htarget⟩
  · intro url host key payload target hurl hkey hpayload htarget hknown
    have hnone := under?_eq_none_of_remembered? hask hknown hurl hkey
    rw [Rules.under?, hpayload, Option.bind_some, htarget] at hnone
    cases hnone

/-- A store that serves its one rule, fails or breaks off, as its number says.  After a
failure the store breaks off, and the address is still upgraded when the store serves
again. -/
theorem faults_leave_no_trace_one :
    let rules : Rules := fun key =>
      if key = "[::1]" then some "[\x7b\"r\":[\x7b\"d\":1\x7d]\x7d]" else none
    let ask : Ask Nat := fun n key =>
      (match n with
        | 0 => .found (rules key)
        | 1 => .failed (.store .notReadable)
        | _ => .panicked, n)
    let r := ((empty Config.standard).run ask 1 [.call (.upgrade "http://[::1]/" 7)]).2.1
    let r' := (r.answer ask 2 (.upgrade "http://[::1]/" 7)).2.2.1
    Follows ask rules ∧
      (r.answer ask 2 (.upgrade "http://[::1]/" 7)).1 = .panicked ∧
      (r'.answer ask 0 (.upgrade "http://[::1]/" 7)).1 =
        .address (some "https://[::1]/") ∧
      r'.counted? 7 = none ∧
      r.remembered? "http://[::1]/" ≠ some none := by
  intro rules ask r r'
  have hfollows : Follows ask rules := by
    intro n key payload hfound
    match n with
    | 0 => exact (Upgrade.Reply.found.inj hfound).symm
    | 1 => cases hfound
    | n + 2 => cases hfound
  have hurl : insecureHost? "http://[::1]/" = some "[::1]" := by decide +kernel
  have hkeys : keys "[::1]" = ["[::1]"] := by decide +kernel
  have htarget :
      upgraded? "[\x7b\"r\":[\x7b\"d\":1\x7d]\x7d]" "http://[::1]/" =
        some "https://[::1]/" := by
    decide +kernel
  -- The rules are asked for as long as nothing is counted or remembered.
  have hopen (r : Upgrader) (n : Nat) (hsame : r.Same (empty Config.standard)) :
      r.answer ask n (.upgrade "http://[::1]/" 7) =
        (((r.consulted "http://[::1]/" 7).ended "http://[::1]/" 7
            (walk ask "http://[::1]/" (keys "[::1]") false n).1).1,
          (walk ask "http://[::1]/" (keys "[::1]") false n).2.1,
          ((r.consulted "http://[::1]/" 7).ended "http://[::1]/" 7
            (walk ask "http://[::1]/" (keys "[::1]") false n).1).2,
          (walk ask "http://[::1]/" (keys "[::1]") false n).2.2) := by
    have hbelow : r.upgrades 7 < r.maxRedirects := by
      rw [hsame.upgrades_eq, hsame.maxRedirects_eq, upgrades, counted?]
      simp [empty, Redirects.empty, Config.standard]
    refine answer_upgrade_of_open ask r n hbelow ?_
    rw [consult_of_lt hurl hbelow, hsame.remembered?_eq, remembered?]
    simp [empty]
  obtain ⟨hcalls, -, -, happlies⟩ :=
    faults_leave_no_trace hfollows Config.standard 1 [.call (.upgrade "http://[::1]/" 7)]
  have hr : r.Same (empty Config.standard) := by
    show ((empty Config.standard).answer ask 1
      (.upgrade "http://[::1]/" 7)).2.2.1.Same (empty Config.standard)
    rw [hopen _ 1 ⟨rfl, fun _ => rfl, fun _ => rfl⟩, hkeys]
    exact same_consulted _ _ _
  have hpanicked : (r.answer ask 2 (.upgrade "http://[::1]/" 7)).1 = .panicked := by
    rw [hopen r 2 hr, hkeys]
    rfl
  obtain ⟨hbroken, hkept⟩ := hcalls 2 (.upgrade "http://[::1]/" 7)
  obtain ⟨-, hcounted, hnext⟩ := hkept (Or.inr (hbroken.1 hpanicked))
  refine ⟨hfollows, hpanicked, ?_, ?_, ?_⟩
  · rw [(hnext 0 _).1, hopen r 0 hr, hkeys]
    simp [walk, ask, rules, htarget, ended]
  · rw [hcounted, hr.counted?_eq]
    exact Recency.Cache.peek?_empty _ _
  · exact happlies _ _ "[::1]" _ _ hurl (by simp [hkeys]) (if_pos rfl) htarget

end Results

end Upgrader
end Upgrade
end RequestGuard
