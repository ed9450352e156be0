import RequestGuard.Proofs.Upgrade.Memory
import RequestGuard.Proofs.Url.HostText

/-!
# Answers after faults of the store

The store follows rules, but it may fail or break off at any key.  A walk goes on past a key
that was not answered, so that it can end with an address from a later key than the rules
would have it from (`PassedOver`); such an address is remembered like any other.

* `answer?_or_passedOver`: nothing else can make the address that a walk ends with differ
  from that of the rules.
* `answer_after_faults`: after any faults a call whose keys are all answered replies what the
  rules say, unless such an address is remembered.
-/

namespace RequestGuard
namespace Upgrade

variable {σ : Type} {ask : Ask σ} {rules : Rules}

section Walks

variable {url host target : String} {s : σ}

/-- The rules have an address under a key that was not answered, and another under the key
that a walk went on to. -/
inductive PassedOver (rules : Rules) (url target : String) (lookups : List Lookup) : Prop
  | intro {before : List Lookup} {missed last : Lookup} {best : String}
      (hlookups : lookups = before ++ [last])
      (hmissed : missed ∈ before)
      (hfailed : ∃ f, missed.2 = .failed f)
      (hbest : rules.under? url missed.1 = some best)
      (hanswer : rules.answer? url = some best)
      (hlast : rules.under? url last.1 = some target)

/-- A walk ends with the address of the rules, unless it went past the key of that. -/
theorem answer?_or_passedOver
    (hask : Follows ask rules) (hurl : insecureHost? url = some host)
    (hwalk : (walk ask url (keys host) false s).1 = .upgrade target) :
    rules.answer? url = some target ∨
      PassedOver rules url target (walkLookups ask url (keys host) s) := by
  have hwalked := walked_walk ask url (keys host) s
  rw [hwalk] at hwalked
  cases hwalked with
  | @upgrade before after key payload _ hreplies hlookups hbefore hv =>
      have hmem {e : Lookup} (he : e ∈ before ++ (key, .found (some payload)) :: after) :
          e ∈ heard ask (keys host) s := by
        rw [hreplies]
        exact he
      have hlast : rules.under? url key = some target := by
        obtain ⟨-, t, hreply⟩ := exists_of_mem_heard (hmem List.mem_append_cons_self)
        rw [Rules.under?, ← hask t key _ hreply]
        exact hv
      have hanswer : rules.answer? url =
          ((before.map Prod.fst).findSome? (rules.under? url)).or (some target) := by
        rw [Rules.answer?, hurl, Option.bind_some, ← map_fst_heard ask (keys host) s, hreplies,
          List.map_append, List.findSome?_append, List.map_cons, List.findSome?_cons, hlast]
      cases hfirst : (before.map Prod.fst).findSome? (rules.under? url) with
      | none =>
          rw [hfirst] at hanswer
          exact Or.inl hanswer
      | some best =>
          rw [hfirst] at hanswer
          obtain ⟨k, hk, hbest⟩ := List.exists_of_findSome?_eq_some hfirst
          obtain ⟨missed, hmissed, rfl⟩ := List.mem_map.1 hk
          refine Or.inr (.intro hlookups hmissed ?_ hbest hanswer hlast)
          -- A key that was answered and passed has no address.
          cases hreply : missed.2 with
          | failed f => exact ⟨f, rfl⟩
          | panicked => exact absurd hreply (Reply.ne_panicked_of_passes (hbefore missed hmissed))
          | found found? =>
              have hnone := hask.under?_eq_none (hmem (List.mem_append_left _ hmissed))
                ⟨found?, hreply⟩ (hbefore missed hmissed)
              rw [hbest] at hnone
              cases hnone

/-- A walk whose keys were all answered has gone past none. -/
theorem PassedOver.exists_failed {lookups : List Lookup}
    (h : PassedOver rules url target lookups) : ∃ e ∈ lookups, ∃ f, e.2 = .failed f := by
  obtain ⟨rfl, hmissed, hfailed, -⟩ := h
  exact ⟨_, List.mem_append_left _ hmissed, hfailed⟩

end Walks

namespace Upgrader

variable {r r' : Upgrader} {s s' : σ}
variable {call : Call} {reply : Reply} {lookups : List Lookup}

section Answers

variable {url : String} {known : Option String}

/-- An answer that a walk found is that of the rules, unless the walk went past the key of
that. -/
theorem FoundIn.answer?_or_passedOver
    (hask : Follows ask rules) (h : FoundIn ask url s known lookups) :
    known = rules.answer? url ∨
      ∃ target, known = some target ∧ PassedOver rules url target lookups := by
  obtain ⟨hurl, hwalk, rfl⟩ := h
  cases known with
  | none =>
      left
      rw [Rules.answer?, hurl, Option.bind_some, eq_comm, List.findSome?_eq_none_iff]
      exact forall_of_walk_eq_nothing hask hwalk
  | some target =>
      rcases Upgrade.answer?_or_passedOver hask hurl hwalk with hanswer | hpassed
      · exact Or.inl hanswer.symm
      · exact Or.inr ⟨target, rfl, hpassed⟩

/-- What is remembered after any calls, whatever faults there were, is the answer of the
rules; or it is the address that a call has replied which went past the key of that. -/
theorem answer?_or_passedOver_of_remembered?
    (hask : Follows ask rules) {config : Config} {events : List (Event σ)}
    (hknown : ((empty config).run ask s events).2.1.remembered? url = some known) :
    known = rules.answer? url ∨
      ∃ before request after, events = before ++ .call (.upgrade url request) :: after ∧
        let r := ((empty config).run ask s before).2.1
        let t := ((empty config).run ask s before).2.2
        ∃ target, known = some target ∧
          (r.answer ask t (.upgrade url request)).1 = .address (some target) ∧
          PassedOver rules url target (r.lookups ask t (.upgrade url request)) := by
  rcases exists_call_of_remembered? hknown with hempty | ⟨before, request, after, heq, hcall⟩
  · have hnone : (empty config).remembered? url = none :=
      Recency.Cache.peek?_empty config.upgradeCapacity url
    rw [hnone] at hempty
    cases hempty
  · obtain ⟨hreply, hfound⟩ := hcall
    rcases hfound.answer?_or_passedOver hask with hanswer | ⟨target, rfl, hpassed⟩
    · exact Or.inl hanswer
    · exact Or.inr ⟨before, request, after, heq, target, rfl, hreply, hpassed⟩

/-- A call that asks for what is not remembered, and whose keys are all answered, replies the
answer of the rules. -/
theorem ending_eq_of_found {host : String} {ending : Ending}
    (hask : Follows ask rules) (hurl : insecureHost? url = some host)
    (hfound : ∀ e ∈ walkLookups ask url (keys host) s, ∃ payload, e.2 = .found payload)
    (hwalk : (walk ask url (keys host) false s).1 = ending) :
    ending = endingOf (rules.answer? url) := by
  have hnot {e : Lookup} (he : e ∈ walkLookups ask url (keys host) s)
      (hne : ∀ payload, e.2 ≠ .found payload) : False :=
    (hfound e he).elim hne
  cases ending with
  | upgrade target =>
      rcases Upgrade.answer?_or_passedOver hask hurl hwalk with hanswer | hpassed
      · rw [hanswer, endingOf]
      · obtain ⟨e, he, f, hf⟩ := hpassed.exists_failed
        exact (hnot he (by simp [hf])).elim
  | nothing =>
      have hnone : (keys host).findSome? (rules.under? url) = none :=
        List.findSome?_eq_none_iff.2 (forall_of_walk_eq_nothing hask hwalk)
      rw [Rules.answer?, hurl, Option.bind_some, hnone, endingOf]
  | failed =>
      obtain ⟨e, he, f, hf⟩ := exists_failed_of_walk_eq_failed hwalk
      exact (hnot he (by simp [hf])).elim
  | panicked =>
      obtain ⟨e, he, hpanicked⟩ := walk_eq_panicked_iff.1 hwalk
      exact (hnot he (by simp [hpanicked])).elim

/-- Below the limit a call whose keys are all answered replies what is remembered, or else
what the rules say. -/
theorem Turned.reply_eq
    {request : Nat} (h : Turned ask r s (.upgrade url request) reply r' s' lookups)
    (hask : Follows ask rules) (hbelow : r.upgrades request < r.maxRedirects)
    (hforeign : insecureHost? url = none → r.remembered? url = none)
    (hfound : ∀ e ∈ lookups, ∃ payload, e.2 = .found payload) :
    reply = .address ((r.remembered? url).getD (rules.answer? url)) := by
  cases h with
  | foreign hcall hurl =>
      obtain ⟨rfl, -⟩ := looksUp_upgrade.1 hcall
      rw [hforeign hurl, Rules.answer?, hurl]
      rfl
  | refused hcall _ hlimit =>
      obtain ⟨-, rfl⟩ := looksUp_upgrade.1 hcall
      exact absurd hbelow (Nat.not_lt_of_le hlimit)
  | repeated hcall _ _ hknown | repeatedNone hcall _ _ hknown =>
      obtain ⟨rfl, -⟩ := looksUp_upgrade.1 hcall
      rw [hknown, Option.getD_some]
  | upgraded hurl _ hknown hwalk | nothing hurl _ hknown hwalk =>
      have hending := ending_eq_of_found hask hurl hfound hwalk
      rw [hknown, Option.getD_none]
      cases hanswer : rules.answer? url <;> rw [hanswer] at hending <;> cases hending <;> rfl
  | failed hurl _ _ hwalk | panicked hurl _ _ hwalk =>
      have hending := ending_eq_of_found hask hurl hfound hwalk
      cases hanswer : rules.answer? url <;> rw [hanswer] at hending <;> cases hending

end Answers

section Faults

/-- A store that serves rules but fails to answer the next keys, as many as its number says. -/
def faulty (rules : Rules) : Ask Nat := fun n key =>
  (if n = 0 then .found (rules key) else .failed (.store .notReadable), n - 1)

theorem follows_faulty (rules : Rules) : Follows (faulty rules) rules := by
  intro n key payload hfound
  dsimp only [faulty] at hfound
  split at hfound
  · exact (Upgrade.Reply.found.inj hfound).symm
  · cases hfound

end Faults

section Beside

/-- A host with the plain rule, and a rule for all names beside it that leads elsewhere. -/
def besideRules : Rules := fun key =>
  if key = "www.a.com" then some "[\x7b\"r\":[\x7b\"d\":1\x7d]\x7d]"
  else if key = "*.a.com" then
    some "[\x7b\"r\":[\x7b\"f\":\"http://www\",\"t\":\"https://ssl\"\x7d]\x7d]"
  else none

theorem insecureHost?_beside : insecureHost? "http://www.a.com/" = some "www.a.com" := by
  have hdirect : Url.IsDirect "www.a.com".toList := by decide +kernel
  have hnormal : Host.normalize "www.a.com" = "www.a.com" := by decide +kernel
  have hhost := Url.insecureHost?_of_direct hdirect (by decide +kernel)
  rwa [hnormal] at hhost

theorem keys_beside : keys "www.a.com" = ["www.a.com", "*.a.com", "www.a.*"] := by
  decide +kernel

theorem under?_beside :
    besideRules.under? "http://www.a.com/" "www.a.com" = some "https://www.a.com/" ∧
      besideRules.under? "http://www.a.com/" "*.a.com" = some "https://ssl.a.com/" ∧
      besideRules.under? "http://www.a.com/" "www.a.*" = none := by
  have hplain :
      upgraded? "[\x7b\"r\":[\x7b\"d\":1\x7d]\x7d]" "http://www.a.com/" =
        some "https://www.a.com/" := by
    decide +kernel
  have hbeside :
      upgraded? "[\x7b\"r\":[\x7b\"f\":\"http://www\",\"t\":\"https://ssl\"\x7d]\x7d]"
        "http://www.a.com/" = some "https://ssl.a.com/" := by
    decide +kernel
  simp [Rules.under?, besideRules, hplain, hbeside]

theorem answer?_beside :
    besideRules.answer? "http://www.a.com/" = some "https://www.a.com/" := by
  rw [Rules.answer?, insecureHost?_beside, Option.bind_some, keys_beside, List.findSome?_cons,
    under?_beside.1]

theorem walk_beside :
    (walk (faulty besideRules) "http://www.a.com/" (keys "www.a.com") false 1).1 =
        .upgrade "https://ssl.a.com/" ∧
      (walk (faulty besideRules) "http://www.a.com/" (keys "www.a.com") false 3).1 = .failed ∧
      walkLookups (faulty besideRules) "http://www.a.com/" (keys "www.a.com") 0 =
        [("www.a.com", .found (besideRules "www.a.com"))] := by
  obtain ⟨hplain, hbeside, -⟩ := under?_beside
  rw [Rules.under?] at hplain hbeside
  rw [keys_beside]
  simp [walk, walkLookups, recorded, faulty, hplain, hbeside]

theorem run_change_call (ask : Ask σ) (s : σ) (f : σ → σ) (call : Call) :
    (r.run ask s [.change f, .call call]).2.1 = (r.answer ask (f s) call).2.2.1 := rfl

/-- A first call for the address walks over the keys. -/
theorem run_beside
    (hbelow : r.upgrades 1 < r.maxRedirects) (hknown : r.remembered? "http://www.a.com/" = none)
    (n : Nat) :
    (r.run (faulty besideRules) 0
        [.change fun _ => n, .call (.upgrade "http://www.a.com/" 1)]).2.1 =
      ((r.consulted "http://www.a.com/" 1).ended "http://www.a.com/" 1
        (walk (faulty besideRules) "http://www.a.com/" (keys "www.a.com") false n).1).2 := by
  have hopen : r.consult "http://www.a.com/" 1 =
      (.open "www.a.com", r.consulted "http://www.a.com/" 1) := by
    rw [consult_of_lt insecureHost?_beside hbelow, hknown]
  rw [run_change_call, answer_upgrade_of_open _ _ _ hbelow hopen]

theorem empty_beside :
    (empty Config.standard).upgrades 1 < (empty Config.standard).maxRedirects ∧
      (empty Config.standard).remembered? "http://www.a.com/" = none := by
  simp [upgrades, counted?, remembered?, empty, Redirects.empty, Config.standard]

/-- After one fault the address that the second key has is remembered. -/
theorem run_one_fault
    (hbelow : r.upgrades 1 < r.maxRedirects) (hknown : r.remembered? "http://www.a.com/" = none) :
    (r.run (faulty besideRules) 0
        [.change fun _ => 1, .call (.upgrade "http://www.a.com/" 1)]).2.1 =
      ((r.consulted "http://www.a.com/" 1).learned "http://www.a.com/"
        (some "https://ssl.a.com/")).raised 1 := by
  rw [run_beside hbelow hknown, walk_beside.1, ended]

/-- After three faults nothing is remembered. -/
theorem run_three_faults
    (hbelow : r.upgrades 1 < r.maxRedirects) (hknown : r.remembered? "http://www.a.com/" = none) :
    (r.run (faulty besideRules) 0
        [.change fun _ => 3, .call (.upgrade "http://www.a.com/" 1)]).2.1 =
      r.consulted "http://www.a.com/" 1 := by
  rw [run_beside hbelow hknown, walk_beside.2.1, ended]

end Beside

section Results

/-- **Answers after faults.**  The store follows rules, but it may fail or break off at any
key that it is asked for.  After any calls, a call below the limit whose keys are all answered
replies what is remembered for the address, or else the answer of the rules.  What is
remembered is the answer of the rules as well; or it is an address that an earlier call for the
same address has replied, which found it under a later key, since the key under which the rules
have their answer was not answered. -/
theorem answer_after_faults
    (hask : Follows ask rules) (config : Config) (s : σ) (events : List (Event σ)) (t : σ)
    {url : String} {request : Nat}
    (hbelow : ((empty config).run ask s events).2.1.upgrades request < config.maxRedirects)
    (hfound : ∀ e ∈ ((empty config).run ask s events).2.1.lookups ask t (.upgrade url request),
      ∃ payload, e.2 = .found payload) :
    let r := ((empty config).run ask s events).2.1
    (r.answer ask t (.upgrade url request)).1 =
        .address ((r.remembered? url).getD (rules.answer? url)) ∧
      ∀ known, r.remembered? url = some known → known = rules.answer? url ∨
        ∃ before request after, events = before ++ .call (.upgrade url request) :: after ∧
          let r := ((empty config).run ask s before).2.1
          let t := ((empty config).run ask s before).2.2
          ∃ target, known = some target ∧
            (r.answer ask t (.upgrade url request)).1 = .address (some target) ∧
            PassedOver rules url target (r.lookups ask t (.upgrade url request)) := by
  intro r
  refine ⟨?_, fun known hknown => answer?_or_passedOver_of_remembered? hask hknown⟩
  have hlimit : r.upgrades request < r.maxRedirects := by
    rw [maxRedirects_run]
    exact hbelow
  refine (turned_answer ask r t (.upgrade url request)).reply_eq hask hlimit ?_ hfound
  intro hforeign
  cases hknown : r.remembered? url with
  | none => rfl
  | some known =>
      obtain ⟨host, -, hurl, -⟩ := found_of_remembered? ask config s events hknown
      rw [hforeign] at hurl
      cases hurl

theorem answer_after_three_faults :
    let ask := faulty besideRules
    let events : List (Event Nat) :=
      [.change fun _ => 3, .call (.upgrade "http://www.a.com/" 1)]
    let r := ((empty Config.standard).run ask 0 events).2.1
    Follows ask besideRules ∧ r.upgrades 1 < Config.standard.maxRedirects ∧
      (∀ e ∈ r.lookups ask 0 (.upgrade "http://www.a.com/" 1), ∃ payload, e.2 = .found payload) ∧
      (r.answer ask 0 (.upgrade "http://www.a.com/" 1)).1 =
        .address (some "https://www.a.com/") := by
  intro ask events r
  have hask : Follows ask besideRules := follows_faulty besideRules
  obtain ⟨hlimit, hnone⟩ := empty_beside
  have hrun : ((empty Config.standard).run ask 0 events).2.1 = r := rfl
  have hr : r = (empty Config.standard).consulted "http://www.a.com/" 1 :=
    run_three_faults hlimit hnone
  -- From here on the run is known by what it leaves; it is not to be evaluated.
  clear_value r
  have hmax : r.maxRedirects = Config.standard.maxRedirects := by
    rw [← hrun, maxRedirects_run]
  have hbelow : r.upgrades 1 < r.maxRedirects := by
    rw [hr, upgrades, counted?_consulted]
    exact hlimit
  have hknown : r.remembered? "http://www.a.com/" = none := by
    rw [hr, remembered?_consulted, hnone]
  have hopen : r.consult "http://www.a.com/" 1 =
      (.open "www.a.com", r.consulted "http://www.a.com/" 1) := by
    rw [consult_of_lt insecureHost?_beside hbelow, hknown]
  have hfound : ∀ e ∈ r.lookups ask 0 (.upgrade "http://www.a.com/" 1),
      ∃ payload, e.2 = .found payload := by
    intro e he
    rw [lookups_upgrade_of_open _ _ _ hbelow hopen, walk_beside.2.2] at he
    exact ⟨_, congrArg Prod.snd (List.mem_singleton.1 he)⟩
  rw [hmax] at hbelow
  refine ⟨hask, hbelow, hfound, ?_⟩
  rw [← hrun] at hbelow hfound hknown ⊢
  have hresult := (answer_after_faults hask Config.standard 0 events 0 hbelow hfound).1
  rw [hknown, answer?_beside] at hresult
  exact hresult

/-- One fault has a call find an address elsewhere, and the next call replies the same although
every key would be answered. -/
theorem answer_after_one_fault :
    let ask := faulty besideRules
    let events : List (Event Nat) :=
      [.change fun _ => 1, .call (.upgrade "http://www.a.com/" 1)]
    let r := ((empty Config.standard).run ask 0 events).2.1
    Follows ask besideRules ∧ r.upgrades 2 < Config.standard.maxRedirects ∧
      (∀ e ∈ r.lookups ask 0 (.upgrade "http://www.a.com/" 2), ∃ payload, e.2 = .found payload) ∧
      (r.answer ask 0 (.upgrade "http://www.a.com/" 2)).1 =
        .address (some "https://ssl.a.com/") ∧
      besideRules.answer? "http://www.a.com/" = some "https://www.a.com/" := by
  intro ask events r
  obtain ⟨hlimit, hnone⟩ := empty_beside
  have hr : r = (((empty Config.standard).consulted "http://www.a.com/" 1).learned
      "http://www.a.com/" (some "https://ssl.a.com/")).raised 1 :=
    run_one_fault hlimit hnone
  clear_value r
  have hcount : r.counted? 2 = none := by
    have hempty : (empty Config.standard).counted? 2 = none := by
      simp [counted?, empty, Redirects.empty]
    rw [hr]
    rcases counted?_raised_of_ne _ _ _ (by decide : (2 : Nat) ≠ 1) with hsame | ⟨hnone, -⟩
    · rw [hsame, counted?_learned, counted?_consulted, hempty]
    · exact hnone
  have hmax : r.maxRedirects = Config.standard.maxRedirects := by
    rw [hr]
    rfl
  have hbelow : r.upgrades 2 < r.maxRedirects := by
    rw [upgrades, hcount, hmax]
    decide
  have hknown : r.remembered? "http://www.a.com/" = some (some "https://ssl.a.com/") := by
    rw [hr, remembered?_raised, remembered?_learned_self]
  have hsettled : r.consult "http://www.a.com/" 2 =
      (.settled (some "https://ssl.a.com/"), (r.consulted "http://www.a.com/" 2).raised 2) := by
    rw [consult_of_lt insecureHost?_beside hbelow, hknown]
  rw [hmax] at hbelow
  refine ⟨follows_faulty besideRules, hbelow, ?_, ?_, answer?_beside⟩
  · rw [lookups, answer_upgrade_of_settled _ _ _ hsettled]
    exact List.forall_mem_nil _
  · rw [answer_upgrade_of_settled _ _ _ hsettled]

end Results

end Upgrader
end Upgrade
end RequestGuard
