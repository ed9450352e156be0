import RequestGuard.Proofs.Upgrade.Memory

/-!
# The answers remembered do not show

With a store that serves rules, an upgrader answers every address as the rules do, unless
the address is none it upgrades or the request has had its upgrades.  What it remembers
spares it questions and changes no answer (`answer_eq_of_serves`).

All that a run can leave behind is that an upgrader agrees with the rules (`Agrees`):
what it remembers about an address is the answer of the rules.
-/

namespace RequestGuard
namespace Upgrade
namespace Upgrader

variable {σ : Type} {ask : Ask σ} {rules : Rules}

section Agreement

/-- What is remembered about an address is the answer of the rules. -/
def Agrees (r : Upgrader) (rules : Rules) : Prop :=
  ∀ url known, r.remembered? url = some known → known = rules.answer? url

theorem agrees_run
    (hask : Serves ask rules) (config : Config) (s : σ) (events : List (Event σ)) :
    ((empty config).run ask s events).2.1.Agrees rules :=
  fun _ _ hknown => (found_of_remembered? ask config s events hknown).eq_answer? hask

/-- The answer to a call, given the rules and whether there is an upgrade to be had. -/
def due (r : Upgrader) (rules : Rules) (url : String) (request : Nat) : Option String :=
  if insecureHost? url = none ∨ r.maxRedirects ≤ r.upgrades request then none
  else rules.answer? url

variable {r r' : Upgrader} {s s' : σ} {reply : Reply} {lookups : List Lookup}
variable {url host : String} {request : Nat}

theorem due_of_foreign (hurl : insecureHost? url = none) :
    r.due rules url request = none :=
  if_pos (Or.inl hurl)

theorem due_of_limit (hlimit : r.maxRedirects ≤ r.upgrades request) :
    r.due rules url request = none :=
  if_pos (Or.inr hlimit)

theorem due_of_lt
    (hurl : insecureHost? url = some host) (hbelow : r.upgrades request < r.maxRedirects) :
    r.due rules url request = rules.answer? url := by
  refine if_neg ?_
  rintro (hnone | hlimit)
  · rw [hurl] at hnone
    cases hnone
  · exact Nat.not_le_of_lt hbelow hlimit

/-- A call that may ask the store is given what is due. -/
theorem Turned.reply_upgrade
    (hask : Serves ask rules) (hr : r.Agrees rules)
    (h : Turned ask r s (.upgrade url request) reply r' s' lookups) :
    reply = .address (r.due rules url request) := by
  cases h with
  | foreign hcall hurl =>
      obtain ⟨rfl, rfl⟩ := looksUp_upgrade.1 hcall
      rw [due_of_foreign hurl]
  | refused hcall _ hlimit =>
      obtain ⟨rfl, rfl⟩ := looksUp_upgrade.1 hcall
      rw [due_of_limit hlimit]
  | repeated hcall hurl hbelow hknown =>
      obtain ⟨rfl, rfl⟩ := looksUp_upgrade.1 hcall
      rw [due_of_lt hurl hbelow, ← hr _ _ hknown]
  | repeatedNone hcall hurl hbelow hknown =>
      obtain ⟨rfl, rfl⟩ := looksUp_upgrade.1 hcall
      rw [due_of_lt hurl hbelow, ← hr _ _ hknown]
  | upgraded hurl hbelow _ hwalk =>
      have hfound : Found ask url (some _) := ⟨_, _, hurl, hwalk⟩
      rw [due_of_lt hurl hbelow, ← hfound.eq_answer? hask]
  | nothing hurl hbelow _ hwalk =>
      have hfound : Found ask url none := ⟨_, _, hurl, hwalk⟩
      rw [due_of_lt hurl hbelow, ← hfound.eq_answer? hask]
  | failed _ _ _ hwalk =>
      rw [walk_serves url hask] at hwalk
      split at hwalk <;> cases hwalk
  | panicked _ _ _ hwalk =>
      rw [walk_serves url hask] at hwalk
      split at hwalk <;> cases hwalk

/-- A call that asks no store is given nothing or what is due; it asks for nothing and
leaves what is remembered as it was. -/
theorem Turned.reply_fromCache
    (hr : r.Agrees rules)
    (h : Turned ask r s (.fromCache url request) reply r' s' lookups) :
    (reply = .address none ∨ reply = .address (r.due rules url request)) ∧
      lookups = [] ∧ ∀ other, r'.remembered? other = r.remembered? other := by
  cases h with
  | repeated hcall hurl hbelow hknown =>
      obtain ⟨rfl, rfl⟩ := looksUp_fromCache.1 hcall
      refine ⟨Or.inr ?_, rfl, by simp⟩
      rw [due_of_lt hurl hbelow, ← hr _ _ hknown]
  | foreign _ _ => exact ⟨Or.inl rfl, rfl, fun _ => rfl⟩
  | _ => exact ⟨Or.inl rfl, rfl, by simp⟩

end Agreement

section FirstAnswers

/-- An upgrader that remembers nothing yet answers as the rules do. -/
theorem upgrade_empty {P : σ → Prop} (hask : ServesWithin P ask rules) {s : σ} (hs : P s)
    {c : Config} (hmax : c.maxRedirects ≠ 0) (url : String) (request : Nat) :
    ((empty c).upgrade ask url request s).1 = some (rules.answer? url) := by
  rw [upgrade, Rules.answer?]
  cases hurl : insecureHost? url with
  | none =>
      rw [consult_of_foreign hurl]
      rfl
  | some host =>
      have hremembered : (empty c).remembered? url = none :=
        Recency.Cache.peek?_empty c.upgradeCapacity url
      have hcounted : (empty c).counted? request = none :=
        Recency.Cache.peek?_empty c.redirectCapacity request
      have hbelow : (empty c).upgrades request < (empty c).maxRedirects := by
        rw [upgrades, hcounted]
        exact Nat.pos_of_ne_zero hmax
      have hwalk := walk_servesWithin url hask (keys host) hs
      rcases hw : walk ask url (keys host) false s with ⟨ending, log, s'⟩
      rw [hw] at hwalk
      rw [consult_of_lt hurl hbelow, hremembered]
      simp only [hw, Option.bind_some]
      cases hunder : (keys host).findSome? (rules.under? url) with
      | none =>
          rw [hunder] at hwalk
          obtain rfl : ending = .nothing := hwalk
          rfl
      | some target =>
          rw [hunder] at hwalk
          obtain rfl : ending = .upgrade target := hwalk
          refine congrArg some (congrArg Prod.fst (counted_of_lt ?_))
          show ((empty c).consulted url request).upgrades request < c.maxRedirects
          rw [upgrades, counted?_consulted]
          exact hbelow

end FirstAnswers

section Results

/-- **The answers remembered do not show.**  After any calls a call for an address is
answered as the rules answer it, unless the address is none that is upgraded or its
request is at the limit.  A call that keeps to what is remembered gets the same answer or
none, asks for nothing and adds nothing to what is remembered.  The store may change in
any way that leaves its answers alone, so it may also count or write down what it is
asked. -/
theorem answer_eq_of_serves
    (hask : Serves ask rules) (config : Config) (s t : σ) (events : List (Event σ))
    (url : String) (request : Nat) :
    let r := ((empty config).run ask s events).2.1
    (r.answer ask t (.upgrade url request)).1 =
        .address
          (if insecureHost? url = none ∨ config.maxRedirects ≤ r.upgrades request then none
          else rules.answer? url) ∧
      ((r.answer ask t (.fromCache url request)).1 = .address none ∨
        (r.answer ask t (.fromCache url request)).1 =
          (r.answer ask t (.upgrade url request)).1) ∧
      r.lookups ask t (.fromCache url request) = [] ∧
      ∀ other : String,
        (r.answer ask t (.fromCache url request)).2.2.1.remembered? other =
          r.remembered? other := by
  intro r
  have hagrees : r.Agrees rules := agrees_run hask config s events
  have hlimit : r.maxRedirects = config.maxRedirects :=
    maxRedirects_run ask config s events
  have hupgrade :=
    (turned_answer ask r t (.upgrade url request)).reply_upgrade hask hagrees
  obtain ⟨hreply, hlookups, hremembered⟩ :=
    (turned_answer ask r t (.fromCache url request)).reply_fromCache hagrees
  refine ⟨?_, ?_, hlookups, hremembered⟩
  · rw [hupgrade, due, hlimit]
  · rw [hupgrade]
    exact hreply

/-- A store with one rule that writes down its keys, after calls that have upgraded the
address, counted an upgrade of another request and emptied the store's list. -/
theorem answer_eq_of_serves_one :
    let rules : Rules := fun key =>
      if key = "[::1]" then some "[\x7b\"r\":[\x7b\"d\":1\x7d]\x7d]" else none
    let ask : Ask (List String) := fun asked key => (.found (rules key), key :: asked)
    let events : List (Event (List String)) :=
      [.call (.upgrade "http://[::1]/" 1), .call (.record 2), .change fun _ => [],
        .call (.fromCache "http://[::1]/" 2)]
    let r := ((empty { Config.standard with maxRedirects := 2 }).run ask [] events).2.1
    Serves ask rules ∧
      (r.answer ask [] (.upgrade "http://[::1]/" 3)).1 =
        .address (if 2 ≤ r.upgrades 3 then none else some "https://[::1]/") ∧
      r.lookups ask [] (.fromCache "http://[::1]/" 3) = [] := by
  intro rules ask events r
  have hserves : Serves ask rules := fun _ _ => rfl
  have hurl : insecureHost? "http://[::1]/" = some "[::1]" := by decide +kernel
  have hanswer : rules.answer? "http://[::1]/" = some "https://[::1]/" := by decide +kernel
  obtain ⟨hreply, -, hlookups, -⟩ :=
    answer_eq_of_serves hserves { Config.standard with maxRedirects := 2 } [] [] events
      "http://[::1]/" 3
  refine ⟨hserves, ?_, hlookups⟩
  rw [hanswer] at hreply
  simpa [hurl] using hreply

end Results

end Upgrader
end Upgrade
end RequestGuard
