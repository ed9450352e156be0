import RequestGuard.Proofs.Upgrade.Step

/-!
# What an upgrader remembers

Whatever calls were made and however the store changed between them, an answer is
remembered only if a walk over the keys of the host ended with it (`found_of_remembered?`),
in a call that replied it (`exists_call_of_remembered?`).

* With a store that serves rules, it is the answer of the rules.
* With a store that follows rules, an address comes from the rules under one of the keys,
  and that there is none means that no key has one.
-/

namespace RequestGuard
namespace Upgrade
namespace Upgrader

variable {σ : Type} {ask : Ask σ} {r r' : Upgrader} {s s' : σ}
variable {call : Call} {reply : Reply} {lookups : List Lookup}

section Runs

/-- What each call of a run keeps, the run keeps. -/
theorem run_induction
    {P : Upgrader → Prop} {events : List (Event σ)}
    (hstep : ∀ {r r' : Upgrader} {s s' : σ} {call : Call} {reply : Reply}
      {lookups : List Lookup},
      .call call ∈ events → Turned ask r s call reply r' s' lookups → P r → P r')
    (hr : P r) :
    P (r.run ask s events).2.1 := by
  induction events generalizing r s with
  | nil => exact hr
  | cons event more ih =>
      have hmore : ∀ {r r' : Upgrader} {s s' : σ} {call : Call} {reply : Reply}
          {lookups : List Lookup},
          .call call ∈ more → Turned ask r s call reply r' s' lookups → P r → P r' :=
        fun hmem => hstep (List.mem_cons_of_mem event hmem)
      cases event with
      | change f => exact ih hmore hr
      | call call =>
          exact ih hmore (hstep List.mem_cons_self (turned_answer ask r s call) hr)

theorem Turned.maxRedirects_eq (h : Turned ask r s call reply r' s' lookups) :
    r'.maxRedirects = r.maxRedirects := by
  cases h <;> simp

/-- The limit stays as it was configured. -/
theorem maxRedirects_run
    (ask : Ask σ) (config : Config) (s : σ) (events : List (Event σ)) :
    ((empty config).run ask s events).2.1.maxRedirects = config.maxRedirects := by
  refine run_induction (P := fun r => r.maxRedirects = config.maxRedirects) ?_ rfl
  intro r r' s s' call reply lookups _ hturned hr
  rw [hturned.maxRedirects_eq, hr]

end Runs

section Findings

/-- How a walk ends that is remembered as an answer. -/
def endingOf : Option String → Ending
  | some target => .upgrade target
  | none => .nothing

/-- A walk over the keys of the host of an address ended with an answer. -/
def Found (ask : Ask σ) (url : String) (answer? : Option String) : Prop :=
  ∃ host s, insecureHost? url = some host ∧
    (walk ask url (keys host) false s).1 = endingOf answer?

/-- A walk over the keys of the host of an address, with the store as it was, ended with an
answer and asked for so much. -/
inductive FoundIn (ask : Ask σ) (url : String) (s : σ) (answer? : Option String)
    (lookups : List Lookup) : Prop
  | intro {host : String}
      (hurl : insecureHost? url = some host)
      (hwalk : (walk ask url (keys host) false s).1 = endingOf answer?)
      (hlookups : lookups = walkLookups ask url (keys host) s)

theorem FoundIn.found
    {url : String} {answer? : Option String} (h : FoundIn ask url s answer? lookups) :
    Found ask url answer? := by
  obtain ⟨hurl, hwalk, -⟩ := h
  exact ⟨_, s, hurl, hwalk⟩

/-- What is remembered after an answer was, was so before or is the answer. -/
theorem remembered?_of_learned
    {url other : String} {answer? known : Option String}
    (h : (r.learned url answer?).remembered? other = some known) :
    r.remembered? other = some known ∨ other = url ∧ known = answer? := by
  by_cases hother : other = url
  · subst hother
    rw [remembered?_learned_self] at h
    exact Or.inr ⟨rfl, (Option.some.inj h).symm⟩
  · rcases r.remembered?_learned_of_ne url other answer? hother with hkeep | hgone
    · rw [hkeep] at h
      exact Or.inl h
    · rw [hgone] at h
      cases h

/-- A call remembers only what it replies and a walk has found. -/
theorem Turned.foundIn
    (h : Turned ask r s call reply r' s' lookups) {url : String} {known : Option String}
    (hknown : r'.remembered? url = some known) :
    r.remembered? url = some known ∨
      (∃ request, call = .upgrade url request) ∧ reply = .address known ∧
        FoundIn ask url s known lookups := by
  cases h with
  | upgraded hurl _ _ hwalk =>
      rw [remembered?_raised] at hknown
      rcases remembered?_of_learned hknown with hbefore | ⟨rfl, rfl⟩
      · exact Or.inl (by simpa using hbefore)
      · exact Or.inr ⟨⟨_, rfl⟩, rfl, .intro hurl hwalk rfl⟩
  | nothing hurl _ _ hwalk =>
      rcases remembered?_of_learned hknown with hbefore | ⟨rfl, rfl⟩
      · exact Or.inl (by simpa using hbefore)
      · exact Or.inr ⟨⟨_, rfl⟩, rfl, .intro hurl hwalk rfl⟩
  | _ => left; simpa using hknown

/-- A call remembers only what a walk has found. -/
theorem Turned.found
    (h : Turned ask r s call reply r' s' lookups) {url : String} {known : Option String}
    (hknown : r'.remembered? url = some known) :
    r.remembered? url = some known ∨ Found ask url known :=
  (h.foundIn hknown).imp_right fun hfound => hfound.2.2.found

/-- An answer that is remembered after a run was remembered before it, or a call of the run
has replied it as a walk found it. -/
theorem exists_call_of_remembered?
    {events : List (Event σ)} {url : String} {known : Option String}
    (h : (r.run ask s events).2.1.remembered? url = some known) :
    r.remembered? url = some known ∨
      ∃ before request after, events = before ++ .call (.upgrade url request) :: after ∧
        let r₀ := (r.run ask s before).2.1
        let s₀ := (r.run ask s before).2.2
        (r₀.answer ask s₀ (.upgrade url request)).1 = .address known ∧
          FoundIn ask url s₀ known (r₀.lookups ask s₀ (.upgrade url request)) := by
  induction events generalizing r s with
  | nil => exact Or.inl h
  | cons event more ih =>
      cases event with
      | change f =>
          refine (ih h).imp_right ?_
          rintro ⟨before, request, after, rfl, hcall⟩
          exact ⟨.change f :: before, request, after, rfl, hcall⟩
      | call call =>
          rcases ih h with hbefore | ⟨before, request, after, rfl, hcall⟩
          · refine ((turned_answer ask r s call).foundIn hbefore).imp_right ?_
            rintro ⟨⟨request, rfl⟩, hcall⟩
            exact ⟨[], request, more, rfl, hcall⟩
          · exact Or.inr ⟨.call call :: before, request, after, rfl, hcall⟩

/-- An answer is remembered only if a walk has found it. -/
theorem found_of_remembered?
    (ask : Ask σ) (config : Config) (s : σ) (events : List (Event σ))
    {url : String} {known : Option String}
    (h : ((empty config).run ask s events).2.1.remembered? url = some known) :
    Found ask url known := by
  rcases exists_call_of_remembered? h with hempty | ⟨before, request, after, -, hcall⟩
  · have hnone : (empty config).remembered? url = none :=
      Recency.Cache.peek?_empty config.upgradeCapacity url
    rw [hnone] at hempty
    cases hempty
  · exact hcall.2.found

end Findings

section Rules

variable {rules : Rules} {url : String} {known : Option String}

/-- From a store that serves rules the answer of the rules is found. -/
theorem Found.eq_answer?
    (hask : Serves ask rules) (h : Found ask url known) :
    known = rules.answer? url := by
  obtain ⟨host, s, hurl, hwalk⟩ := h
  rw [walk_serves url hask] at hwalk
  rw [Rules.answer?, hurl, Option.bind_some]
  cases hfirst : (keys host).findSome? (rules.under? url) with
  | none =>
      rw [hfirst] at hwalk
      cases known with
      | none => rfl
      | some v => cases hwalk
  | some v =>
      rw [hfirst] at hwalk
      cases known with
      | none => cases hwalk
      | some w =>
          cases hwalk
          rfl

/-- An address that is found comes from the rules under one of the keys. -/
theorem Found.mem
    (hask : Follows ask rules) {target : String} (h : Found ask url (some target)) :
    ∃ host, insecureHost? url = some host ∧
      ∃ key ∈ keys host, rules.under? url key = some target := by
  obtain ⟨host, s, hurl, hwalk⟩ := h
  exact ⟨host, hurl, mem_of_walk_eq_upgrade hask hwalk⟩

/-- Where no address is found, no key has one. -/
theorem Found.forall
    (hask : Follows ask rules) (h : Found ask url none) :
    ∃ host, insecureHost? url = some host ∧
      ∀ key ∈ keys host, rules.under? url key = none := by
  obtain ⟨host, s, hurl, hwalk⟩ := h
  exact ⟨host, hurl, forall_of_walk_eq_nothing hask hwalk⟩

end Rules

end Upgrader
end Upgrade
end RequestGuard
