import RequestGuard.Proofs.Upgrade.LoopGuard

/-!
# How long an answer spares the store

An answer that is remembered is not asked for again until as many other addresses have
come up as there is room for.

* `Cached` lists all that a call can do to the answers remembered, and `Turned.cached` says
  that the list is complete.
* `Cached.keeps`: an answer is kept while only some other addresses come up, fewer than
  there is room for.
* `Turned.exists_kept`: a call that was not refused, and that no fault kept from an answer, has an
  answer kept for its address.

`lookups_eq_nil_of_few_others` puts these together.
-/

namespace RequestGuard
namespace Upgrade
namespace Upgrader

variable {σ : Type} {ask : Ask σ} {r r' : Upgrader} {s s' : σ}
variable {call : Call} {reply : Reply} {lookups : List Lookup}

section Uses

/-- The address that a call asks about. -/
def Call.address? : Call → Option String
  | .upgrade url _ => some url
  | .fromCache url _ => some url
  | .redirects _ => none
  | .record _ => none
  | .forget _ => none

theorem Call.LooksUp.address?_eq
    {url : String} {request : Nat} (h : call.LooksUp url request) :
    call.address? = some url := by
  rcases h with rfl | rfl <;> rfl

/-- All that a call can do to the answers remembered. -/
inductive Cached (r : Upgrader) (call : Call) : Recency.Cache String (Option String) → Prop
  | kept : Cached r call r.cache
  | asked {url : String}
      (hcall : call.address? = some url) :
      Cached r call (r.cache.find url).2
  | learned {url : String} (answer? : Option String)
      (hcall : call.address? = some url)
      (hnew : r.remembered? url = none) :
      Cached r call ((r.cache.find url).2.insert url answer?)

/-- Nothing else can be done to the answers remembered. -/
theorem Turned.cached (h : Turned ask r s call reply r' s' lookups) :
    r.Cached call r'.cache := by
  cases h with
  | foreign | refused | redirects | record | forget => exact .kept
  | repeated hcall | repeatedNone hcall => exact .asked hcall.address?_eq
  | missed | failed | panicked => exact .asked rfl
  | upgraded _ _ hnew | nothing _ _ hnew => exact .learned _ rfl hnew

variable {cache : Recency.Cache String (Option String)}

theorem Cached.capacity_eq (h : r.Cached call cache) :
    cache.capacity = r.cache.capacity := by
  cases h <;> simp

theorem Cached.sound (h : r.Cached call cache) (hr : r.cache.Sound) : cache.Sound := by
  cases h with
  | kept => exact hr
  | asked => exact (hr.mirrors.find _).sound
  | learned => exact ((hr.mirrors.find _).sound.mirrors.insert _ _).sound

/-- The answers remembered are sound, and there is as much room for them as was
configured. -/
theorem cache_run
    (ask : Ask σ) (config : Config) (s : σ) (events : List (Event σ)) :
    let r := ((empty config).run ask s events).2.1
    r.cache.Sound ∧ r.cache.capacity = max config.upgradeCapacity 1 := by
  refine run_induction
    (P := fun r => r.cache.Sound ∧ r.cache.capacity = max config.upgradeCapacity 1)
    ?_ ⟨(Recency.Cache.mirrors_empty config.upgradeCapacity).sound, rfl⟩
  rintro r r' s s' call reply lookups - hturned ⟨hsound, hcapacity⟩
  refine ⟨hturned.cached.sound hsound, ?_⟩
  rw [hturned.cached.capacity_eq, hcapacity]

end Uses

section Keeping

variable {cache : Recency.Cache String (Option String)}
variable {url : String} {answer? : Option String} {others : Finset String}

/-- A call about the address or one of the others keeps the answer to the address, while
there is room for all. -/
theorem Cached.keeps
    (h : r.Cached call cache) (hurl : url ∉ others)
    (hcard : others.card < r.cache.capacity)
    (haddress : ∀ other, call.address? = some other → other = url ∨ other ∈ others)
    (hkept : r.cache.Kept url answer? others) :
    cache.Kept url answer? others := by
  have hfind {other : String} (hother : other = url ∨ other ∈ others) :
      (r.cache.find other).2.Kept url answer? others := by
    rcases hother with rfl | hother
    · exact hkept.sound.kept_find (hkept.peek?_eq hurl) others
    · exact hkept.find hother hurl
  cases h with
  | kept => exact hkept
  | asked hcall => exact hfind (haddress _ hcall)
  | learned new? hcall hnew =>
      rcases haddress _ hcall with rfl | hother
      · -- The answer to the address is there already.
        rw [remembered?, hkept.peek?_eq hurl] at hnew
        cases hnew
      · refine (hfind (Or.inr hother)).insert hother hurl ?_ new?
        rw [Recency.Cache.capacity_find]
        exact hcard

/-- A call below the limit keeps an answer for its address, if it was remembered, if there is
an upgrade, or if every key was answered. -/
theorem Turned.exists_kept
    {host : String} {request : Nat} (hurl : insecureHost? url = some host)
    (h : Turned ask r s (.upgrade url request) reply r' s' lookups)
    (hr : r.cache.Sound) (hbelow : r.upgrades request < r.maxRedirects)
    (hsettled : r.remembered? url ≠ none ∨ reply.isUpgrade = true ∨
      ∀ e ∈ lookups, ∃ payload, e.2 = .found payload)
    (others : Finset String) :
    ∃ answer?, r'.cache.Kept url answer? others := by
  have hlearned (new? : Option String) :
      ((r.consulted url request).learned url new?).cache.Kept url new? others :=
    (hr.mirrors.find url).sound.kept_insert url new? others
  -- Without an upgrade a walk with a fault settles nothing.
  have hfault (hnew : r.remembered? url = none) (hreply : reply.isUpgrade = false)
      (hlookups : ∃ e ∈ lookups, ∀ payload, e.2 ≠ .found payload) : False := by
    obtain ⟨e, he, hne⟩ := hlookups
    rcases hsettled with hknown | hyes | hall
    · exact hknown hnew
    · rw [hreply] at hyes
      cases hyes
    · obtain ⟨payload, hfound⟩ := hall e he
      exact hne payload hfound
  cases h with
  | foreign hcall hnone =>
      obtain ⟨rfl, -⟩ := looksUp_upgrade.1 hcall
      rw [hurl] at hnone
      cases hnone
  | refused hcall _ hlimit =>
      obtain ⟨-, rfl⟩ := looksUp_upgrade.1 hcall
      exact absurd hbelow (Nat.not_lt_of_le hlimit)
  | repeated hcall _ _ hknown | repeatedNone hcall _ _ hknown =>
      obtain ⟨rfl, rfl⟩ := looksUp_upgrade.1 hcall
      exact ⟨_, hr.kept_find hknown others⟩
  | upgraded | nothing => exact ⟨_, hlearned _⟩
  | failed _ _ hnew hwalk =>
      obtain ⟨e, he, f, hf⟩ := exists_failed_of_walk_eq_failed hwalk
      exact (hfault hnew rfl ⟨e, he, by simp [hf]⟩).elim
  | panicked _ _ hnew hwalk =>
      obtain ⟨e, he, hpanicked⟩ := walk_eq_panicked_iff.1 hwalk
      exact (hfault hnew rfl ⟨e, he, by simp [hpanicked]⟩).elim

/-- Nothing is asked for where the answer is remembered. -/
theorem Turned.lookups_eq_nil
    {request : Nat} (h : Turned ask r s (.upgrade url request) reply r' s' lookups)
    (hknown : insecureHost? url = none ∨ r.remembered? url ≠ none) :
    lookups = [] := by
  cases h with
  | foreign | refused | repeated | repeatedNone => rfl
  | upgraded hurl _ hnew | nothing hurl _ hnew | failed hurl _ hnew | panicked hurl _ hnew =>
      rcases hknown with hnone | hknown
      · rw [hurl] at hnone
        cases hnone
      · exact absurd hnew hknown

end Keeping

section Results

/-- The addresses that come up in a run. -/
def addresses (events : List (Event σ)) : Finset String :=
  ((calls events).filterMap Call.address?).toFinset

theorem mem_addresses
    {events : List (Event σ)} {call : Call} {url : String}
    (hmem : .call call ∈ events) (hcall : call.address? = some url) :
    url ∈ addresses events := by
  rw [addresses, List.mem_toFinset, List.mem_filterMap]
  exact ⟨call, mem_calls.2 hmem, hcall⟩

/-- What is kept before a run is kept after it, while fewer other addresses come up than
there is room for. -/
theorem kept_run
    (ask : Ask σ) (s : σ) {url : String} {answer? : Option String} {events : List (Event σ)}
    (hcard : ((addresses events).erase url).card < r.cache.capacity)
    (hkept : r.cache.Kept url answer? ((addresses events).erase url)) :
    (r.run ask s events).2.1.cache.Kept url answer? ((addresses events).erase url) := by
  refine (run_induction
    (P := fun r' => r'.cache.capacity = r.cache.capacity ∧
      r'.cache.Kept url answer? ((addresses events).erase url)) ?_ ⟨rfl, hkept⟩).2
  rintro r₁ r₂ s s' call reply lookups hmem hturned ⟨hcapacity, hkept⟩
  have hcached := hturned.cached
  refine ⟨hcached.capacity_eq.trans hcapacity, ?_⟩
  refine hcached.keeps (Finset.notMem_erase url _) (hcapacity ▸ hcard) ?_ hkept
  intro other hcall
  rw [Finset.mem_erase]
  exact (em (other = url)).imp_right fun hne => ⟨hne, mem_addresses hmem hcall⟩

/-- **The store is asked once.**  After any run, an upgrade of an address was asked for below
the limit, and the answer was remembered, or there was an upgrade, or every key that was
asked for was answered.  Then the next call for the address, for whatever request, asks the
store for nothing, as long as fewer other addresses have come up in between than there is
room for: whatever was called and answered, however the store changed and whatever it
failed to answer. -/
theorem lookups_eq_nil_of_few_others
    (ask : Ask σ) (config : Config) (s : σ) (before : List (Event σ)) (t : σ)
    {url : String} {request : Nat}
    (hbelow : ((empty config).run ask s before).2.1.upgrades request < config.maxRedirects)
    (hsettled :
      let r := ((empty config).run ask s before).2.1
      r.remembered? url ≠ none ∨
        (∃ target, (r.answer ask t (.upgrade url request)).1 = .address (some target)) ∨
        ∀ e ∈ r.lookups ask t (.upgrade url request), ∃ payload, e.2 = .found payload)
    (t' : σ) {between : List (Event σ)}
    (hfew : ((addresses between).erase url).card < max config.upgradeCapacity 1)
    (t'' : σ) (next : Nat) :
    let r := ((empty config).run ask s before).2.1
    let r' := (r.answer ask t (.upgrade url request)).2.2.1
    (r'.run ask t' between).2.1.lookups ask t'' (.upgrade url next) = [] := by
  intro r r'
  have hlater := turned_answer ask (r'.run ask t' between).2.1 t'' (.upgrade url next)
  cases hurl : insecureHost? url with
  | none => exact hlater.lookups_eq_nil (Or.inl hurl)
  | some host =>
      obtain ⟨hsound, hcapacity⟩ := cache_run ask config s before
      have hturned := turned_answer ask r t (.upgrade url request)
      obtain ⟨answer?, hkept⟩ :=
        hturned.exists_kept hurl hsound
          (hbelow.trans_eq (maxRedirects_run ask config s before).symm)
          (hsettled.imp_right (Or.imp_left fun ⟨target, hreply⟩ => by rw [hreply]; rfl))
          ((addresses between).erase url)
      have hroom : ((addresses between).erase url).card < r'.cache.capacity := by
        rw [hturned.cached.capacity_eq, hcapacity]
        exact hfew
      have hstays := (kept_run ask t' hroom hkept).peek?_eq (Finset.notMem_erase url _)
      refine hlater.lookups_eq_nil (Or.inr ?_)
      rw [remembered?, hstays]
      exact Option.some_ne_none answer?

/-- Room for two answers.  The store answers once and then fails; one other address comes up
in between. -/
theorem lookups_eq_nil_of_one_other :
    let config : Config := { Config.standard with upgradeCapacity := 2 }
    let ask : Ask Nat := fun n _ =>
      (if n = 0 then .found (some "[\x7b\"r\":[\x7b\"d\":1\x7d]\x7d]")
        else .failed (.store .notReadable), n + 1)
    let before : List (Event Nat) := [.change (· + 1)]
    let between : List (Event Nat) :=
      [.call (.upgrade "http://[::2]/" 1), .change (· + 1), .call (.record 1),
        .call (.fromCache "http://[::1]/" 2), .call (.fromCache "http://[::2]/" 3)]
    let r := ((empty config).run ask 0 before).2.1
    let r' := (r.answer ask 0 (.upgrade "http://[::1]/" 1)).2.2.1
    r.upgrades 1 < config.maxRedirects ∧
      (r.answer ask 0 (.upgrade "http://[::1]/" 1)).1 = .address (some "https://[::1]/") ∧
      ((addresses between).erase "http://[::1]/").card < 2 ∧
      (r'.run ask 1 between).2.1.lookups ask 1 (.upgrade "http://[::1]/" 4) = [] := by
  intro config ask before between r r'
  have hurl : insecureHost? "http://[::1]/" = some "[::1]" := by decide +kernel
  have hkeys : keys "[::1]" = ["[::1]"] := by decide +kernel
  have htarget :
      upgraded? "[\x7b\"r\":[\x7b\"d\":1\x7d]\x7d]" "http://[::1]/" =
        some "https://[::1]/" := by
    decide +kernel
  have hr : r = empty config := rfl
  have hbelow : r.upgrades 1 < config.maxRedirects := by
    rw [hr, upgrades, counted?]
    simp [empty, Redirects.empty, config, Config.standard]
  have hopen : r.consult "http://[::1]/" 1 = (.open "[::1]", r.consulted "http://[::1]/" 1) := by
    rw [consult_of_lt hurl hbelow, hr, remembered?]
    simp [empty]
  have hreply :
      (r.answer ask 0 (.upgrade "http://[::1]/" 1)).1 = .address (some "https://[::1]/") := by
    rw [answer_upgrade_of_open ask r 0 hbelow hopen, hkeys]
    simp [walk, ask, htarget, ended]
  have hfew : ((addresses between).erase "http://[::1]/").card < 2 := by decide +kernel
  have hresult :=
    lookups_eq_nil_of_few_others ask config 0 before 0 hbelow
      (Or.inr (Or.inl ⟨_, hreply⟩)) 1 hfew 1 4
  refine ⟨hbelow, hreply, hfew, ?_⟩
  -- The runs are the same as they stand; neither is to be evaluated.
  with_reducible exact hresult

end Results

end Upgrader
end Upgrade
end RequestGuard
