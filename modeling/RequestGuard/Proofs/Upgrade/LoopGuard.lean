import RequestGuard.Proofs.Recency.Retention
import RequestGuard.Proofs.Upgrade.Memory

/-!
# The limit on upgrades

However the store behaves, a request has no more upgrades than the limit allows, as long
as its count is neither dropped nor pushed out of the table.

* `Tallied` lists all that a call can do to the counts, and `Turned.tallied` says that
  the list is complete.  Counting from outside (`record`) is left out, for it heeds no
  limit.
* `Guarded` holds of an upgrader after any calls: the table is sound and no count is
  above the limit.
* `Credited` ties a count to the upgrades that were seen: the count is at least their
  number, and only requests of a set have used the table since.

`granted_le_maxRedirects` puts these together: while fewer other requests come up than
the table has room for, a request is granted no more upgrades than the limit.
-/

namespace RequestGuard
namespace Upgrade
namespace Upgrader

variable {σ : Type} {ask : Ask σ} {r r' : Upgrader} {s s' : σ}
variable {call : Call} {reply : Reply} {lookups : List Lookup}

section Tallies

/-- The request that a call is about. -/
def Call.request : Call → Nat
  | .upgrade _ request => request
  | .fromCache _ request => request
  | .redirects request => request
  | .record request => request
  | .forget request => request

/-- Is a reply an upgrade? -/
def Reply.isUpgrade : Reply → Bool
  | .address (some _) => true
  | _ => false

theorem Call.LooksUp.request_eq
    {url : String} {request : Nat} (h : call.LooksUp url request) :
    call.request = request := by
  rcases h with rfl | rfl <;> rfl

/-- All that a call can do to the counts, if it does not count from outside. -/
inductive Tallied (r : Upgrader) : Call → Reply → Redirects → Prop
  | kept {call : Call} {reply : Reply}
      (hreply : reply.isUpgrade = false) :
      Tallied r call reply r.redirects
  | asked {call : Call} {reply : Reply}
      (hreply : reply.isUpgrade = false) :
      Tallied r call reply (r.touched call.request).redirects
  | raised {call : Call} {reply : Reply}
      (hreply : reply.isUpgrade = true)
      (hbelow : r.upgrades call.request < r.maxRedirects) :
      Tallied r call reply ((r.touched call.request).raised call.request).redirects
  | dropped (request : Nat) :
      Tallied r (.forget request) .done (r.forgotten request).redirects

/-- Nothing else can be done to the counts. -/
theorem Turned.tallied
    (h : Turned ask r s call reply r' s' lookups)
    (hrecord : ∀ request, call ≠ .record request) :
    r.Tallied call reply r'.redirects := by
  cases h with
  | foreign => exact .kept rfl
  | refused hcall =>
      rw [← hcall.request_eq]
      exact .asked rfl
  | repeated hcall _ hbelow =>
      rw [← hcall.request_eq] at hbelow ⊢
      exact .raised rfl hbelow
  | repeatedNone hcall =>
      rw [← hcall.request_eq]
      exact .asked rfl
  | missed => exact .asked rfl
  | upgraded _ hbelow => exact .raised rfl hbelow
  | nothing => exact .asked rfl
  | failed => exact .asked rfl
  | panicked => exact .asked rfl
  | redirects => exact .asked rfl
  | record request => exact absurd rfl (hrecord request)
  | forget request => exact .dropped request

end Tallies

section Counts

variable {redirects : Redirects}

/-- An upgrade is counted for the request that it is given to. -/
theorem Tallied.peek?_self
    (h : r.Tallied call reply redirects) (hreply : reply.isUpgrade = true) :
    redirects.table.peek? call.request = some (r.upgrades call.request + 1) := by
  cases h with
  | kept hno | asked hno =>
      rw [hreply] at hno
      cases hno
  | raised =>
      have hself := (r.touched call.request).counted?_raised_self call.request
      rw [upgrades, counted?_touched] at hself
      exact hself
  | dropped => cases hreply

/-- An upgrade is given only below the limit. -/
theorem Tallied.upgrades_lt
    (h : r.Tallied call reply redirects) (hreply : reply.isUpgrade = true) :
    r.upgrades call.request < r.maxRedirects := by
  cases h with
  | kept hno | asked hno =>
      rw [hreply] at hno
      cases hno
  | raised _ hbelow => exact hbelow
  | dropped => cases hreply

/-- Without an upgrade every count stays, but for one that is dropped. -/
theorem Tallied.peek?_of_not
    (h : r.Tallied call reply redirects) (hreply : reply.isUpgrade = false) (id : Nat) :
    redirects.table.peek? id = r.counted? id ∨
      (call = .forget id ∧ redirects.table.peek? id = none) := by
  cases h with
  | kept => exact Or.inl rfl
  | asked => exact Or.inl (r.counted?_touched _ id)
  | raised hyes =>
      rw [hreply] at hyes
      cases hyes
  | dropped request =>
      by_cases hid : id = request
      · subst hid
        exact Or.inr ⟨rfl, r.counted?_forgotten_self id⟩
      · exact Or.inl (r.counted?_forgotten_of_ne _ _ hid)

/-- The count of another request stays, unless it is pushed out of a full table. -/
theorem Tallied.peek?_of_ne
    (h : r.Tallied call reply redirects) {other : Nat} (hother : other ≠ call.request) :
    redirects.table.peek? other = r.counted? other ∨
      (redirects.table.peek? other = none ∧ r.counted? call.request = none ∧
        r.redirects.table.capacity ≤ r.redirects.size) := by
  cases h with
  | kept => exact Or.inl rfl
  | asked => exact Or.inl (r.counted?_touched _ other)
  | raised =>
      have hraised := (r.touched call.request).counted?_raised_of_ne _ other hother
      rw [counted?_touched, counted?_touched, table_touched, Recency.Cache.capacity_find,
        size_touched] at hraised
      exact hraised
  | dropped request => exact Or.inl (r.counted?_forgotten_of_ne _ _ hother)

end Counts

section Guards

/-- The table of counts is sound, and every count is above zero and within the limit. -/
structure Guarded (r : Upgrader) : Prop where
  sound : r.redirects.table.Sound
  bounds : ∀ id n, r.counted? id = some n → 1 ≤ n ∧ n ≤ r.maxRedirects

theorem Guarded.upgrades_le (hr : r.Guarded) (id : Nat) :
    r.upgrades id ≤ r.maxRedirects := by
  rw [upgrades]
  cases hcount : r.counted? id with
  | none => exact Nat.zero_le _
  | some n => exact (hr.bounds id n hcount).2

theorem guarded_empty (config : Config) : (empty config).Guarded where
  sound := (Recency.Cache.mirrors_empty config.redirectCapacity).sound
  bounds id n hcount := by
    have hnone : (empty config).counted? id = none :=
      Recency.Cache.peek?_empty config.redirectCapacity id
    rw [hnone] at hcount
    cases hcount

variable {redirects : Redirects}

theorem Tallied.capacity_eq (h : r.Tallied call reply redirects) :
    redirects.table.capacity = r.redirects.table.capacity := by
  cases h <;> simp [table_raised, table_touched, forgotten, Redirects.forget]

theorem Tallied.sound
    (h : r.Tallied call reply redirects) (hr : r.redirects.table.Sound) :
    redirects.table.Sound := by
  have hfind := (hr.mirrors.find call.request).sound
  cases h with
  | kept => exact hr
  | asked => exact hfind
  | raised =>
      rw [table_raised, table_touched]
      exact ((hfind.mirrors.find _).sound.mirrors.insert _ _).sound
  | dropped request => exact (hr.mirrors.remove request).sound

/-- No count goes above the limit. -/
theorem Tallied.bounds
    (h : r.Tallied call reply redirects) (hr : r.Guarded)
    {id n : Nat} (hcount : redirects.table.peek? id = some n) :
    1 ≤ n ∧ n ≤ r.maxRedirects := by
  cases hreply : reply.isUpgrade with
  | false =>
      rcases h.peek?_of_not hreply id with hsame | ⟨-, hgone⟩
      · rw [hsame] at hcount
        exact hr.bounds id n hcount
      · rw [hgone] at hcount
        cases hcount
  | true =>
      by_cases hid : id = call.request
      · subst hid
        rw [h.peek?_self hreply] at hcount
        cases hcount
        exact ⟨Nat.le_add_left 1 _, h.upgrades_lt hreply⟩
      · rcases h.peek?_of_ne hid with hsame | ⟨hgone, -⟩
        · rw [hsame] at hcount
          exact hr.bounds id n hcount
        · rw [hgone] at hcount
          cases hcount

/-- A call that does not count from outside keeps to the limit. -/
theorem Turned.guarded
    (h : Turned ask r s call reply r' s' lookups)
    (hrecord : ∀ request, call ≠ .record request) (hr : r.Guarded) :
    r'.Guarded where
  sound := (h.tallied hrecord).sound hr.sound
  bounds id n hcount := by
    rw [h.maxRedirects_eq]
    exact (h.tallied hrecord).bounds hr hcount

/-- No upgrade is counted from outside. -/
def Unrecorded (events : List (Event σ)) : Prop :=
  ∀ request, .call (.record request) ∉ events

theorem guarded_run
    (ask : Ask σ) (config : Config) (s : σ) {events : List (Event σ)}
    (hevents : Unrecorded events) :
    let r := ((empty config).run ask s events).2.1
    r.Guarded ∧ r.redirects.table.capacity = max config.redirectCapacity 1 := by
  refine run_induction
    (P := fun r =>
      r.Guarded ∧ r.redirects.table.capacity = max config.redirectCapacity 1)
    ?_ ⟨guarded_empty config, rfl⟩
  rintro r r' s s' call reply lookups hmem hturned ⟨hguarded, hcapacity⟩
  have hrecord : ∀ request, call ≠ .record request := by
    rintro request rfl
    exact hevents request hmem
  refine ⟨hturned.guarded hrecord hguarded, ?_⟩
  rw [(hturned.tallied hrecord).capacity_eq, hcapacity]

end Guards

section Credits

/-- A request has had so many upgrades, as its count tells, and since then only others of
a set have come up. -/
def Credited (table : Recency.Cache Nat Nat) (id : Nat) (others : Finset Nat) (k : Nat) :
    Prop :=
  k = 0 ∨ ∃ n, k ≤ n ∧ table.Kept id n others

variable {table : Recency.Cache Nat Nat} {redirects : Redirects}
variable {id k : Nat} {others : Finset Nat}

/-- What is credited is counted. -/
theorem Credited.le_count
    (h : Credited table id others k) (hid : id ∉ others) :
    k ≤ (table.peek? id).getD 0 := by
  rcases h with rfl | ⟨n, hle, hkept⟩
  · exact Nat.zero_le _
  · rw [hkept.peek?_eq hid]
    exact hle

/-- A question about the request or one of the others takes no credit away. -/
theorem Credited.find
    (h : Credited table id others k) (hid : id ∉ others)
    {request : Nat} (hrequest : request = id ∨ request ∈ others) :
    Credited (table.find request).2 id others k := by
  refine h.imp_right fun ⟨n, hle, hkept⟩ => ⟨n, hle, ?_⟩
  rcases hrequest with rfl | hother
  · exact hkept.sound.kept_find (hkept.peek?_eq hid) others
  · exact hkept.find hother hid

/-- Nor does counting an upgrade of one of the others, while there is room for all. -/
theorem Credited.insert
    (h : Credited table id others k) (hid : id ∉ others)
    (hcard : others.card < table.capacity) {request : Nat} (hother : request ∈ others)
    (n : Nat) :
    Credited (table.insert request n) id others k :=
  h.imp_right fun ⟨m, hle, hkept⟩ => ⟨m, hle, hkept.insert hother hid hcard n⟩

/-- A call credits its upgrade and takes no credit away. -/
theorem Tallied.credited
    (h : r.Tallied call reply redirects) (hforget : call ≠ .forget id)
    (hr : r.redirects.table.Sound) (hid : id ∉ others)
    (hcard : others.card < r.redirects.table.capacity)
    (hrequest : call.request = id ∨ call.request ∈ others)
    (hcredit : Credited r.redirects.table id others k) :
    Credited redirects.table id others
      (k + if call.request = id && reply.isUpgrade then 1 else 0) := by
  have hasked := hcredit.find hid hrequest
  cases h with
  | kept hreply =>
      rw [hreply, Bool.and_false]
      exact hcredit
  | asked hreply =>
      rw [hreply, Bool.and_false]
      exact hasked
  | raised hreply =>
      have htwice := hasked.find hid hrequest
      rw [table_raised, table_touched, hreply, Bool.and_true]
      rcases hrequest with rfl | hother
      · -- The count is at least what was credited, and it goes up by one.
        have hle : k ≤ (r.touched call.request).upgrades call.request :=
          hasked.le_count hid
        have hsound := ((hr.mirrors.find call.request).sound.mirrors.find call.request).sound
        rw [decide_eq_true rfl]
        exact Or.inr ⟨_, Nat.succ_le_succ hle, hsound.kept_insert _ _ others⟩
      · have hne : call.request ≠ id := fun e => hid (e ▸ hother)
        rw [decide_eq_false hne]
        refine htwice.insert hid ?_ hother _
        simpa using hcard
  | dropped request =>
      have hreply : Reply.done.isUpgrade = false := rfl
      rw [hreply, Bool.and_false]
      refine hcredit.imp_right fun ⟨n, hle, hkept⟩ => ⟨n, hle, hkept.remove ?_⟩
      rintro rfl
      exact hforget rfl

end Credits

section Windows

/-- The calls of a run. -/
def calls : List (Event σ) → List Call
  | [] => []
  | .change _ :: more => calls more
  | .call call :: more => call :: calls more

theorem mem_calls {call : Call} {events : List (Event σ)} :
    call ∈ calls events ↔ .call call ∈ events := by
  induction events with
  | nil => simp [calls]
  | cons event more ih => cases event <;> simp [calls, ih]

/-- The requests that come up in a run. -/
def requests (events : List (Event σ)) : Finset Nat :=
  ((calls events).map Call.request).toFinset

/-- The number of upgrades that the calls of a run give to a request. -/
def granted (r : Upgrader) (ask : Ask σ) (s : σ) (events : List (Event σ)) (id : Nat) : Nat :=
  ((calls events).zip (r.run ask s events).1).countP fun (call, reply) =>
    call.request = id && reply.isUpgrade

theorem granted_call
    (r : Upgrader) (ask : Ask σ) (s : σ) (call : Call) (more : List (Event σ)) (id : Nat) :
    r.granted ask s (.call call :: more) id =
      (r.answer ask s call).2.2.1.granted ask (r.answer ask s call).2.2.2 more id +
        if call.request = id && (r.answer ask s call).1.isUpgrade then 1 else 0 := by
  rw [granted, calls, run, List.zip_cons_cons, List.countP_cons]
  rfl

/-- The calls of a window count nothing from outside, do not drop the count of a request
and are about it or one of the others. -/
def Calm (window : List (Event σ)) (id : Nat) (others : Finset Nat) : Prop :=
  ∀ call, .call call ∈ window →
    (∀ request, call ≠ .record request) ∧ call ≠ .forget id ∧
      (call.request = id ∨ call.request ∈ others)

theorem calm_requests
    {window : List (Event σ)} {id : Nat}
    (hwindow : Unrecorded window) (hforget : .call (.forget id) ∉ window) :
    Calm window id ((requests window).erase id) := by
  intro call hmem
  have hcall : call.request ∈ requests window := by
    rw [requests, List.mem_toFinset]
    exact List.mem_map_of_mem (mem_calls.2 hmem)
  refine ⟨?_, ?_, ?_⟩
  · rintro request rfl
    exact hwindow request hmem
  · rintro rfl
    exact hforget hmem
  · rw [Finset.mem_erase]
    exact (em (call.request = id)).imp_right fun hne => ⟨hne, hcall⟩

/-- What was credited and what is granted stay within the limit together. -/
theorem Guarded.credit_add_granted_le
    (ask : Ask σ) (s : σ)
    {id k : Nat} {others : Finset Nat} {window : List (Event σ)}
    (hr : r.Guarded) (hcard : others.card < r.redirects.table.capacity)
    (hid : id ∉ others) (hwindow : Calm window id others)
    (hcredit : Credited r.redirects.table id others k) :
    k + r.granted ask s window id ≤ r.maxRedirects := by
  induction window generalizing r s k with
  | nil => exact Nat.le_trans (hcredit.le_count hid) (hr.upgrades_le id)
  | cons event more ih =>
      have hmore : Calm more id others :=
        fun call hmem => hwindow call (List.mem_cons_of_mem event hmem)
      cases event with
      | change f => exact ih (f s) hr hcard hmore hcredit
      | call call =>
          obtain ⟨hrecord, hforget, hrequest⟩ := hwindow call List.mem_cons_self
          have hturned := turned_answer ask r s call
          have htallied := hturned.tallied hrecord
          have hcredit' := htallied.credited hforget hr.sound hid hcard hrequest hcredit
          have hnext := ih (r.answer ask s call).2.2.2 (hturned.guarded hrecord hr)
            (htallied.capacity_eq ▸ hcard) hmore hcredit'
          rw [granted_call]
          rw [hturned.maxRedirects_eq] at hnext
          omega

end Windows

section Results

/-- **The limit on upgrades holds.**  Calls that do not count from outside were made to
an upgrader, with whatever store.

* Every count is above zero and within the limit.
* An upgrade is given below the limit and adds one to the count of its own request.  Any
  other reply leaves every count as it is, but for one that is dropped.  The count of
  another request stays unless a request without a count takes its place in a full table.
* While the count of a request is not dropped and fewer other requests come up than the
  table has room for, the request has no more upgrades than the limit, whatever the
  addresses and whichever of them are remembered. -/
theorem granted_le_maxRedirects
    (ask : Ask σ) (config : Config) (s : σ) {before : List (Event σ)}
    (hbefore : Unrecorded before) :
    let r := ((empty config).run ask s before).2.1
    (∀ id n, r.counted? id = some n → 1 ≤ n ∧ n ≤ config.maxRedirects) ∧
    (∀ (t : σ) (call : Call), (∀ request, call ≠ .record request) →
      let reply := (r.answer ask t call).1
      let r' := (r.answer ask t call).2.2.1
      (reply.isUpgrade = true →
        r.upgrades call.request < config.maxRedirects ∧
          r'.counted? call.request = some (r.upgrades call.request + 1)) ∧
      (reply.isUpgrade = false → ∀ id,
        r'.counted? id = r.counted? id ∨ (call = .forget id ∧ r'.counted? id = none)) ∧
      ∀ other, other ≠ call.request →
        r'.counted? other = r.counted? other ∨
          (r'.counted? other = none ∧ r.counted? call.request = none ∧
            max config.redirectCapacity 1 ≤ r.redirects.size)) ∧
    ∀ (t : σ) (window : List (Event σ)) (id : Nat),
      Unrecorded window → .call (.forget id) ∉ window →
      ((requests window).erase id).card < max config.redirectCapacity 1 →
      r.granted ask t window id ≤ config.maxRedirects := by
  intro r
  obtain ⟨hguarded, hcapacity⟩ := guarded_run ask config s hbefore
  have hlimit : r.maxRedirects = config.maxRedirects :=
    maxRedirects_run ask config s before
  refine ⟨?_, ?_, ?_⟩
  · intro id n hcount
    rw [← hlimit]
    exact hguarded.bounds id n hcount
  · intro t call hrecord reply r'
    have htallied := (turned_answer ask r t call).tallied hrecord
    refine ⟨?_, htallied.peek?_of_not, ?_⟩
    · intro hreply
      rw [← hlimit]
      exact ⟨htallied.upgrades_lt hreply, htallied.peek?_self hreply⟩
    · intro other hother
      rw [← hcapacity]
      exact htallied.peek?_of_ne hother
  · intro t window id hwindow hforget hcard
    have hgranted : 0 + r.granted ask t window id ≤ r.maxRedirects :=
      hguarded.credit_add_granted_le ask t (hcapacity ▸ hcard) (Finset.notMem_erase id _)
        (calm_requests hwindow hforget) (Or.inl rfl)
    rw [Nat.zero_add, hlimit] at hgranted
    exact hgranted

/-- Room for two requests and three upgrades each, with a store that breaks off at every
other key. -/
theorem granted_le_three :
    let config : Config := { Config.standard with redirectCapacity := 2, maxRedirects := 3 }
    let ask : Ask Nat := fun n _ =>
      (if n % 2 = 0 then .found (some "[\x7b\"r\":[\x7b\"d\":1\x7d]\x7d]") else .panicked,
        n + 1)
    let before : List (Event Nat) :=
      [.call (.upgrade "http://[::1]/" 1), .call (.fromCache "http://[::1]/" 2),
        .call (.forget 2)]
    let window : List (Event Nat) :=
      [.call (.upgrade "http://[::1]/" 1), .change (· + 1),
        .call (.fromCache "http://[::1]/" 1), .call (.upgrade "http://[::2]/" 2),
        .call (.upgrade "http://[::1]/" 1), .call (.redirects 2)]
    let r := ((empty config).run ask 0 before).2.1
    Unrecorded before ∧ Unrecorded window ∧ .call (.forget 1) ∉ window ∧
      ((requests window).erase 1).card < 2 ∧
      (∀ n, r.counted? 1 = some n → 1 ≤ n ∧ n ≤ 3) ∧
      r.granted ask 0 window 1 ≤ 3 := by
  intro config ask before window r
  have hbefore : Unrecorded before := by simp [Unrecorded, before]
  have hwindow : Unrecorded window := by simp [Unrecorded, window]
  have hforget : .call (.forget 1) ∉ window := by simp [window]
  have hcard : ((requests window).erase 1).card < 2 := by decide
  obtain ⟨hcounts, -, hgranted⟩ := granted_le_maxRedirects ask config 0 hbefore
  exact ⟨hbefore, hwindow, hforget, hcard, hcounts 1,
    hgranted 0 window 1 hwindow hforget hcard⟩

end Results

end Upgrader
end Upgrade
end RequestGuard
