import RequestGuard.Proofs.Guard.Rules
import RequestGuard.Proofs.Recency.Contents
import RequestGuard.Proofs.Tracking.Document

/-!
# What a guard blocks as a tracker

A guard remembers the hosts of entities it was asked about, and which hosts it lets pass.

* `Remembers`: what is remembered about an entity is what the loaded trackers say.  Every
  call keeps this.
* `Remembers.blocksTracker_eq`: so a question is answered as by the trackers alone, whatever is
  remembered and whatever was pushed out.
* `allowed_run`: the hosts that are let pass are a function of the calls of a run.
* `blocksTracker_run_iff_blocks`: after a run, a question is answered as the document of the
  trackers says.
-/

namespace RequestGuard
namespace Guard

open Files

section Calls

/-- The calls of a run. -/
def calls : List Event → List Call
  | [] => []
  | .files _ :: more => calls more
  | .call call :: more => call :: calls more

theorem mem_calls (events : List Event) (call : Call) :
    call ∈ calls events ↔ .call call ∈ events := by
  induction events with
  | nil => simp [calls]
  | cons event more ih => cases event <;> simp [calls, ih]

end Calls

section Listed

variable {g : Guard} {l : TrackerList}

theorem isBlock_decide (l : TrackerList) (base host : String) :
    (l.decide (.ofHosts base host)).isBlock = l.isTracker host := by
  rw [TrackerList.decide, Decision.blockIf, Request.ofHosts]
  cases l.isTracker host <;> rfl

theorem relatedHosts_fst {base : String}
    (h : ∀ hosts, g.related.peek? base = some hosts → hosts = l.sameEntity base) :
    (g.relatedHosts l base).1 = l.sameEntity base := by
  rw [relatedHosts]
  split
  · next hosts hpeek => exact h hosts hpeek
  · rfl

theorem allowed_relatedHosts (g : Guard) (l : TrackerList) (base : String) :
    (g.relatedHosts l base).2.allowed = g.allowed := by
  rw [relatedHosts]
  split <;> rfl

theorem related_relatedHosts (g : Guard) (l : TrackerList) (base : String) :
    (g.relatedHosts l base).2.related = g.related ∨
      (g.relatedHosts l base).2.related = g.related.insert base (l.sameEntity base) := by
  rw [relatedHosts]
  split
  · exact Or.inl rfl
  · exact Or.inr rfl

/-- A question that goes by a list leaves the guard, or the guard with what is remembered
about the base host. -/
theorem blocksListed_snd (g : Guard) (l : TrackerList) (base host : String) :
    (g.blocksListed l base host).2 = g ∨
      (g.blocksListed l base host).2 = (g.relatedHosts l base).2 := by
  rw [blocksListed]
  split
  · exact Or.inl rfl
  · split
    · exact Or.inr rfl
    · exact Or.inl rfl

theorem blocksListed_fst {base : String}
    (h : ∀ hosts, g.related.peek? base = some hosts → hosts = l.sameEntity base)
    (host : String) :
    (g.blocksListed l base host).1 = l.blocks g.allowed base host := by
  have hhosts := relatedHosts_fst h
  rw [blocksListed, isBlock_decide]
  split
  · next hpass =>
      rw [← Bool.not_eq_false'] at hpass
      simp only [Bool.not_or, Bool.not_not] at hpass
      rw [TrackerList.blocks]
      simp only [hpass, Bool.false_and]
  · next hpass =>
      have hgo : (!base.isEmpty && !host.isEmpty && Host.thirdParty base host) = true := by
        simpa [and_assoc] using hpass
      rw [TrackerList.blocks, hgo, Bool.true_and]
      cases l.isTracker host with
      | false => rfl
      | true =>
          rcases hturn : g.relatedHosts l base with ⟨hosts, g'⟩
          have hallowed : g'.allowed = g.allowed := by
            rw [← g.allowed_relatedHosts l base, hturn]
          rw [hturn] at hhosts
          obtain rfl : hosts = l.sameEntity base := hhosts
          rw [if_pos rfl, Bool.true_and, ← hallowed]

end Listed

section Turns

variable (g : Guard) (t : Tree) (base host : String)

theorem blocksTracker_eq_of_now {l : TrackerList} (h : g.now t .tracking = some l) :
    (g.blocksTracker t base host).1 =
        ((g.trackingNow t).2.2.blocksListed l (Host.normalize base) (Host.normalize host)).1 ∧
      (g.blocksTracker t base host).2.2 =
        ((g.trackingNow t).2.2.blocksListed l (Host.normalize base) (Host.normalize host)).2 := by
  have hnow : (g.trackingNow t).1 = some l := (g.trackingNow_fst t).trans h
  rcases hturn : g.trackingNow t with ⟨found, log, g'⟩
  rw [hturn] at hnow
  obtain rfl : found = some l := hnow
  simp only [blocksTracker, hturn, and_self]

theorem blocksTracker_eq_of_none (h : g.now t .tracking = none) :
    (g.blocksTracker t base host).1 = false ∧
      (g.blocksTracker t base host).2.2 = (g.trackingNow t).2.2 := by
  have hnow : (g.trackingNow t).1 = none := (g.trackingNow_fst t).trans h
  rcases hturn : g.trackingNow t with ⟨found, log, g'⟩
  rw [hturn] at hnow
  obtain rfl : found = none := hnow
  simp only [blocksTracker, hturn, and_self]

theorem allowed_blocksTracker : (g.blocksTracker t base host).2.2.allowed = g.allowed := by
  rcases Option.eq_none_or_eq_some (g.now t .tracking) with h | ⟨l, h⟩
  · rw [(g.blocksTracker_eq_of_none t base host h).2]
    rfl
  · rw [(g.blocksTracker_eq_of_now t base host h).2]
    rcases blocksListed_snd (g.trackingNow t).2.2 l (Host.normalize base)
      (Host.normalize host) with hsame | hmore
    · rw [hsame]
      rfl
    · rw [hmore, allowed_relatedHosts]
      rfl

/-- A question about a tracker adds to what is remembered what the trackers say. -/
theorem related_blocksTracker :
    (g.blocksTracker t base host).2.2.related = g.related ∨
      ∃ l, g.now t .tracking = some l ∧
        (g.blocksTracker t base host).2.2.related =
          g.related.insert (Host.normalize base) (l.sameEntity (Host.normalize base)) := by
  rcases Option.eq_none_or_eq_some (g.now t .tracking) with h | ⟨l, h⟩
  · rw [(g.blocksTracker_eq_of_none t base host h).2]
    exact Or.inl rfl
  · rw [(g.blocksTracker_eq_of_now t base host h).2]
    rcases blocksListed_snd (g.trackingNow t).2.2 l (Host.normalize base)
      (Host.normalize host) with hsame | hmore
    · rw [hsame]
      exact Or.inl rfl
    · rw [hmore]
      exact (related_relatedHosts (g.trackingNow t).2.2 l _).imp id fun hinsert => ⟨l, h, hinsert⟩

theorem allow_related : (g.allow host).related = g.related := by
  rw [allow]
  split <;> rfl

theorem blocksAd_memory (url : String) (resources : ResourceSet) (regional : Bool) :
    (g.blocksAd t base url resources regional).2.2.related = g.related ∧
      (g.blocksAd t base url resources regional).2.2.allowed = g.allowed := by
  rw [blocksAd]
  split
  · exact ⟨rfl, rfl⟩
  · next r hr =>
      have hregional : ∀ g : Guard, (g.blocksRegional t r).2.2.related = g.related ∧
          (g.blocksRegional t r).2.2.allowed = g.allowed := by
        intro g
        rw [blocksRegional]
        split <;> next hnow => exact ⟨congrArg (·.2.2.related) hnow.symm,
          congrArg (·.2.2.allowed) hnow.symm⟩
      rw [blocksRequest_eq]
      split
      · exact ⟨rfl, rfl⟩
      · split
        · exact hregional _
        · exact ⟨rfl, rfl⟩

theorem secureUrl_memory (url : String) (request : Nat) :
    (g.secureUrl t url request).2.2.related = g.related ∧
      (g.secureUrl t url request).2.2.allowed = g.allowed := by
  rw [secureUrl]
  split <;> next hnow => exact ⟨congrArg (·.2.2.related) hnow.symm,
    congrArg (·.2.2.allowed) hnow.symm⟩

theorem secureUrlFromCache_memory (url : String) (request : Nat) :
    (g.secureUrlFromCache url request).2.related = g.related ∧
      (g.secureUrlFromCache url request).2.allowed = g.allowed := by
  rw [secureUrlFromCache]
  split <;> exact ⟨rfl, rfl⟩

end Turns

section Memory

variable {g : Guard}

/-- What is remembered about the entity of a base host is what the loaded trackers say. -/
def Remembers (g : Guard) : Prop :=
  ∀ base hosts, g.related.peek? base = some hosts →
    ∃ l, g.tracking.value? = some l ∧ hosts = l.sameEntity base

theorem remembers_of_empty (h : ∀ base, g.related.peek? base = none) : g.Remembers := by
  intro base hosts hpeek
  rw [h base] at hpeek
  cases hpeek

theorem related_answer (g : Guard) (t : Tree) {call : Call}
    (hcall : ∀ base host, call ≠ .tracker base host) :
    (g.answer t call).2.2.related = g.related := by
  cases call with
  | tracker base host => exact absurd rfl (hcall base host)
  | allow host => exact g.allow_related host
  | ad tab url resources regional => exact (g.blocksAd_memory t tab url resources regional).1
  | secure url request => exact (g.secureUrl_memory t url request).1
  | secureFromCache url request => exact (g.secureUrlFromCache_memory url request).1
  | _ => rfl

/-- What is remembered stays right, since the trackers stay and a question adds what they
say. -/
theorem Remembers.answer (h : g.Remembers) (t : Tree) (call : Call) :
    (g.answer t call).2.2.Remembers := by
  have hkept : ∀ {base : String} {hosts : List String}, g.related.peek? base = some hosts →
      ∃ l, (g.answer t call).2.2.tracking.value? = some l ∧ hosts = l.sameEntity base := by
    intro base hosts hpeek
    obtain ⟨l, hl, hhosts⟩ := h base hosts hpeek
    exact ⟨l, value?_answer (f := .tracking) hl t call, hhosts⟩
  intro base hosts hpeek
  by_cases hcall : ∃ base host, call = .tracker base host
  · obtain ⟨page, host, rfl⟩ := hcall
    rcases g.related_blocksTracker t page host with hsame | ⟨l, hnow, hinsert⟩
    · exact hkept (hsame ▸ hpeek)
    · replace hpeek := hinsert ▸ hpeek
      have hvalue : (g.answer t (.tracker page host)).2.2.tracking.value? = some l := by
        have hrules := g.rules_answer t (.tracker page host) .tracking
        exact (congrArg Lazy.value? hrules).trans (value?_of_now hnow)
      -- the entry is what this question has put in, or an older one that was not pushed out
      by_cases hbase : base = Host.normalize page
      · subst hbase
        rw [Recency.Cache.peek?_insert_self] at hpeek
        exact ⟨l, hvalue, (Option.some.inj hpeek).symm⟩
      · rcases g.related.peek?_insert_of_ne (l.sameEntity (Host.normalize page)) hbase with
          hold | ⟨hgone, -, -⟩
        · exact hkept (hold ▸ hpeek)
        · rw [hgone] at hpeek
          cases hpeek
  · have hrelated := g.related_answer t fun base host e => hcall ⟨base, host, e⟩
    exact hkept (hrelated ▸ hpeek)

/-- Other files change nothing in what is remembered. -/
theorem Remembers.follow (h : g.Remembers) (t : Tree) : (g.follow t).Remembers :=
  h

theorem Remembers.blocksTracker_eq (h : g.Remembers) (t : Tree) (base host : String) :
    (g.blocksTracker t base host).1 =
      (g.now t .tracking).any fun l : TrackerList =>
        l.blocks g.allowed (Host.normalize base) (Host.normalize host) := by
  rcases Option.eq_none_or_eq_some (g.now t .tracking) with hnow | ⟨l, hnow⟩
  · rw [(g.blocksTracker_eq_of_none t base host hnow).1, hnow]
    rfl
  · have hsays : ∀ hosts, (g.trackingNow t).2.2.related.peek? (Host.normalize base) = some hosts →
        hosts = l.sameEntity (Host.normalize base) := by
      intro hosts hpeek
      obtain ⟨l', hl', hhosts⟩ := h (Host.normalize base) hosts hpeek
      have hsame : g.now t .tracking = some l' := now_of_value? (f := .tracking) hl' t
      rw [hnow] at hsame
      rw [Option.some.inj hsame]
      exact hhosts
    have hallowed : (g.trackingNow t).2.2.allowed = g.allowed := rfl
    rw [(g.blocksTracker_eq_of_now t base host hnow).1, blocksListed_fst hsays, hallowed, hnow,
      Option.any_some]

end Memory

section Allowed

/-- The hosts that are let pass after a call. -/
def allowedAfter (allowed : List String) : Call → List String
  | .allow host =>
    let host := Host.normalize host
    if host.isEmpty || allowed.contains host then allowed else allowed ++ [host]
  | _ => allowed

theorem allowed_answer (g : Guard) (t : Tree) (call : Call) :
    (g.answer t call).2.2.allowed = allowedAfter g.allowed call := by
  cases call with
  | tracker base host => exact g.allowed_blocksTracker t base host
  | allow host =>
      rw [answer, allow, allowedAfter]
      split <;> rfl
  | ad tab url resources regional => exact (g.blocksAd_memory t tab url resources regional).2
  | secure url request => exact (g.secureUrl_memory t url request).2
  | secureFromCache url request => exact (g.secureUrlFromCache_memory url request).2
  | _ => rfl

theorem allowed_run (g : Guard) (t : Tree) (events : List Event) :
    (g.run t events).2.allowed = (calls events).foldl allowedAfter g.allowed := by
  induction events generalizing g t with
  | nil => rfl
  | cons event more ih =>
      cases event with
      | files t => exact ih (g.follow t) t
      | call call =>
          show ((g.answer t call).2.2.run t more).2.allowed = _
          rw [ih, allowed_answer]
          rfl

theorem mem_allowedAfter {h : String} (hne : h ≠ "") (allowed : List String) (call : Call) :
    h ∈ allowedAfter allowed call ↔
      h ∈ allowed ∨ ∃ x, call = .allow x ∧ Host.normalize x = h := by
  cases call with
  | allow host =>
      simp only [allowedAfter, Call.allow.injEq, exists_eq_left']
      split
      · next hold =>
          constructor
          · exact Or.inl
          · rintro (hmem | rfl)
            · exact hmem
            · simpa [hne] using hold
      · rw [List.mem_append, List.mem_singleton, eq_comm (a := h)]
  | _ => simp [allowedAfter]

theorem mem_foldl_allowedAfter {h : String} (hne : h ≠ "") (allowed : List String)
    (made : List Call) :
    h ∈ made.foldl allowedAfter allowed ↔
      h ∈ allowed ∨ ∃ x, .allow x ∈ made ∧ Host.normalize x = h := by
  induction made generalizing allowed with
  | nil => simp
  | cons call more ih =>
      rw [List.foldl_cons, ih, mem_allowedAfter hne, or_assoc]
      refine or_congr_right ?_
      constructor
      · rintro (⟨x, rfl, hx⟩ | ⟨x, hmem, hx⟩)
        · exact ⟨x, List.mem_cons_self, hx⟩
        · exact ⟨x, List.mem_cons_of_mem call hmem, hx⟩
      · rintro ⟨x, hmem, hx⟩
        rcases List.mem_cons.1 hmem with rfl | hmem
        · exact Or.inl ⟨x, rfl, hx⟩
        · exact Or.inr ⟨x, hmem, hx⟩

theorem mem_allowed_run {h : String} (hne : h ≠ "") (g : Guard) (t : Tree)
    (events : List Event) :
    h ∈ (g.run t events).2.allowed ↔
      h ∈ g.allowed ∨ ∃ x, .call (.allow x) ∈ events ∧ Host.normalize x = h := by
  rw [allowed_run, mem_foldl_allowedAfter hne]
  simp only [mem_calls]

end Allowed

section Runs

/-- A guard whose trackers may be loaded already. -/
def startWith (c : Config) (makeMatcher : Matcher.Factory) (tracking : Lazy TrackerList) :
    Guard :=
  { start c makeMatcher with tracking }

/-- A document that can be read describes a list.  If after any run from the start a list is
gone by that the document describes, a question is answered as the document says, where
those hosts are let pass that always are and those that a call of the run names. -/
theorem blocksTracker_run_iff_blocks {bytes : List UInt8} {d : TrackerList.Document}
    (hread : TrackerList.Document.record.read.ofText bytes = .ok d)
    (c : Config) (make : Matcher.Factory) (tracking : Lazy TrackerList)
    (t : Tree) (events : List Event) :
    (∃ l, TrackerList.ofBytes bytes = .ok l ∧ l.Describes d) ∧
      ∀ (l : TrackerList) (files : Tree), l.Describes d →
        let g := ((startWith c make tracking).run t events).2
        (g.trackingNow files).1 = some l →
          ∀ base host, (g.blocksTracker files base host).1 = true ↔
            d.Blocks (fun h => h ∈ alwaysAllowed ∨
                ∃ x, .call (.allow x) ∈ events ∧ Host.normalize x = h)
              (Host.normalize base) (Host.normalize host) := by
  constructor
  · exact ⟨_, by rw [TrackerList.ofBytes, hread], TrackerList.describes_ofDocument d⟩
  · intro l files hl g hnow base host
    have hremembers : g.Remembers :=
      run_induction (fun _ t call h => h.answer t call) (fun _ t h => h.follow t)
        (remembers_of_empty fun _ => Recency.Cache.peek?_empty _ _) t events
    have hanswer : (g.blocksTracker files base host).1 =
        l.blocks g.allowed (Host.normalize base) (Host.normalize host) := by
      rw [hremembers.blocksTracker_eq, ← trackingNow_fst, hnow, Option.any_some]
    have hblocks : d.Blocks (· ∈ g.allowed) (Host.normalize base) (Host.normalize host) ↔
        d.Blocks (fun h => h ∈ alwaysAllowed ∨
            ∃ x, .call (.allow x) ∈ events ∧ Host.normalize x = h)
          (Host.normalize base) (Host.normalize host) :=
      TrackerList.Document.blocks_congr fun hne =>
        mem_allowed_run hne (startWith c make tracking) t events
    rw [hanswer, hl.blocks_eq_true_iff, hblocks]

theorem blocksTracker_run_iff_blocks_one :
    let bytes :=
      Text.Utf8.bytes "\x7b\"trackers\":[\"T.io\"],\"first_party\":\x7b\"a.com\":[\"b.t.io\"]\x7d\x7d"
    let d : TrackerList.Document := ⟨["T.io"], [("a.com", ["b.t.io"])]⟩
    let l := TrackerList.ofDocument d
    let events := [Event.call (.allow "w.t.io"), .files .empty, .call (.tracker "a.com" "t.io")]
    let g := ((startWith .standard filterMatcher ⟨.tracking, some l, true, 0⟩).run .empty events).2
    TrackerList.Document.record.read.ofText bytes = .ok d ∧ l.Describes d ∧
      (g.trackingNow .empty).1 = some l ∧
      ((g.blocksTracker .empty "a.com" "c.t.io").1 = true ↔
        d.Blocks (fun h => h ∈ alwaysAllowed ∨
            ∃ x, .call (.allow x) ∈ events ∧ Host.normalize x = h)
          (Host.normalize "a.com") (Host.normalize "c.t.io")) := by
  intro bytes d l events g
  have hread : TrackerList.Document.record.read.ofText bytes = .ok d := by
    have hoption : (TrackerList.Document.record.read.ofText bytes).toOption = some d := by
      unfold bytes d
      decide +kernel
    generalize TrackerList.Document.record.read.ofText bytes = read at hoption ⊢
    cases read with
    | error fault => cases hoption
    | ok d' => exact congrArg Except.ok (Option.some.inj hoption)
  have hl : l.Describes d := TrackerList.describes_ofDocument d
  have hstart : ((startWith .standard filterMatcher ⟨.tracking, some l, true, 0⟩).rules
      .tracking).value? = some l := rfl
  have hnow : (g.trackingNow .empty).1 = some l := by
    rw [trackingNow_fst]
    exact now_of_value? (value?_run hstart .empty events) .empty
  have h := (blocksTracker_run_iff_blocks hread .standard filterMatcher
    ⟨.tracking, some l, true, 0⟩ .empty events).2 l .empty hl hnow "a.com" "c.t.io"
  exact ⟨hread, hl, hnow, h⟩

end Runs

end Guard
end RequestGuard
