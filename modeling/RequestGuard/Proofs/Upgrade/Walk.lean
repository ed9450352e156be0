import RequestGuard.Upgrade.Call

/-!
# What a walk over the keys of a host finds

A store may answer as fixed rules say (`Serves`), or do so where it answers at all and
fail or break off elsewhere (`Follows`).

* `walk_serves`: with a store that serves rules, a walk ends as the rules say.
* `walk_recorded`: what a walk asks for can be written down without changing it.  `Walked`
  says how the walk ends and what was asked for, in terms of what the store would reply to
  all keys (`heard`).
* `exists_of_walk_eq_upgrade`: an address comes from a payload that the store has answered.
* `mem_of_walk_eq_upgrade`, `forall_of_walk_eq_nothing`: what the end of a walk tells of
  the rules that the store follows.
-/

namespace RequestGuard
namespace Upgrade

variable {σ : Type}

section Rules

/-- The payload of each key that has one. -/
abbrev Rules : Type :=
  String → Option String

/-- What the rules under a key make of an address. -/
def Rules.under? (rules : Rules) (url key : String) : Option String :=
  (rules key).bind fun payload => upgraded? payload url

/-- What the rules make of an address: the first result under the keys of its host. -/
def Rules.answer? (rules : Rules) (url : String) : Option String :=
  (insecureHost? url).bind fun host => (keys host).findSome? (rules.under? url)

/-- The store answers every key as the rules say. -/
def Serves (ask : Ask σ) (rules : Rules) : Prop :=
  ∀ s key, (ask s key).1 = .found (rules key)

/-- As long as `P` holds of it, the store answers every key as the rules say, and `P` goes on
to hold. -/
def ServesWithin (P : σ → Prop) (ask : Ask σ) (rules : Rules) : Prop :=
  ∀ s, P s → ∀ key, (ask s key).1 = .found (rules key) ∧ P (ask s key).2

/-- Where the store answers a key, it answers as the rules say.  It may fail or break
off at any key. -/
def Follows (ask : Ask σ) (rules : Rules) : Prop :=
  ∀ s key payload, (ask s key).1 = .found payload → payload = rules key

end Rules

section Serving

variable {ask : Ask σ} {rules : Rules} (url : String)

/-- A store that serves rules as long as it is asked lets a walk end as the rules say. -/
theorem walk_servesWithin {P : σ → Prop} (hask : ServesWithin P ask rules) (ks : List String)
    {s : σ} (hs : P s) :
    (walk ask url ks false s).1 =
      match ks.findSome? (rules.under? url) with
      | some v => .upgrade v
      | none => .nothing := by
  induction ks generalizing s with
  | nil => rfl
  | cons key more ih =>
      obtain ⟨hfound, hs'⟩ := hask s hs key
      rcases hreply : ask s key with ⟨reply, s'⟩
      rw [hreply] at hfound hs'
      obtain rfl : reply = .found (rules key) := hfound
      rw [walk, hreply, List.findSome?_cons]
      cases hunder : rules.under? url key with
      | some v =>
          have hbind : ((rules key).bind fun p => upgraded? p url) = some v := hunder
          simp only [hbind]
      | none =>
          have hbind : ((rules key).bind fun p => upgraded? p url) = none := hunder
          simp only [hbind]
          exact ih hs'

/-- A store that serves rules lets a walk end as the rules say. -/
theorem walk_serves (hask : Serves ask rules) (ks : List String) (s : σ) :
    (walk ask url ks false s).1 =
      match ks.findSome? (rules.under? url) with
      | some v => .upgrade v
      | none => .nothing :=
  walk_servesWithin url (P := fun _ => True) (fun s _ key => ⟨hask s key, trivial⟩) ks trivial

/-- What every lookup keeps of a store, a walk keeps. -/
theorem walk_keeps {P : σ → Prop} (hask : ∀ s, P s → ∀ key, P (ask s key).2) (ks : List String)
    (failed : Bool) {s : σ} (hs : P s) : P (walk ask url ks failed s).2.2 := by
  induction ks generalizing failed s with
  | nil => exact hs
  | cons key more ih =>
      have hs' := hask s hs key
      rcases hreply : ask s key with ⟨reply, s'⟩
      rw [hreply] at hs'
      rw [walk, hreply]
      cases reply with
      | panicked => exact hs'
      | failed f => exact ih true hs'
      | found payload =>
          dsimp only
          split
          · exact hs'
          · exact ih failed hs'

end Serving

section Records

/-- A key that was asked for, and the reply. -/
abbrev Lookup : Type :=
  String × Reply

/-- A store that writes down what it is asked for and what it replies. -/
def recorded (ask : Ask σ) : Ask (σ × List Lookup) := fun (s, seen) key =>
  ((ask s key).1, (ask s key).2, seen ++ [(key, (ask s key).1)])

/-- What a walk asks for. -/
def walkLookups (ask : Ask σ) (url : String) (ks : List String) (s : σ) : List Lookup :=
  (walk (recorded ask) url ks false (s, [])).2.2.2

/-- What the store replies when it is asked for all keys in turn. -/
def heard (ask : Ask σ) : List String → σ → List Lookup
  | [], _ => []
  | key :: more, s => (key, (ask s key).1) :: heard ask more (ask s key).2

theorem map_fst_heard (ask : Ask σ) (ks : List String) (s : σ) :
    (heard ask ks s).map Prod.fst = ks := by
  induction ks generalizing s with
  | nil => rfl
  | cons key more ih => rw [heard, List.map_cons, ih]

/-- A store that serves rules replies to all keys as the rules say. -/
theorem heard_servesWithin {P : σ → Prop} {ask : Ask σ} {rules : Rules}
    (hask : ServesWithin P ask rules) {s : σ} (hs : P s) (ks : List String) :
    heard ask ks s = ks.map fun key => (key, .found (rules key)) := by
  induction ks generalizing s with
  | nil => rfl
  | cons key more ih =>
      obtain ⟨hfound, hs'⟩ := hask s hs key
      rw [heard, List.map_cons, hfound, ih hs']

theorem exists_of_mem_heard
    {ask : Ask σ} {ks : List String} {s : σ} {e : Lookup} (he : e ∈ heard ask ks s) :
    e.1 ∈ ks ∧ ∃ t, (ask t e.1).1 = e.2 := by
  induction ks generalizing s with
  | nil => cases he
  | cons key more ih =>
      rcases List.mem_cons.1 he with rfl | hmore
      · exact ⟨List.mem_cons_self, s, rfl⟩
      · exact (ih hmore).imp_left (List.mem_cons_of_mem key)

/-- A walk goes on after a reply: no address comes from it, and the store did not break off. -/
def Reply.Passes (url : String) : Reply → Prop
  | .found payload => (payload.bind fun p => upgraded? p url) = none
  | .failed _ => True
  | .panicked => False

/-- How a walk ends where the store would reply so to all keys, and what it asks for: up to
the first reply that it does not go on after.  `failed` says whether a key before was not
answered. -/
inductive Walked (url : String) (failed : Bool) (replies lookups : List Lookup) : Ending → Prop
  | upgrade {before after : List Lookup} {key payload v : String}
      (hreplies : replies = before ++ (key, .found (some payload)) :: after)
      (hlookups : lookups = before ++ [(key, .found (some payload))])
      (hbefore : ∀ x ∈ before, x.2.Passes url)
      (hv : upgraded? payload url = some v) :
      Walked url failed replies lookups (.upgrade v)
  | panicked {before after : List Lookup} {key : String}
      (hreplies : replies = before ++ (key, .panicked) :: after)
      (hlookups : lookups = before ++ [(key, .panicked)])
      (hbefore : ∀ x ∈ before, x.2.Passes url) :
      Walked url failed replies lookups .panicked
  | nothing
      (hlookups : lookups = replies)
      (hfailed : failed = false ∧ ∀ x ∈ replies, ∃ payload, x.2 = .found payload)
      (hall : ∀ x ∈ replies, x.2.Passes url) :
      Walked url failed replies lookups .nothing
  | failed
      (hlookups : lookups = replies)
      (hfailed : failed = true ∨ ∃ x ∈ replies, ∃ f, x.2 = .failed f)
      (hall : ∀ x ∈ replies, x.2.Passes url) :
      Walked url failed replies lookups .failed

section Steps

variable {url : String} {failed : Bool} {replies lookups : List Lookup} {ending : Ending}
variable {key : String}

/-- A key that was not answered comes before the others. -/
theorem Walked.cons_failed
    (f : Failure) (h : Walked url true replies lookups ending) :
    Walked url failed ((key, .failed f) :: replies) ((key, .failed f) :: lookups) ending := by
  have hpass : (Reply.failed f).Passes url := trivial
  cases h with
  | upgrade hreplies hlookups hbefore hv =>
      exact .upgrade (congrArg _ hreplies) (congrArg _ hlookups)
        (List.forall_mem_cons.2 ⟨hpass, hbefore⟩) hv
  | panicked hreplies hlookups hbefore =>
      exact .panicked (congrArg _ hreplies) (congrArg _ hlookups)
        (List.forall_mem_cons.2 ⟨hpass, hbefore⟩)
  | nothing _ hfailed => cases hfailed.1
  | failed hlookups _ hall =>
      exact .failed (congrArg _ hlookups) (Or.inr ⟨_, List.mem_cons_self, f, rfl⟩)
        (List.forall_mem_cons.2 ⟨hpass, hall⟩)

/-- A key without an address comes before the others. -/
theorem Walked.cons_found
    {payload : Option String} (hpass : (Reply.found payload).Passes url)
    (h : Walked url failed replies lookups ending) :
    Walked url failed ((key, .found payload) :: replies) ((key, .found payload) :: lookups)
      ending := by
  cases h with
  | upgrade hreplies hlookups hbefore hv =>
      exact .upgrade (congrArg _ hreplies) (congrArg _ hlookups)
        (List.forall_mem_cons.2 ⟨hpass, hbefore⟩) hv
  | panicked hreplies hlookups hbefore =>
      exact .panicked (congrArg _ hreplies) (congrArg _ hlookups)
        (List.forall_mem_cons.2 ⟨hpass, hbefore⟩)
  | nothing hlookups hfailed hall =>
      exact .nothing (congrArg _ hlookups)
        ⟨hfailed.1, List.forall_mem_cons.2 ⟨⟨payload, rfl⟩, hfailed.2⟩⟩
        (List.forall_mem_cons.2 ⟨hpass, hall⟩)
  | failed hlookups hfailed hall =>
      refine .failed (congrArg _ hlookups) ?_ (List.forall_mem_cons.2 ⟨hpass, hall⟩)
      exact hfailed.imp_right fun ⟨x, hx, hf⟩ => ⟨x, List.mem_cons_of_mem _ hx, hf⟩

end Steps

/-- Writing down what a walk asks for does not change the walk. -/
theorem walk_recorded
    (ask : Ask σ) (url : String) (ks : List String) (failed : Bool) (s : σ)
    (seen : List Lookup) :
    ∃ lookups : List Lookup,
      walk (recorded ask) url ks failed (s, seen) =
        ((walk ask url ks failed s).1, (walk ask url ks failed s).2.1,
          (walk ask url ks failed s).2.2, seen ++ lookups) ∧
      Walked url failed (heard ask ks s) lookups (walk ask url ks failed s).1 := by
  induction ks generalizing failed s seen with
  | nil =>
      refine ⟨[], by simp [walk], ?_⟩
      cases failed with
      | false => exact .nothing rfl ⟨rfl, by simp [heard]⟩ (by simp [heard])
      | true => exact .failed rfl (Or.inl rfl) (by simp [heard])
  | cons key more ih =>
      rcases hreply : ask s key with ⟨reply, s'⟩
      have hrecorded : recorded ask (s, seen) key = (reply, s', seen ++ [(key, reply)]) := by
        rw [recorded, hreply]
      rw [walk, walk, heard, hrecorded, hreply]
      cases reply with
      | panicked =>
          exact ⟨[(key, .panicked)], rfl,
            .panicked (List.nil_append _).symm (List.nil_append _).symm (List.forall_mem_nil _)⟩
      | failed f =>
          obtain ⟨lookups, heq, hwalked⟩ := ih true s' (seen ++ [(key, .failed f)])
          exact ⟨(key, .failed f) :: lookups, by simp [heq], hwalked.cons_failed f⟩
      | found payload =>
          dsimp only
          cases hfound : payload.bind fun p => upgraded? p url with
          | some v =>
              obtain ⟨p, rfl, hv⟩ := Option.bind_eq_some_iff.1 hfound
              exact ⟨[(key, .found (some p))], rfl, .upgrade (List.nil_append _).symm
                (List.nil_append _).symm (List.forall_mem_nil _) hv⟩
          | none =>
              obtain ⟨lookups, heq, hwalked⟩ := ih failed s' (seen ++ [(key, .found payload)])
              exact ⟨(key, .found payload) :: lookups, by simp [heq], hwalked.cons_found hfound⟩

/-- What a walk asks for is the first that is heard of the store. -/
theorem Walked.isPrefix
    {url : String} {failed : Bool} {replies lookups : List Lookup} {ending : Ending}
    (h : Walked url failed replies lookups ending) : lookups <+: replies := by
  cases h with
  | @upgrade _ after _ _ _ hreplies hlookups | @panicked _ after _ hreplies hlookups =>
      rw [hreplies, hlookups]
      exact ⟨after, (List.append_cons _ _ _).symm⟩
  | nothing hlookups | failed hlookups => exact hlookups ▸ List.prefix_rfl

theorem Walked.subset
    {url : String} {failed : Bool} {replies lookups : List Lookup} {ending : Ending}
    (h : Walked url failed replies lookups ending) : lookups ⊆ replies :=
  h.isPrefix.subset

/-- The first key is always asked for. -/
theorem Walked.head?_eq
    {url : String} {failed : Bool} {replies lookups : List Lookup} {ending : Ending}
    (h : Walked url failed replies lookups ending) : lookups.head? = replies.head? := by
  cases h with
  | upgrade hreplies hlookups | panicked hreplies hlookups =>
      rw [hreplies, hlookups, List.head?_append, List.head?_append]
      rfl
  | nothing hlookups | failed hlookups => rw [hlookups]

theorem walked_walk (ask : Ask σ) (url : String) (ks : List String) (s : σ) :
    Walked url false (heard ask ks s) (walkLookups ask url ks s)
      (walk ask url ks false s).1 := by
  obtain ⟨lookups, heq, hwalked⟩ := walk_recorded ask url ks false s []
  rw [walkLookups, heq]
  exact hwalked

end Records

section Endings

variable {ask : Ask σ} {rules : Rules} {url : String} {ks : List String} {s : σ}

/-- A walk that ends with an address has it from the payload that the store has answered
for one of the keys. -/
theorem exists_of_walk_eq_upgrade {v : String}
    (hwalk : (walk ask url ks false s).1 = .upgrade v) :
    ∃ key ∈ ks, ∃ t payload, (ask t key).1 = .found (some payload) ∧
      upgraded? payload url = some v := by
  have hwalked := walked_walk ask url ks s
  rw [hwalk] at hwalked
  cases hwalked with
  | upgrade hreplies _ _ hv =>
      obtain ⟨hkey, t, hreply⟩ := exists_of_mem_heard (hreplies ▸ List.mem_append_cons_self)
      exact ⟨_, hkey, t, _, hreply, hv⟩

/-- A walk that ends with an address has it from the rules of one of the keys. -/
theorem mem_of_walk_eq_upgrade
    (hask : Follows ask rules) {v : String}
    (hwalk : (walk ask url ks false s).1 = .upgrade v) :
    ∃ key ∈ ks, rules.under? url key = some v := by
  obtain ⟨key, hkey, t, payload, hfound, hv⟩ := exists_of_walk_eq_upgrade hwalk
  refine ⟨key, hkey, ?_⟩
  rw [Rules.under?, ← hask t key _ hfound]
  exact hv

/-- A key whose payload yields no address has none by the rules that the store follows. -/
theorem Follows.under?_eq_none
    (hask : Follows ask rules) {e : Lookup} (he : e ∈ heard ask ks s)
    (hfound : ∃ payload, e.2 = .found payload) (hpass : e.2.Passes url) :
    rules.under? url e.1 = none := by
  obtain ⟨payload, hpayload⟩ := hfound
  obtain ⟨-, t, hreply⟩ := exists_of_mem_heard he
  rw [hpayload] at hreply hpass
  rw [Rules.under?, ← hask t e.1 payload hreply]
  exact hpass

/-- A walk that ends with nothing has nothing from the rules of any key. -/
theorem forall_of_walk_eq_nothing
    (hask : Follows ask rules) (hwalk : (walk ask url ks false s).1 = .nothing) :
    ∀ key ∈ ks, rules.under? url key = none := by
  have hwalked := walked_walk ask url ks s
  rw [hwalk] at hwalked
  cases hwalked with
  | nothing _ hfound hall =>
      intro key hkey
      rw [← map_fst_heard ask ks s] at hkey
      obtain ⟨e, he, rfl⟩ := List.mem_map.1 hkey
      exact hask.under?_eq_none he (hfound.2 e he) (hall e he)

/-- A store that broke off lets no walk go on. -/
theorem Reply.ne_panicked_of_passes {reply : Reply} (h : reply.Passes url) :
    reply ≠ .panicked := by
  rintro rfl
  exact h

/-- A walk breaks off when the store does so at a key that it asks for. -/
theorem walk_eq_panicked_iff :
    (walk ask url ks false s).1 = .panicked ↔
      ∃ e ∈ walkLookups ask url ks s, e.2 = .panicked := by
  have hwalked := walked_walk ask url ks s
  constructor
  · intro hwalk
    rw [hwalk] at hwalked
    cases hwalked with
    | panicked _ hlookups => exact ⟨_, hlookups ▸ List.mem_append_cons_self, rfl⟩
  · rintro ⟨e, he, hpanicked⟩
    generalize (walk ask url ks false s).1 = ending at hwalked
    cases hwalked with
    | panicked => rfl
    | upgrade _ hlookups hbefore =>
        rw [hlookups, List.mem_append, List.mem_singleton] at he
        rcases he with he | rfl
        · exact absurd hpanicked (Reply.ne_panicked_of_passes (hbefore e he))
        · cases hpanicked
    | nothing hlookups _ hall | failed hlookups _ hall =>
        exact absurd hpanicked (Reply.ne_panicked_of_passes (hall e (hlookups ▸ he)))

/-- A walk that ends with nothing has had an answer for every key. -/
theorem found_of_walk_eq_nothing
    (hwalk : (walk ask url ks false s).1 = .nothing) :
    ∀ e ∈ walkLookups ask url ks s, ∃ payload, e.2 = .found payload := by
  have hwalked := walked_walk ask url ks s
  rw [hwalk] at hwalked
  cases hwalked with
  | nothing hlookups hfound =>
      rw [hlookups]
      exact hfound.2

/-- A walk that ends as failed has had no answer for some key. -/
theorem exists_failed_of_walk_eq_failed
    (hwalk : (walk ask url ks false s).1 = .failed) :
    ∃ e ∈ walkLookups ask url ks s, ∃ f, e.2 = .failed f := by
  have hwalked := walked_walk ask url ks s
  rw [hwalk] at hwalked
  cases hwalked with
  | failed hlookups hfailed =>
      rw [hlookups]
      exact hfailed.resolve_left Bool.false_ne_true

end Endings

end Upgrade
end RequestGuard
