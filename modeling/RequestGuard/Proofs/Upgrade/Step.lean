import RequestGuard.Proofs.Recency.Contents
import RequestGuard.Proofs.Upgrade.Walk

/-!
# What a call to an upgrader does

An upgrader is looked at through the answers it remembers (`remembered?`) and the counts
it has (`counted?`).  A call asks for the count of a request (`touched`) and for the
answer to an address (`consulted`), remembers an answer (`learned`), counts an upgrade
(`raised`) or drops a count (`forgotten`); nothing else happens to an upgrader.

`Turned` lists all that a call can come to, each with the reply, the upgrader and the
store after it and what was asked for; `turned_answer` says that the list is complete.
-/

namespace RequestGuard
namespace Upgrade
namespace Upgrader

variable {σ : Type}

section Views

/-- The answer remembered for an address. -/
def remembered? (r : Upgrader) (url : String) : Option (Option String) :=
  r.cache.peek? url

/-- The count that is kept for a request. -/
def counted? (r : Upgrader) (request : Nat) : Option Nat :=
  r.redirects.table.peek? request

/-- The upgrades of a request as far as they are known. -/
def upgrades (r : Upgrader) (request : Nat) : Nat :=
  (r.counted? request).getD 0

end Views

section Changes

/-- The count of a request was asked for. -/
def touched (r : Upgrader) (request : Nat) : Upgrader :=
  { r with redirects := (r.redirects.count request).2 }

/-- The count of a request and the answer to an address were asked for. -/
def consulted (r : Upgrader) (url : String) (request : Nat) : Upgrader :=
  { r.touched request with cache := (r.cache.find url).2 }

/-- An answer is remembered. -/
def learned (r : Upgrader) (url : String) (answer? : Option String) : Upgrader :=
  { r with cache := r.cache.insert url answer? }

/-- An upgrade of a request is counted. -/
def raised (r : Upgrader) (request : Nat) : Upgrader :=
  { r with
    redirects := ⟨(r.redirects.count request).2.table.insert request (r.upgrades request + 1)⟩ }

/-- An upgrade of a request is recorded, whatever the limit is. -/
def noted (r : Upgrader) (request : Nat) : Upgrader :=
  { r with redirects := (r.redirects.record request).2 }

/-- The count of a request is dropped. -/
def forgotten (r : Upgrader) (request : Nat) : Upgrader :=
  { r with redirects := r.redirects.forget request }

/-- What a call replies and leaves behind when the walk for it has ended. -/
def ended (r : Upgrader) (url : String) (request : Nat) : Ending → Reply × Upgrader
  | .upgrade target => (.address (some target), (r.learned url (some target)).raised request)
  | .nothing => (.address none, r.learned url none)
  | .failed => (.address none, r)
  | .panicked => (.panicked, r)

variable (r : Upgrader) (url other : String) (request id : Nat) (answer? : Option String)

@[simp] theorem maxRedirects_touched :
    (r.touched request).maxRedirects = r.maxRedirects := rfl

@[simp] theorem maxRedirects_consulted :
    (r.consulted url request).maxRedirects = r.maxRedirects := rfl

@[simp] theorem maxRedirects_learned :
    (r.learned url answer?).maxRedirects = r.maxRedirects := rfl

@[simp] theorem maxRedirects_raised :
    (r.raised request).maxRedirects = r.maxRedirects := rfl

@[simp] theorem maxRedirects_noted :
    (r.noted request).maxRedirects = r.maxRedirects := rfl

@[simp] theorem maxRedirects_forgotten :
    (r.forgotten request).maxRedirects = r.maxRedirects := rfl

@[simp] theorem remembered?_touched :
    (r.touched request).remembered? url = r.remembered? url := rfl

@[simp] theorem remembered?_consulted :
    (r.consulted other request).remembered? url = r.remembered? url :=
  r.cache.peek?_find other url

@[simp] theorem remembered?_raised :
    (r.raised request).remembered? url = r.remembered? url := rfl

@[simp] theorem remembered?_noted :
    (r.noted request).remembered? url = r.remembered? url := rfl

@[simp] theorem remembered?_forgotten :
    (r.forgotten request).remembered? url = r.remembered? url := rfl

@[simp] theorem remembered?_learned_self :
    (r.learned url answer?).remembered? url = some answer? :=
  r.cache.peek?_insert_self url answer?

/-- To remember an answer may cost the answer to another address. -/
theorem remembered?_learned_of_ne (hne : other ≠ url) :
    (r.learned url answer?).remembered? other = r.remembered? other ∨
      (r.learned url answer?).remembered? other = none :=
  (r.cache.peek?_insert_of_ne answer? hne).imp id And.left

@[simp] theorem counted?_touched :
    (r.touched request).counted? id = r.counted? id :=
  r.redirects.table.peek?_find request id

@[simp] theorem counted?_consulted :
    (r.consulted url request).counted? id = r.counted? id :=
  r.redirects.table.peek?_find request id

@[simp] theorem counted?_learned :
    (r.learned url answer?).counted? id = r.counted? id := rfl

@[simp] theorem counted?_forgotten_self :
    (r.forgotten request).counted? request = none :=
  r.redirects.table.peek?_remove_self request

theorem counted?_forgotten_of_ne (hne : id ≠ request) :
    (r.forgotten request).counted? id = r.counted? id :=
  r.redirects.table.peek?_remove_of_ne hne

/-- The count that a question answers. -/
theorem count_fst :
    (r.redirects.count request).1 = r.upgrades request := by
  rw [Redirects.count, upgrades, counted?, ← Recency.Cache.find_fst]

/-- What a question leaves of the table. -/
theorem table_touched :
    (r.touched request).redirects.table = (r.redirects.table.find request).2 := rfl

@[simp] theorem size_touched :
    (r.touched request).redirects.size = r.redirects.size :=
  r.redirects.table.size_find request

/-- What counting leaves of the table. -/
theorem table_raised :
    (r.raised request).redirects.table =
      (r.redirects.table.find request).2.insert request (r.upgrades request + 1) := rfl

@[simp] theorem counted?_raised_self :
    (r.raised request).counted? request = some (r.upgrades request + 1) := by
  rw [counted?, table_raised]
  exact Recency.Cache.peek?_insert_self _ _ _

/-- To count an upgrade leaves the other counts, unless a request without one takes the
place of another in a full table. -/
theorem counted?_raised_of_ne (hne : id ≠ request) :
    (r.raised request).counted? id = r.counted? id ∨
      ((r.raised request).counted? id = none ∧ r.counted? request = none ∧
        r.redirects.table.capacity ≤ r.redirects.size) := by
  have hinsert :=
    (r.redirects.table.find request).2.peek?_insert_of_ne (r.upgrades request + 1) hne
  simp only [Recency.Cache.peek?_find, Recency.Cache.capacity_find,
    Recency.Cache.size_find] at hinsert
  rw [counted?, table_raised]
  exact hinsert

end Changes

section Consultation

variable {r : Upgrader} {url host target : String} {request : Nat}

/-- Below the limit an upgrade is counted and the address answered. -/
theorem counted_of_lt (hbelow : r.upgrades request < r.maxRedirects) :
    r.counted request target = (some target, r.raised request) := by
  have hcount := r.count_fst request
  rw [counted, Redirects.recordIfBelow]
  simp only [hcount, if_neg (Nat.not_le_of_lt hbelow), if_pos]
  rfl

theorem consult_of_foreign (hurl : insecureHost? url = none) :
    r.consult url request = (.settled none, r) := by
  rw [consult, hurl]

theorem consult_of_limit
    (hurl : insecureHost? url = some host) (hlimit : r.maxRedirects ≤ r.upgrades request) :
    r.consult url request = (.settled none, r.touched request) := by
  rw [← count_fst] at hlimit
  simp only [consult, hurl, if_pos hlimit]
  rfl

/-- Below the limit the answers remembered are looked through. -/
theorem consult_of_lt
    (hurl : insecureHost? url = some host) (hbelow : r.upgrades request < r.maxRedirects) :
    r.consult url request =
      match r.remembered? url with
      | some (some target) =>
        (.settled (some target), (r.consulted url request).raised request)
      | some none => (.settled none, r.consulted url request)
      | none => (.open host, r.consulted url request) := by
  have hcounted (target : String) :
      (r.consulted url request).counted request target =
        (some target, (r.consulted url request).raised request) := by
    refine counted_of_lt ?_
    rw [upgrades, counted?_consulted]
    exact hbelow
  rw [← count_fst] at hbelow
  simp only [consult, hurl, if_neg (Nat.not_le_of_lt hbelow)]
  rw [remembered?, ← Recency.Cache.find_fst]
  rcases (r.cache.find url).1 with _ | _ | target
  · rfl
  · rfl
  · exact congrArg (fun answered => (Known.settled answered.1, answered.2)) (hcounted target)

end Consultation

section Turns

/-- The call asks for the secure form of an address, from the store or from the answers
remembered alone. -/
def Call.LooksUp (call : Call) (url : String) (request : Nat) : Prop :=
  call = .upgrade url request ∨ call = .fromCache url request

@[simp] theorem looksUp_upgrade {url other : String} {request id : Nat} :
    (Call.upgrade other id).LooksUp url request ↔ other = url ∧ id = request := by
  simp [Call.LooksUp]

@[simp] theorem looksUp_fromCache {url other : String} {request id : Nat} :
    (Call.fromCache other id).LooksUp url request ↔ other = url ∧ id = request := by
  simp [Call.LooksUp]

/-- What a call asks the store for. -/
def lookups (r : Upgrader) (ask : Ask σ) (s : σ) (call : Call) : List Lookup :=
  (r.answer (recorded ask) (s, []) call).2.2.2.2

/-- All that a call can come to: the reply, the upgrader and the store after it, and
what was asked for. -/
inductive Turned (ask : Ask σ) (r : Upgrader) (s : σ) :
    Call → Reply → Upgrader → σ → List Lookup → Prop
  | foreign {call : Call} {url : String} {request : Nat}
      (hcall : call.LooksUp url request)
      (hurl : insecureHost? url = none) :
      Turned ask r s call (.address none) r s []
  | refused {call : Call} {url host : String} {request : Nat}
      (hcall : call.LooksUp url request)
      (hurl : insecureHost? url = some host)
      (hlimit : r.maxRedirects ≤ r.upgrades request) :
      Turned ask r s call (.address none) (r.touched request) s []
  | repeated {call : Call} {url host target : String} {request : Nat}
      (hcall : call.LooksUp url request)
      (hurl : insecureHost? url = some host)
      (hbelow : r.upgrades request < r.maxRedirects)
      (hknown : r.remembered? url = some (some target)) :
      Turned ask r s call (.address (some target))
        ((r.consulted url request).raised request) s []
  | repeatedNone {call : Call} {url host : String} {request : Nat}
      (hcall : call.LooksUp url request)
      (hurl : insecureHost? url = some host)
      (hbelow : r.upgrades request < r.maxRedirects)
      (hknown : r.remembered? url = some none) :
      Turned ask r s call (.address none) (r.consulted url request) s []
  | missed {url host : String} {request : Nat}
      (hurl : insecureHost? url = some host)
      (hbelow : r.upgrades request < r.maxRedirects)
      (hknown : r.remembered? url = none) :
      Turned ask r s (.fromCache url request) (.address none) (r.consulted url request) s []
  | upgraded {url host target : String} {request : Nat}
      (hurl : insecureHost? url = some host)
      (hbelow : r.upgrades request < r.maxRedirects)
      (hknown : r.remembered? url = none)
      (hwalk : (walk ask url (keys host) false s).1 = .upgrade target) :
      Turned ask r s (.upgrade url request) (.address (some target))
        (((r.consulted url request).learned url (some target)).raised request)
        (walk ask url (keys host) false s).2.2 (walkLookups ask url (keys host) s)
  | nothing {url host : String} {request : Nat}
      (hurl : insecureHost? url = some host)
      (hbelow : r.upgrades request < r.maxRedirects)
      (hknown : r.remembered? url = none)
      (hwalk : (walk ask url (keys host) false s).1 = .nothing) :
      Turned ask r s (.upgrade url request) (.address none)
        ((r.consulted url request).learned url none)
        (walk ask url (keys host) false s).2.2 (walkLookups ask url (keys host) s)
  | failed {url host : String} {request : Nat}
      (hurl : insecureHost? url = some host)
      (hbelow : r.upgrades request < r.maxRedirects)
      (hknown : r.remembered? url = none)
      (hwalk : (walk ask url (keys host) false s).1 = .failed) :
      Turned ask r s (.upgrade url request) (.address none) (r.consulted url request)
        (walk ask url (keys host) false s).2.2 (walkLookups ask url (keys host) s)
  | panicked {url host : String} {request : Nat}
      (hurl : insecureHost? url = some host)
      (hbelow : r.upgrades request < r.maxRedirects)
      (hknown : r.remembered? url = none)
      (hwalk : (walk ask url (keys host) false s).1 = .panicked) :
      Turned ask r s (.upgrade url request) .panicked (r.consulted url request)
        (walk ask url (keys host) false s).2.2 (walkLookups ask url (keys host) s)
  | redirects (request : Nat) :
      Turned ask r s (.redirects request) (.count (r.upgrades request)) (r.touched request)
        s []
  | record (request : Nat) :
      Turned ask r s (.record request) (.count (Redirects.next (r.upgrades request)))
        (r.noted request) s []
  | forget (request : Nat) :
      Turned ask r s (.forget request) .done (r.forgotten request) s []

variable (ask : Ask σ) (r : Upgrader) (s : σ)

/-- Either nothing is asked for, or the store is to be asked for the rules of a host. -/
theorem turned_of_consult (url : String) (request : Nat) :
    match r.consult url request with
    | (.settled answer?, r') =>
      ∀ call : Call, call.LooksUp url request →
        Turned ask r s call (.address answer?) r' s []
    | (.open host, r') =>
      insecureHost? url = some host ∧ r.upgrades request < r.maxRedirects ∧
        r.remembered? url = none ∧ r' = r.consulted url request := by
  cases hurl : insecureHost? url with
  | none =>
      rw [consult_of_foreign hurl]
      exact fun call hcall => .foreign hcall hurl
  | some host =>
      rcases Nat.lt_or_ge (r.upgrades request) r.maxRedirects with hbelow | hlimit
      · rw [consult_of_lt hurl hbelow]
        rcases hknown : r.remembered? url with _ | _ | target
        · exact ⟨rfl, hbelow, rfl, rfl⟩
        · exact fun call hcall => .repeatedNone hcall hurl hbelow hknown
        · exact fun call hcall => .repeated hcall hurl hbelow hknown
      · rw [consult_of_limit hurl hlimit]
        exact fun call hcall => .refused hcall hurl hlimit

/-- What every lookup keeps of a store, a question keeps. -/
theorem upgrade_keeps {P : σ → Prop} (hask : ∀ s, P s → ∀ key, P (ask s key).2) (url : String)
    (request : Nat) (hs : P s) : P (r.upgrade ask url request s).2.2.2 := by
  rw [upgrade]
  split
  · exact hs
  · next host r' _ =>
      have hwalk := walk_keeps url hask (keys host) false hs
      rcases hended : walk ask url (keys host) false s with ⟨ending, log, s'⟩
      rw [hended] at hwalk
      cases ending <;> exact hwalk

/-- A call that is settled at once asks for nothing. -/
theorem answer_upgrade_of_settled
    {url : String} {request : Nat} {answer? : Option String} {r' : Upgrader}
    (hconsult : r.consult url request = (.settled answer?, r')) :
    r.answer ask s (.upgrade url request) = (.address answer?, [], r', s) := by
  simp only [answer, upgrade, hconsult]
  rfl

/-- A call that is left to the store goes as the walk ends. -/
theorem answer_upgrade_of_open
    {url host : String} {request : Nat} (hbelow : r.upgrades request < r.maxRedirects)
    (hconsult : r.consult url request = (.open host, r.consulted url request)) :
    r.answer ask s (.upgrade url request) =
      (((r.consulted url request).ended url request (walk ask url (keys host) false s).1).1,
        (walk ask url (keys host) false s).2.1,
        ((r.consulted url request).ended url request (walk ask url (keys host) false s).1).2,
        (walk ask url (keys host) false s).2.2) := by
  rcases hwalk : walk ask url (keys host) false s with ⟨ending, log, s'⟩
  simp only [answer, upgrade, hconsult, hwalk]
  cases ending with
  | upgrade target =>
      have hcounted :
          ((r.consulted url request).learned url (some target)).counted request target =
            (some target,
              ((r.consulted url request).learned url (some target)).raised request) := by
        refine counted_of_lt ?_
        rw [upgrades, counted?_learned, counted?_consulted]
        exact hbelow
      rw [learned] at hcounted
      simp only [hcounted]
      rfl
  | nothing => rfl
  | failed => rfl
  | panicked => rfl

theorem lookups_upgrade_of_open
    {url host : String} {request : Nat} (hbelow : r.upgrades request < r.maxRedirects)
    (hconsult : r.consult url request = (.open host, r.consulted url request)) :
    r.lookups ask s (.upgrade url request) = walkLookups ask url (keys host) s := by
  rw [lookups, answer_upgrade_of_open _ _ _ hbelow hconsult, walkLookups]

/-- A call that is left to a store of rules replies their answer. -/
theorem reply_upgrade_of_open {P : σ → Prop} {rules : Rules}
    {url host : String} {request : Nat} (hask : ServesWithin P ask rules) (hs : P s)
    (hurl : insecureHost? url = some host) (hbelow : r.upgrades request < r.maxRedirects)
    (hconsult : r.consult url request = (.open host, r.consulted url request)) :
    (r.answer ask s (.upgrade url request)).1 = .address (rules.answer? url) := by
  rw [answer_upgrade_of_open _ _ _ hbelow hconsult, walk_servesWithin url hask _ hs, Rules.answer?,
    hurl, Option.bind_some]
  cases (keys host).findSome? (rules.under? url) <;> rfl

theorem turned_upgrade (url : String) (request : Nat) :
    Turned ask r s (.upgrade url request) (r.answer ask s (.upgrade url request)).1
      (r.answer ask s (.upgrade url request)).2.2.1
      (r.answer ask s (.upgrade url request)).2.2.2
      (r.lookups ask s (.upgrade url request)) := by
  have hturned := turned_of_consult ask r s url request
  rcases hconsult : r.consult url request with ⟨known, r'⟩
  rw [hconsult] at hturned
  cases known with
  | settled answer? =>
      rw [lookups, answer_upgrade_of_settled _ _ _ hconsult,
        answer_upgrade_of_settled _ _ _ hconsult]
      exact hturned _ (Or.inl rfl)
  | «open» host =>
      obtain ⟨hurl, hbelow, hknown, rfl⟩ := hturned
      rw [lookups_upgrade_of_open _ _ _ hbelow hconsult,
        answer_upgrade_of_open _ _ _ hbelow hconsult]
      cases hwalk : (walk ask url (keys host) false s).1 with
      | upgrade target => exact .upgraded hurl hbelow hknown hwalk
      | nothing => exact .nothing hurl hbelow hknown hwalk
      | failed => exact .failed hurl hbelow hknown hwalk
      | panicked => exact .panicked hurl hbelow hknown hwalk

/-- Nothing else can come of a call. -/
theorem turned_answer (call : Call) :
    Turned ask r s call (r.answer ask s call).1 (r.answer ask s call).2.2.1
      (r.answer ask s call).2.2.2 (r.lookups ask s call) := by
  cases call with
  | upgrade url request => exact turned_upgrade ask r s url request
  | fromCache url request =>
      have hturned := turned_of_consult ask r s url request
      rw [lookups, answer, answer, upgradeFromCache]
      rcases hconsult : r.consult url request with ⟨known, r'⟩
      rw [hconsult] at hturned
      cases known with
      | settled answer? => exact hturned _ (Or.inr rfl)
      | «open» host =>
          obtain ⟨hurl, hbelow, hknown, rfl⟩ := hturned
          exact .missed hurl hbelow hknown
  | redirects request =>
      have hturned : Turned ask r s _ _ _ s [] := .redirects request
      rw [← count_fst] at hturned
      exact hturned
  | record request =>
      have hturned : Turned ask r s _ _ _ s [] := .record request
      rw [← count_fst] at hturned
      exact hturned
  | forget request => exact .forget request

end Turns

end Upgrader
end Upgrade
end RequestGuard
