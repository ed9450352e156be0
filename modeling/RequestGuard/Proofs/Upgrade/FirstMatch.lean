import RequestGuard.Proofs.Upgrade.Walk

/-!
# The first rule that applies

Which rule a walk takes its address from, said by the places of the rules alone: the position
of the key among the keys of the host, of the set among the sets under the key, and of the
rule in the set.

* `Rule.Makes` says what a rule makes of an address, and `RuleSet.Excludes` which addresses a
  set leaves alone.
* `RuleSet.OfferedAt` and `OfferedAt` say that the rule at a place makes a secure address, and
  `FirstOfferedAt` that none before it does.
* `offeredAt_of_upgradeBySets?`, `firstOfferedAt_of_walked`: the search through the sets of a
  payload, and the walk over the keys, come to a stop at the first place of all.

`walk_takes_first_offer` says what a walk ends with and what it asks for.
-/

namespace RequestGuard
namespace Upgrade

open Text

section Rules

/-- What a rule makes of an address: the plain rule puts `https:` in place of `http:`, and any
other its template in place of what its pattern matches first. -/
inductive Rule.Makes (r : Rule) (url target : String) : Prop
  | plain {rest : List Char}
      (hplain : r.plain ≠ 0)
      (hurl : url.toList = "http:".toList ++ rest)
      (htarget : target.toList = "https:".toList ++ rest)
  | replaced {source template : String} {p : Pattern} {m : Pattern.Match}
      (hplain : r.plain = 0)
      (hsource : r.source? = some source)
      (hpattern : compiled? source = some p)
      (hmatch : p.find? (Utf8.bytes url) = some m)
      (htemplate : r.template? = some template)
      (htarget : Utf8.decode (replaceFirst p m template) = .ok target.toList)

theorem afterHttp?_eq_some_iff {url rest : List Char} :
    afterHttp? url = some rest ↔ url = "http:".toList ++ rest := by
  rw [afterHttp?, Option.ite_none_right_eq_some, List.isPrefixOf_iff_prefix, Option.some_inj]
  constructor
  · rintro ⟨⟨more, rfl⟩, rfl⟩
    rfl
  · rintro rfl
    exact ⟨List.prefix_append _ _, rfl⟩

theorem Rule.result?_eq_some_iff {r : Rule} {url target : String} :
    r.result? url = some target ↔ r.Makes url target := by
  rw [Rule.result?]
  split
  · next hplain =>
      rw [Option.map_eq_some_iff]
      constructor
      · rintro ⟨rest, hrest, rfl⟩
        exact .plain hplain (afterHttp?_eq_some_iff.1 hrest) String.toList_ofList
      · rintro (⟨-, hurl, htarget⟩ | ⟨hzero, -⟩)
        · exact ⟨_, afterHttp?_eq_some_iff.2 hurl, by rw [← htarget, String.ofList_toList]⟩
        · exact absurd hzero hplain
  · next hplain =>
      constructor
      · intro hresult
        obtain ⟨source, hsource, hresult⟩ := Option.bind_eq_some_iff.1 hresult
        obtain ⟨p, hpattern, hresult⟩ := Option.bind_eq_some_iff.1 hresult
        obtain ⟨m, hmatch, hresult⟩ := Option.bind_eq_some_iff.1 hresult
        obtain ⟨template, htemplate, hresult⟩ := Option.bind_eq_some_iff.1 hresult
        obtain ⟨cs, hcs, htarget⟩ := Option.bind_eq_some_iff.1 hresult
        obtain rfl : String.ofList cs = target := Option.some.inj htarget
        refine .replaced (Decidable.not_not.1 hplain) hsource hpattern hmatch htemplate ?_
        rw [String.toList_ofList]
        cases hdecode : Utf8.decode (replaceFirst p m template) with
        | error fault =>
            rw [hdecode] at hcs
            cases hcs
        | ok cs' =>
            rw [hdecode] at hcs
            exact congrArg Except.ok (Option.some.inj hcs)
      · rintro (⟨hnot, -⟩ | ⟨-, hsource, hpattern, hmatch, htemplate, htarget⟩)
        · exact absurd hnot hplain
        · simp only [hsource, hpattern, hmatch, htemplate, htarget, Except.toOption,
            Option.bind_eq_bind, Option.bind_some, Option.pure_def, String.ofList_toList]

/-- A pattern of the set matches in an address.  A pattern that is none matches nothing. -/
def RuleSet.Excludes (s : RuleSet) (url : String) : Prop :=
  ∃ source ∈ s.exclusions, ∃ p, compiled? source = some p ∧ p.isMatch (Utf8.bytes url) = true

theorem RuleSet.excludes_iff {s : RuleSet} {url : String} :
    s.excludes url = true ↔ s.Excludes url := by
  simp only [RuleSet.excludes, RuleSet.Excludes, List.any_eq_true, Option.any_eq_true]

/-- The rule at a place in sets of rules makes a secure address, and its set leaves the
address that it is made of in. -/
inductive RuleSet.OfferedAt (sets : List RuleSet) (url : String) (i j : Nat) (target : String) :
    Prop
  | intro {set : RuleSet} {rule : Rule}
      (hset : sets[i]? = some set)
      (hkeeps : ¬ set.Excludes url)
      (hrule : set.rules[j]? = some rule)
      (hmakes : rule.Makes url target)
      (hsecure : "https:".toList <+: target.toList)

end Rules

section Searches

universe u v

/-- What a search for a first result finds stands behind nothing that has one. -/
theorem exists_getElem?_of_findSome?_eq_some
    {α : Type u} {β : Type v} {f : α → Option β} {xs : List α} {b : β}
    (h : xs.findSome? f = some b) :
    ∃ (i : Nat) (a : α), xs[i]? = some a ∧ f a = some b ∧
      ∀ j < i, ∀ a', xs[j]? = some a' → f a' = none := by
  obtain ⟨before, a, after, rfl, ha, hbefore⟩ := List.findSome?_eq_some_iff.1 h
  refine ⟨before.length, a, by simp, ha, ?_⟩
  intro j hj a' ha'
  rw [List.getElem?_append_left hj] at ha'
  exact hbefore a' (List.mem_of_getElem? ha')

variable {sets : List RuleSet} {url target : String}

theorem filter_isSecure_eq_some_iff {rule : Rule} :
    (rule.result? url).filter isSecure = some target ↔
      rule.Makes url target ∧ "https:".toList <+: target.toList := by
  rw [Option.filter_eq_some_iff, Rule.result?_eq_some_iff, isSecure, List.isPrefixOf_iff_prefix]

/-- Where a rule is offered, the search does not come to nothing. -/
theorem RuleSet.OfferedAt.upgradeBySets?_ne_none
    {i j : Nat} (h : RuleSet.OfferedAt sets url i j target) :
    upgradeBySets? sets url ≠ none := by
  rw [upgradeBySets?, Ne, List.findSome?_eq_none_iff]
  intro hnone
  cases h with
  | intro hset hkeeps hrule hmakes hsecure =>
      have hrules := hnone _ (List.mem_of_getElem? hset)
      rw [if_neg (mt RuleSet.excludes_iff.1 hkeeps), List.findSome?_eq_none_iff] at hrules
      have hresult := hrules _ (List.mem_of_getElem? hrule)
      rw [filter_isSecure_eq_some_iff.2 ⟨hmakes, hsecure⟩] at hresult
      cases hresult

/-- What the search through sets of rules finds is offered, and nothing is before it. -/
theorem offeredAt_of_upgradeBySets?
    (h : upgradeBySets? sets url = some target) :
    ∃ i j, RuleSet.OfferedAt sets url i j target ∧
      ∀ i' j' other, i' < i ∨ i' = i ∧ j' < j → ¬ RuleSet.OfferedAt sets url i' j' other := by
  obtain ⟨i, set, hset, hfound, hsets⟩ := exists_getElem?_of_findSome?_eq_some h
  split at hfound
  · cases hfound
  · next hkeeps =>
      obtain ⟨j, rule, hrule, hresult, hrules⟩ := exists_getElem?_of_findSome?_eq_some hfound
      obtain ⟨hmakes, hsecure⟩ := filter_isSecure_eq_some_iff.1 hresult
      refine ⟨i, j, .intro hset (mt RuleSet.excludes_iff.2 hkeeps) hrule hmakes hsecure, ?_⟩
      rintro i' j' other hbefore ⟨hset', hkeeps', hrule', hmakes', hsecure'⟩
      have hresult' := filter_isSecure_eq_some_iff.2 ⟨hmakes', hsecure'⟩
      rcases hbefore with hi | ⟨rfl, hj⟩
      · -- A set before has no rule with a result.
        have hnone := hsets i' hi _ hset'
        rw [if_neg (mt RuleSet.excludes_iff.1 hkeeps'), List.findSome?_eq_none_iff] at hnone
        rw [hnone _ (List.mem_of_getElem? hrule')] at hresult'
        cases hresult'
      · -- Nor has a rule before in the same set.
        obtain rfl := Option.some.inj (hset.symm.trans hset')
        rw [hrules j' hj _ hrule'] at hresult'
        cases hresult'

end Searches

section Places

/-- The place of a rule among all that stand under the keys of a host. -/
structure RulePlace where
  /-- The position of its key. -/
  key : Nat
  /-- The position of its set under the key. -/
  set : Nat
  /-- Its position in the set. -/
  rule : Nat
  deriving DecidableEq, Repr

/-- A place comes before another: by the key, then by the set, then by the rule. -/
inductive RulePlace.Before (p q : RulePlace) : Prop
  | key (h : p.key < q.key)
  | set (hkey : p.key = q.key) (h : p.set < q.set)
  | rule (hkey : p.key = q.key) (hset : p.set = q.set) (h : p.rule < q.rule)

/-- The rule at a place makes a secure address: its key was answered with a payload that
holds sets of rules, and the set leaves the address in. -/
inductive OfferedAt (replies : List Lookup) (url : String) (place : RulePlace)
    (target : String) : Prop
  | intro {key payload : String} {sets : List RuleSet}
      (hreply : replies[place.key]? = some (key, .found (some payload)))
      (hsets : RuleSet.ofPayload? payload = some sets)
      (hoffered : RuleSet.OfferedAt sets url place.set place.rule target)

/-- The rule at a place makes a secure address, and no rule before it does. -/
structure FirstOfferedAt (replies : List Lookup) (url : String) (place : RulePlace)
    (target : String) : Prop where
  offered : OfferedAt replies url place target
  first : ∀ earlier other, earlier.Before place → ¬ OfferedAt replies url earlier other

variable {replies lookups : List Lookup} {url target : String} {failed : Bool}

/-- No rule is offered where a walk goes on after the reply. -/
theorem OfferedAt.exists_not_passes
    {place : RulePlace} (h : OfferedAt replies url place target) :
    ∃ e, replies[place.key]? = some e ∧ ¬ e.2.Passes url := by
  cases h with
  | @intro key payload sets hreply hsets hoffered =>
      refine ⟨_, hreply, ?_⟩
      show ¬ (upgraded? payload url = none)
      rw [upgraded?, hsets, Option.bind_some]
      exact hoffered.upgradeBySets?_ne_none

/-- A walk that goes on after every reply has no rule offered. -/
theorem not_offeredAt_of_passes
    (hall : ∀ e ∈ replies, e.2.Passes url) (place : RulePlace) (target : String) :
    ¬ OfferedAt replies url place target := by
  intro hoffered
  obtain ⟨e, he, hpasses⟩ := hoffered.exists_not_passes
  exact hpasses (hall e (List.mem_of_getElem? he))

/-- A walk that ends with an address has it from the first rule that is offered, and asks for
the keys up to that of the rule. -/
theorem firstOfferedAt_of_walked
    (h : Walked url failed replies lookups (.upgrade target)) :
    ∃ place, FirstOfferedAt replies url place target ∧
      lookups = replies.take (place.key + 1) := by
  cases h with
  | @upgrade before after key payload _ hreplies hlookups hbefore hv =>
      obtain ⟨sets, hsets, hfound⟩ := Option.bind_eq_some_iff.1 hv
      obtain ⟨i, j, hoffered, hfirst⟩ := offeredAt_of_upgradeBySets? hfound
      have hreply : replies[before.length]? = some (key, .found (some payload)) := by
        simp [hreplies]
      -- Under the same key the rule is the first of the same sets.
      have hsame {i' j' : Nat} {other : String} (hlt : i' < i ∨ i' = i ∧ j' < j) :
          ¬ OfferedAt replies url ⟨before.length, i', j'⟩ other := by
        rintro ⟨hreply', hsets', hoffered'⟩
        cases hreply.symm.trans hreply'
        cases hsets.symm.trans hsets'
        exact hfirst i' j' other hlt hoffered'
      refine ⟨⟨before.length, i, j⟩, ⟨.intro hreply hsets hoffered, ?_⟩, ?_⟩
      · rintro ⟨k, i', j'⟩ other hearlier
        cases hearlier with
        | key hk =>
            intro hother
            obtain ⟨e, he, hpasses⟩ := hother.exists_not_passes
            rw [hreplies, List.getElem?_append_left hk] at he
            exact hpasses (hbefore e (List.mem_of_getElem? he))
        | set hkey hi =>
            obtain rfl : k = before.length := hkey
            exact hsame (Or.inl hi)
        | rule hkey hset hj =>
            obtain rfl : k = before.length := hkey
            exact hsame (Or.inr ⟨hset, hj⟩)
      · rw [hreplies, hlookups, List.take_length_add_append, List.take_succ_cons, List.take_zero]

end Places

section Results

variable {σ : Type}

/-- **The first rule that applies.**  The store breaks off at none of the keys of a host; what
it would reply to them in turn is `replies`.

* Where a rule is offered, a walk ends with the address that the first of them makes, by the
  position of its key, of its set and of the rule; no rule before it hides it.  The walk asks
  for the keys up to that of the rule, one after the other.
* Where none is, the walk asks for all keys and ends with nothing, or as failed if a key was
  not answered. -/
theorem walk_takes_first_offer
    (ask : Ask σ) (url host : String) (s : σ)
    (hanswers : ∀ e ∈ heard ask (keys host) s, e.2 ≠ .panicked) :
    let replies := heard ask (keys host) s
    let ending := (walk ask url (keys host) false s).1
    let lookups := walkLookups ask url (keys host) s
    replies.map Prod.fst = keys host ∧
    ((∃ place target, FirstOfferedAt replies url place target ∧
        ending = .upgrade target ∧ lookups = replies.take (place.key + 1)) ∨
      (∀ place target, ¬ OfferedAt replies url place target) ∧
        lookups = replies ∧
        (ending = .failed ∧ (∃ e ∈ replies, ∃ f, e.2 = .failed f) ∨
          ending = .nothing ∧ ∀ e ∈ replies, ∃ payload, e.2 = .found payload)) := by
  intro replies ending lookups
  refine ⟨map_fst_heard ask (keys host) s, ?_⟩
  have hwalked : Walked url false replies lookups ending := walked_walk ask url (keys host) s
  cases hending : ending with
  | upgrade target =>
      rw [hending] at hwalked
      obtain ⟨place, hfirst, hlookups⟩ := firstOfferedAt_of_walked hwalked
      exact Or.inl ⟨place, target, hfirst, rfl, hlookups⟩
  | panicked =>
      rw [hending] at hwalked
      cases hwalked with
      | panicked hreplies =>
          exact absurd rfl (hanswers _ (hreplies.symm ▸ List.mem_append_cons_self))
  | nothing =>
      rw [hending] at hwalked
      cases hwalked with
      | nothing hlookups hfound hall =>
          exact Or.inr ⟨not_offeredAt_of_passes hall, hlookups, Or.inr ⟨rfl, hfound.2⟩⟩
  | failed =>
      rw [hending] at hwalked
      cases hwalked with
      | failed hlookups hfailed hall =>
          exact Or.inr ⟨not_offeredAt_of_passes hall, hlookups,
            Or.inl ⟨rfl, hfailed.resolve_left Bool.false_ne_true⟩⟩

/-- The first key is not answered.  The payload of the second holds a set that leaves the
address out, and one whose first two rules do not make a secure address. -/
theorem walk_takes_third_rule :
    let payload :=
      "[\x7b\"e\":[\x7b\"p\":\"com\"\x7d],\"r\":[\x7b\"d\":1\x7d]\x7d," ++
        "\x7b\"r\":[\x7b\"f\":\"(\"\x7d,\x7b\"f\":\"www\",\"t\":\"x\"\x7d,\x7b\"d\":1\x7d]\x7d]"
    let ask : Ask Unit := fun _ key =>
      (if key = "www.a.com" then .failed (.store .notReadable) else .found (some payload), ())
    let replies := heard ask (keys "www.a.com") ()
    (∀ e ∈ replies, e.2 ≠ .panicked) ∧
      (∃ place, FirstOfferedAt replies "http://www.a.com/" place "https://www.a.com/" ∧
        walkLookups ask "http://www.a.com/" (keys "www.a.com") () =
          replies.take (place.key + 1)) := by
  intro payload ask replies
  have hanswers : ∀ e ∈ replies, e.2 ≠ .panicked := by
    intro e he
    obtain ⟨-, t, hreply⟩ := exists_of_mem_heard he
    rw [← hreply]
    by_cases hkey : e.1 = "www.a.com" <;> simp [ask, hkey]
  have hkeys : keys "www.a.com" = ["www.a.com", "*.a.com", "www.a.*"] := by decide +kernel
  have htarget : upgraded? payload "http://www.a.com/" = some "https://www.a.com/" := by
    decide +kernel
  have hending : (walk ask "http://www.a.com/" (keys "www.a.com") false ()).1 =
      .upgrade "https://www.a.com/" := by
    rw [hkeys]
    simp [walk, ask, htarget]
  obtain ⟨-, ⟨place, target, hfirst, hended, hlookups⟩ | ⟨-, -, hnone⟩⟩ :=
    walk_takes_first_offer ask "http://www.a.com/" "www.a.com" () hanswers
  · obtain rfl := Ending.upgrade.inj (hending.symm.trans hended)
    exact ⟨hanswers, place, hfirst, hlookups⟩
  · rcases hnone with ⟨hfailed, -⟩ | ⟨hnothing, -⟩
    · cases hending.symm.trans hfailed
    · cases hending.symm.trans hnothing

end Results

end Upgrade
end RequestGuard
