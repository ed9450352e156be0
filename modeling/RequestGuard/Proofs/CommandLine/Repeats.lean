import RequestGuard.Proofs.CommandLine.Import

/-!
# Repeated questions for a secure address

A call can ask for the secure form of one address several times.  The first question goes to
the store, the next ones are answered from what is remembered, and from the limit on upgrades
on there is no answer; an address without a secure form never has one.

* `Upgrader.Repeated`: what holds of an upgrader after so many questions, and
  `Turned.next_repeated`, what the next one does to it.
* `Upgrader.Unasked`, `Turned.next_unasked`: the same for questions that ask no store.
* `httpsLines_eq`: the lines of a call, from what one question does.
* `read_https_repeated`: the arguments of such a call.
* `https_repeated`: the lines show the upgrades up to the limit, and their number comes last.
-/

namespace RequestGuard
namespace Upgrade
namespace Upgrader

variable {σ : Type} {ask : Ask σ} {rules : Rules} {c : Config}
variable {r r' : Upgrader} {s s' : σ} {reply : Reply} {lookups : List Lookup}
variable {url : String} {request n : Nat}

section Asking

/-- An upgrader that was empty and has been asked for one address with one request, `n` times. -/
structure Repeated (c : Config) (rules : Rules) (url : String) (request n : Nat)
    (r : Upgrader) : Prop where
  limit : r.maxRedirects = c.maxRedirects
  /-- If the address is remembered, then with the answer of the rules. -/
  agrees : ∀ answer?, r.remembered? url = some answer? → answer? = rules.answer? url
  /-- Upgrades were counted up to the limit, if there were any. -/
  count : r.upgrades request =
    if (rules.answer? url).isSome then min n c.maxRedirects else 0

theorem repeated_empty (c : Config) (rules : Rules) (url : String) (request : Nat) :
    Repeated c rules url request 0 (empty c) where
  limit := rfl
  agrees answer? h := by
    have hnone : (empty c).remembered? url = none :=
      Recency.Cache.peek?_empty c.upgradeCapacity url
    rw [hnone] at h
    cases h
  count := by
    have hnone : (empty c).counted? request = none :=
      Recency.Cache.peek?_empty c.redirectCapacity request
    rw [upgrades, hnone, Nat.zero_min, ite_self]
    rfl

/-- The answer to the question after `n` others. -/
def repeatedAnswer (c : Config) (rules : Rules) (url : String) (n : Nat) : Option String :=
  if n < c.maxRedirects then rules.answer? url else none

theorem repeatedAnswer_of_none (h : rules.answer? url = none) :
    repeatedAnswer c rules url n = none := by
  rw [repeatedAnswer, h, ite_self]

theorem repeatedAnswer_of_lt (h : n < c.maxRedirects) :
    repeatedAnswer c rules url n = rules.answer? url :=
  if_pos h

theorem repeatedAnswer_of_le (h : c.maxRedirects ≤ n) : repeatedAnswer c rules url n = none :=
  if_neg (Nat.not_lt_of_le h)

theorem Repeated.touched (h : Repeated c rules url request n r) :
    Repeated c rules url request n (r.touched request) where
  limit := h.limit
  agrees := h.agrees
  count := by rw [upgrades, counted?_touched]; exact h.count

theorem Repeated.consulted (h : Repeated c rules url request n r) :
    Repeated c rules url request n (r.consulted url request) where
  limit := h.limit
  agrees answer? hknown := h.agrees answer? ((remembered?_consulted ..).symm.trans hknown)
  count := by rw [upgrades, counted?_consulted]; exact h.count

theorem Repeated.learned (h : Repeated c rules url request n r) {answer? : Option String}
    (hanswer : answer? = rules.answer? url) :
    Repeated c rules url request n (r.learned url answer?) where
  limit := h.limit
  agrees other hknown := by
    rw [remembered?_learned_self] at hknown
    exact (Option.some.inj hknown).symm.trans hanswer
  count := h.count

/-- Without a secure form there is nothing to count. -/
theorem Repeated.next_of_none (h : Repeated c rules url request n r)
    (hanswer : rules.answer? url = none) : Repeated c rules url request (n + 1) r where
  limit := h.limit
  agrees := h.agrees
  count := by
    rw [h.count, hanswer]
    rfl

/-- At the limit nothing more is counted. -/
theorem Repeated.next_of_limit (h : Repeated c rules url request n r)
    (hlimit : c.maxRedirects ≤ n) : Repeated c rules url request (n + 1) r where
  limit := h.limit
  agrees := h.agrees
  count := by
    rw [h.count, Nat.min_eq_right hlimit, Nat.min_eq_right (Nat.le_succ_of_le hlimit)]

/-- Below the limit an upgrade is counted. -/
theorem Repeated.raised (h : Repeated c rules url request n r) {target : String}
    (hanswer : rules.answer? url = some target) (hbelow : n < c.maxRedirects) :
    Repeated c rules url request (n + 1) (r.raised request) where
  limit := h.limit
  agrees := h.agrees
  count := by
    have hcount := h.count
    rw [hanswer, Option.isSome_some, if_pos rfl] at hcount ⊢
    rw [upgrades, counted?_raised_self, Option.getD_some, hcount,
      Nat.min_eq_left (Nat.le_of_lt hbelow), Nat.min_eq_left hbelow]

/-- A request that is refused was upgraded up to the limit. -/
theorem Repeated.limit_le (h : Repeated c rules url request n r)
    (hlimit : r.maxRedirects ≤ r.upgrades request) : c.maxRedirects ≤ n := by
  rw [h.limit, h.count] at hlimit
  split at hlimit <;> omega

/-- A request that is not refused had fewer questions than the limit, if they had answers. -/
theorem Repeated.lt_limit (h : Repeated c rules url request n r) {target : String}
    (hanswer : rules.answer? url = some target)
    (hbelow : r.upgrades request < r.maxRedirects) : n < c.maxRedirects := by
  rw [h.limit, h.count, hanswer, Option.isSome_some, if_pos rfl] at hbelow
  omega

/-- What one more question is answered, and what it leaves behind. -/
theorem Turned.next_repeated {P : σ → Prop} (hask : ServesWithin P ask rules) (hs : P s)
    (hr : Repeated c rules url request n r)
    (h : Turned ask r s (.upgrade url request) reply r' s' lookups) :
    reply = .address (repeatedAnswer c rules url n) ∧
      Repeated c rules url request (n + 1) r' := by
  have hwalk {host : String} (hurl : insecureHost? url = some host) :
      (walk ask url (keys host) false s).1 = endingOf (rules.answer? url) := by
    rw [walk_servesWithin url hask _ hs, Rules.answer?, hurl]
    rfl
  cases h with
  | foreign hcall hurl =>
      obtain ⟨rfl, rfl⟩ := looksUp_upgrade.1 hcall
      have hanswer : rules.answer? url = none := by
        rw [Rules.answer?, hurl]
        rfl
      exact ⟨by rw [repeatedAnswer_of_none hanswer], hr.next_of_none hanswer⟩
  | refused hcall _ hlimit =>
      obtain ⟨rfl, rfl⟩ := looksUp_upgrade.1 hcall
      have hle := hr.limit_le hlimit
      exact ⟨by rw [repeatedAnswer_of_le hle], hr.touched.next_of_limit hle⟩
  | repeated hcall hurl hbelow hknown =>
      obtain ⟨rfl, rfl⟩ := looksUp_upgrade.1 hcall
      have hanswer := (hr.agrees _ hknown).symm
      have hlt := hr.lt_limit hanswer hbelow
      exact ⟨by rw [repeatedAnswer_of_lt hlt, hanswer], hr.consulted.raised hanswer hlt⟩
  | repeatedNone hcall hurl hbelow hknown =>
      obtain ⟨rfl, rfl⟩ := looksUp_upgrade.1 hcall
      have hanswer := (hr.agrees _ hknown).symm
      exact ⟨by rw [repeatedAnswer_of_none hanswer], hr.consulted.next_of_none hanswer⟩
  | upgraded hurl hbelow _ hended =>
      rw [hwalk hurl] at hended
      cases hanswer : rules.answer? url with
      | none =>
          rw [hanswer] at hended
          cases hended
      | some target =>
          rw [hanswer] at hended
          obtain rfl := Ending.upgrade.inj hended
          have hlt := hr.lt_limit hanswer hbelow
          exact ⟨by rw [repeatedAnswer_of_lt hlt, hanswer],
            (hr.consulted.learned hanswer.symm).raised hanswer hlt⟩
  | nothing hurl hbelow _ hended =>
      rw [hwalk hurl] at hended
      cases hanswer : rules.answer? url with
      | none =>
          exact ⟨by rw [repeatedAnswer_of_none hanswer],
            (hr.consulted.learned hanswer.symm).next_of_none hanswer⟩
      | some target =>
          rw [hanswer] at hended
          cases hended
  | failed hurl _ _ hended =>
      rw [hwalk hurl] at hended
      cases hanswer : rules.answer? url <;>
        · rw [hanswer] at hended
          cases hended
  | panicked hurl _ _ hended =>
      rw [hwalk hurl] at hended
      cases hanswer : rules.answer? url <;>
        · rw [hanswer] at hended
          cases hended

end Asking

section AskingMemory

/-- An upgrader that remembers nothing about an address and has counted nothing for a request. -/
structure Unasked (url : String) (request : Nat) (r : Upgrader) : Prop where
  unknown : r.remembered? url = none
  uncounted : r.upgrades request = 0

theorem unasked_empty (c : Config) (url : String) (request : Nat) :
    Unasked url request (empty c) where
  unknown := Recency.Cache.peek?_empty c.upgradeCapacity url
  uncounted := (repeated_empty c (fun _ => none) url request).count.trans (by simp)

/-- A question that asks no store has no answer and changes nothing of this. -/
theorem Turned.next_unasked (hr : Unasked url request r)
    (h : Turned ask r s (.fromCache url request) reply r' s' lookups) :
    reply = .address none ∧ Unasked url request r' := by
  cases h with
  | foreign => exact ⟨rfl, hr⟩
  | refused hcall =>
      obtain ⟨rfl, rfl⟩ := looksUp_fromCache.1 hcall
      exact ⟨rfl, hr.unknown, by rw [upgrades, counted?_touched]; exact hr.uncounted⟩
  | repeated hcall _ _ hknown =>
      obtain ⟨rfl, rfl⟩ := looksUp_fromCache.1 hcall
      rw [hr.unknown] at hknown
      cases hknown
  | repeatedNone hcall _ _ hknown =>
      obtain ⟨rfl, rfl⟩ := looksUp_fromCache.1 hcall
      rw [hr.unknown] at hknown
      cases hknown
  | missed =>
      exact ⟨rfl, (remembered?_consulted ..).trans hr.unknown,
        by rw [upgrades, counted?_consulted]; exact hr.uncounted⟩

end AskingMemory

end Upgrader
end Upgrade

namespace CommandLine

open Files Json Upgrade

section Lines

variable {tree : Tree} {url : String} {request : Nat} {cacheOnly : Bool}

/-- The question that a line is about. -/
def asked (tree : Tree) (url : String) (request : Nat) (cacheOnly : Bool) (g : Guard) :
    Option String × Guard :=
  if cacheOnly then g.secureUrlFromCache url request
  else ((g.secureUrl tree url request).1.join, (g.secureUrl tree url request).2.2)

/-- A line with its number and an answer. -/
def answerLine (i : Nat) (answer? : Option String) : String :=
  let text := answer?.getD "no rule"
  s!"{i}: {text}"

/-- The line about the upgrades of a request. -/
def countLine (request n : Nat) : String :=
  s!"Redirects recorded for request {request}: {n}"

theorem httpsLines_succ (tree : Tree) (url : String) (request : Nat) (cacheOnly : Bool)
    (left i : Nat) (g : Guard) :
    let next := asked tree url request cacheOnly g
    let more := httpsLines tree url request cacheOnly left (i + 1) next.2
    (httpsLines tree url request cacheOnly (left + 1) i g).1 = answerLine i next.1 :: more.1 ∧
      (httpsLines tree url request cacheOnly (left + 1) i g).2.2 = more.2.2 := by
  cases cacheOnly <;> exact ⟨rfl, rfl⟩

/-- If every question of a run is answered in its turn, the lines of the run are numbered
answers. -/
theorem httpsLines_eq {I : Nat → Guard → Prop} {answer : Nat → Option String}
    (hstep : ∀ n g, I n g → (asked tree url request cacheOnly g).1 = answer (n + 1) ∧
      I (n + 1) (asked tree url request cacheOnly g).2) (left : Nat) {n : Nat} {g : Guard}
    (hg : I n g) :
    (httpsLines tree url request cacheOnly left (n + 1) g).1 =
        (List.range' (n + 1) left).map (fun i => answerLine i (answer i)) ∧
      I (n + left) (httpsLines tree url request cacheOnly left (n + 1) g).2.2 := by
  induction left generalizing n g with
  | zero => exact ⟨rfl, hg⟩
  | succ left ih =>
      obtain ⟨hanswer, hnext⟩ := hstep n g hg
      obtain ⟨hlines, hlast⟩ := ih hnext
      obtain ⟨hfirst, hrest⟩ := httpsLines_succ tree url request cacheOnly left (n + 1) g
      rw [hfirst, hrest, hlines, hanswer, List.range'_succ, List.map_cons]
      exact ⟨rfl, (Nat.succ_add_eq_add_succ n left) ▸ hlast⟩

end Lines

section Questions

variable {tree : Tree} {c : Config} {s : RuleStore} {rules : Rules}
variable {url : String} {request n : Nat} {g : Guard}

/-- A guard whose rules are open asks its upgrader. -/
theorem secureUrl_of_opened (tree : Tree) (url : String) (request : Nat) {source : Source}
    (hopened : g.https.value? = some source) :
    let turn := g.upgrader.upgrade source.ask url request g.past
    (g.secureUrl tree url request).1 = turn.1 ∧
      (g.secureUrl tree url request).2.2 =
        { g with upgrader := turn.2.2.1, past := turn.2.2.2 } := by
  have hloaded : g.https.isLoaded = true := by rw [Lazy.isLoaded, hopened]; rfl
  have hnow : g.httpsNow tree = (some source, [], g) := by
    rw [Guard.httpsNow, Lazy.getOrAttempt_of_tried (Or.inl hloaded), hopened]
    rfl
  rw [Guard.secureUrl, hnow]
  exact ⟨rfl, rfl⟩

/-- A reply with an address is what the upgrader answers. -/
theorem join_of_reply {σ : Type} {ask : Ask σ} {state : σ} {r : Upgrader}
    {answer? : Option String}
    (h : (r.answer ask state (.upgrade url request)).1 = .address answer?) :
    (r.upgrade ask url request state).1.join = answer? := by
  rw [Upgrader.answer] at h
  cases hturn : (r.upgrade ask url request state).1 with
  | none => simp [hturn] at h
  | some found => simpa [hturn] using h

/-- A guard whose rules are open and have not changed, after `n` questions for one address. -/
structure AskedTimes (c : Config) (s : RuleStore) (rules : Rules) (url : String)
    (request n : Nat) (g : Guard) : Prop where
  opened : g.https.value? = some (.database s)
  past : g.past = .none
  upgrader : Upgrader.Repeated c rules url request n g.upgrader

theorem AskedTimes.next (hrules : ∀ key, s.get key = .ok (rules key))
    (hg : AskedTimes c s rules url request n g) :
    (asked tree url request false g).1 = Upgrader.repeatedAnswer c rules url n ∧
      AskedTimes c s rules url request (n + 1) (asked tree url request false g).2 := by
  have hturned := Upgrader.turned_upgrade (Source.database s).ask g.upgrader g.past url request
  obtain ⟨hreply, hnext⟩ := hturned.next_repeated (servesWithin_of_get hrules) hg.past hg.upgrader
  obtain ⟨hanswer, hguard⟩ := secureUrl_of_opened tree url request hg.opened
  have hpast := Upgrader.upgrade_keeps (Source.database s).ask g.upgrader g.past
    (P := (· = .none)) (fun _ hs _ => hs) url request hg.past
  rw [asked, if_neg Bool.false_ne_true, hanswer, hguard]
  exact ⟨join_of_reply hreply, hg.opened, hpast, hnext⟩

/-- A guard whose rules are open, and which remembers nothing about an address. -/
structure AskedNever (s : RuleStore) (url : String) (request : Nat) (g : Guard) : Prop where
  opened : g.https.value? = some (.database s)
  upgrader : Upgrader.Unasked url request g.upgrader

theorem AskedNever.next (hg : AskedNever s url request g) :
    (asked tree url request true g).1 = none ∧
      AskedNever s url request (asked tree url request true g).2 := by
  obtain ⟨hreply, hnext⟩ :=
    (Upgrader.turned_answer (Source.database s).ask g.upgrader g.past
      (.fromCache url request)).next_unasked hg.upgrader
  have hloaded : g.https.isLoaded = true := by rw [Lazy.isLoaded, hg.opened]; rfl
  rw [asked, if_pos rfl, Guard.secureUrlFromCache, if_pos hloaded]
  exact ⟨Upgrader.Reply.address.inj hreply, hg.opened, hnext⟩

end Questions

section Arguments

/-- The digits of a number start with a digit, so not with a sign. -/
theorem exists_toDigits_eq_cons (n : Nat) :
    ∃ d more, Nat.toDigits 10 n = d :: more ∧ d ≠ '+' ∧ d ≠ '-' := by
  obtain ⟨d, more, hdigits⟩ := List.exists_cons_of_ne_nil (Nat.toDigits_ne_nil (n := n) (b := 10))
  have hd : Text.isDigit d = true := Text.isDigit_of_mem_toDigits (hdigits ▸ List.mem_cons_self)
  refine ⟨d, more, hdigits, ?_, ?_⟩ <;>
    · rintro rfl
      exact absurd hd (by decide)

/-- A written number is the value of an option. -/
theorem shapeOf_toString (n : Nat) : shapeOf (toString n) = .plain := by
  obtain ⟨d, more, hdigits, -, hminus⟩ := exists_toDigits_eq_cons n
  rw [shapeOf, Nat.toString_eq_repr, Nat.toList_repr, hdigits]
  split <;> simp_all

/-- A written number is read again. -/
theorem naturalUpTo?_toString {limit n : Nat} (h : n ≤ limit) :
    naturalUpTo? limit (toString n) = some n := by
  obtain ⟨d, more, hdigits, hplus, -⟩ := exists_toDigits_eq_cons n
  have hall : (Nat.toDigits 10 n).all Text.isDigit = true :=
    List.all_eq_true.2 fun _ => Text.isDigit_of_mem_toDigits
  have hvalue := Text.decimal_toDigits n
  rw [naturalUpTo?, Nat.toString_eq_repr, Nat.toList_repr, hdigits]
  rw [hdigits] at hall hvalue
  split
  · next heq => exact absurd (List.cons.inj heq).1 hplus
  · simp [hall, hvalue, h]

theorem signedUpTo?_toString {limit n : Nat} (h : n ≤ limit) :
    signedUpTo? limit (toString n) = some n := by
  obtain ⟨d, more, hdigits, -, hminus⟩ := exists_toDigits_eq_cons n
  have hnatural := naturalUpTo?_toString h
  rw [signedUpTo?]
  split
  · next digits heq =>
      rw [Nat.toString_eq_repr, Nat.toList_repr, hdigits] at heq
      exact absurd (List.cons.inj heq).1 hminus
  · exact hnatural

section Steps

variable {switches : List Switch} {argument : String} {more : List String} {r r' : Reading}

theorem readOptions_of_long {body : List Char} (r' : Reading)
    (hshape : shapeOf argument = .long body)
    (h : readLong switches r body = .ok r') :
    readOptions switches (argument :: more) r = readOptions switches more r' := by
  rw [readOptions.eq_def]
  simp only [hshape, h]
  rfl

theorem readOptions_of_value {s : Switch} (hshape : shapeOf argument = .plain)
    (hwaiting : r.waiting? = some s) (h : r.give s argument = .ok r') :
    readOptions switches (argument :: more) r = readOptions switches more r' := by
  rw [readOptions.eq_def]
  simp only [hshape, hwaiting, h]
  rfl

end Steps

/-- How a question for a secure address is written. -/
def httpsForm : Form :=
  forms[2]

/-- An option with a number is given. -/
def numberSwitch (name : String) (value? : String → Option Nat) : Switch :=
  { valued name with accepts := fun value => (value? value).isSome }

theorem give_numberSwitch {given : Given} {name value : String} {value? : String → Option Nat}
    {n : Nat} (hname : (name == "help") = false) (hnew : given.any (·.1 == name) = false)
    (hvalue : value? value = some n) :
    Reading.give ⟨given, some (numberSwitch name value?)⟩ (numberSwitch name value?) value =
      .ok ⟨(name, value) :: given, none⟩ := by
  rw [Reading.give]
  simp [numberSwitch, valued, hname, hvalue, hnew]

/-- The arguments that ask for an address several times. -/
theorem read_https_repeated {request repeats : Nat} (url : String) (cacheOnly : Bool)
    (hrequest : request ≤ requestLimit) (hrepeats : repeats ≤ repeatLimit) :
    read ("https" :: ("--url=" ++ url) :: "--request-id" :: toString request :: "--repeat" ::
        toString repeats :: if cacheOnly then ["--cache-only"] else []) =
      .ok ⟨none, none, none, 0, .https url request repeats cacheOnly⟩ := by
  obtain ⟨cs, rfl⟩ : ∃ cs, url = String.ofList cs := ⟨url.toList, String.ofList_toList.symm⟩
  have hshape : shapeOf ("--url=" ++ String.ofList cs) = .long ("url=".toList ++ cs) := by
    rw [shapeOf, String.toList_append, String.toList_ofList (l := cs)]
    rfl
  have hrequest' := naturalUpTo?_toString hrequest
  have hrepeats' := signedUpTo?_toString hrepeats
  have hgiven : readOptions (httpsForm.switches ++ commonSwitches)
      (("--url=" ++ String.ofList cs) :: "--request-id" :: toString request :: "--repeat" ::
        toString repeats :: if cacheOnly then ["--cache-only"] else []) .start =
      .ok ((if cacheOnly then [("cache-only", "")] else []) ++
        [("repeat", toString repeats), ("request-id", toString request),
          ("url", String.ofList cs)], []) := by
    rw [readOptions_of_long ⟨[("url", String.ofList cs)], none⟩ hshape rfl]
    rw [readOptions_of_long ⟨[("url", String.ofList cs)],
      some (numberSwitch "request-id" (naturalUpTo? requestLimit))⟩ rfl rfl]
    rw [readOptions_of_value (shapeOf_toString request) rfl
      (give_numberSwitch rfl rfl hrequest')]
    rw [readOptions_of_long ⟨_, some (numberSwitch "repeat" (signedUpTo? repeatLimit))⟩ rfl rfl]
    rw [readOptions_of_value (shapeOf_toString repeats) rfl (give_numberSwitch rfl rfl hrepeats')]
    cases cacheOnly <;> rfl
  show readForm httpsForm [] _ = _
  rw [readForm, hgiven]
  cases cacheOnly <;>
    · show (Except.ok ⟨none, none, none, 0, .https (String.ofList cs)
        ((naturalUpTo? requestLimit (toString request)).getD 1)
        ((signedUpTo? repeatLimit (toString repeats)).getD 1) _⟩ : Except Stop Invocation) = _
      rw [hrequest', hrepeats']
      rfl

end Arguments

section Results

variable {tree : Tree} {c : Config} {s : RuleStore} {rules : Rules}
variable {url : String} {request repeats : Nat} {cacheOnly : Bool}
variable {arguments : List String} {asking : Invocation}

/-- What the `i`-th line tells about an address, counted from one: its secure form up to the
limit. -/
def shown (limit : Nat) (cacheOnly : Bool) (secure? : Option String) (i : Nat) : Option String :=
  if cacheOnly ∨ limit < i then none else secure?

/-- How many upgrades are counted by the end. -/
def recorded (limit repeats : Nat) (cacheOnly : Bool) (secure? : Option String) : Nat :=
  if cacheOnly ∨ secure? = none then 0 else min (max repeats 1) limit

/-- The lines of a call about an address. -/
def repeatLines (limit request repeats : Nat) (cacheOnly : Bool) (secure? : Option String) :
    List String :=
  (List.range' 1 (max repeats 1)).map (fun i => answerLine i (shown limit cacheOnly secure? i)) ++
    [countLine request (recorded limit repeats cacheOnly secure?)]

theorem output_https (make : Matcher.Factory) (hstore : Guard.ruleStore c tree = .ok s)
    (url : String) (request repeats : Nat) (cacheOnly : Bool) :
    let answers := httpsLines tree url request cacheOnly (max repeats 1) 1
      (opened (Guard.start c make) s)
    let outcome := https (Guard.start c make) tree url request repeats cacheOnly
    outcome.code = 0 ∧ outcome.output =
      answers.1 ++ [countLine request (answers.2.2.upgrader.upgrades request)] := by
  obtain ⟨log, hinit⟩ := initHttps_start make hstore
  rw [https, hinit]
  refine ⟨rfl, ?_⟩
  rw [← Upgrader.count_fst]
  rfl

theorem repeatedAnswer_eq_shown (c : Config) (rules : Rules) (url : String) (n : Nat) :
    Upgrader.repeatedAnswer c rules url n =
      shown c.maxRedirects false (rules.answer? url) (n + 1) := by
  rw [Upgrader.repeatedAnswer, shown]
  rcases Nat.lt_or_ge n c.maxRedirects with hlt | hge
  · rw [if_pos hlt, if_neg (by simp only [Bool.false_eq_true, false_or]; omega)]
  · rw [if_neg (Nat.not_lt_of_le hge), if_pos (Or.inr (Nat.lt_succ_of_le hge))]

/-- The answers of a call that may ask the store. -/
theorem httpsLines_asked (tree : Tree) (c : Config) (make : Matcher.Factory)
    (hrules : ∀ key, s.get key = .ok (rules key))
    (url : String) (request repeats : Nat) :
    let answers := httpsLines tree url request false (max repeats 1) 1
      (opened (Guard.start c make) s)
    answers.1 = (List.range' 1 (max repeats 1)).map (fun i =>
        answerLine i (shown c.maxRedirects false (rules.answer? url) i)) ∧
      answers.2.2.upgrader.upgrades request =
        recorded c.maxRedirects repeats false (rules.answer? url) := by
  have hstart : AskedTimes c s rules url request 0 (opened (Guard.start c make) s) :=
    ⟨rfl, rfl, Upgrader.repeated_empty c rules url request⟩
  have hstep (n : Nat) (g : Guard) (hg : AskedTimes c s rules url request n g) :
      (asked tree url request false g).1 =
          shown c.maxRedirects false (rules.answer? url) (n + 1) ∧
        AskedTimes c s rules url request (n + 1) (asked tree url request false g).2 := by
    rw [← repeatedAnswer_eq_shown]
    exact hg.next hrules
  obtain ⟨hlines, hlast⟩ := httpsLines_eq hstep (max repeats 1) hstart
  refine ⟨hlines, ?_⟩
  rw [hlast.upgrader.count, Nat.zero_add, recorded]
  cases rules.answer? url <;> simp

/-- The answers of a call that asks no store: there are none. -/
theorem httpsLines_unasked (tree : Tree) (c : Config) (s : RuleStore) (make : Matcher.Factory)
    (url : String) (request repeats : Nat) (secure? : Option String) :
    let answers := httpsLines tree url request true (max repeats 1) 1
      (opened (Guard.start c make) s)
    answers.1 = (List.range' 1 (max repeats 1)).map (fun i =>
        answerLine i (shown c.maxRedirects true secure? i)) ∧
      answers.2.2.upgrader.upgrades request = recorded c.maxRedirects repeats true secure? := by
  have hstart : AskedNever s url request (opened (Guard.start c make) s) :=
    ⟨rfl, Upgrader.unasked_empty c url request⟩
  have hstep (n : Nat) (g : Guard) (hg : AskedNever s url request g) :
      (asked tree url request true g).1 = shown c.maxRedirects true secure? (n + 1) ∧
        AskedNever s url request (asked tree url request true g).2 := by
    rw [shown, if_pos (Or.inl rfl)]
    exact hg.next
  obtain ⟨hlines, hlast⟩ := httpsLines_eq (I := fun _ => AskedNever s url request) hstep
    (max repeats 1) (n := 0) hstart
  refine ⟨hlines, ?_⟩
  rw [hlast.upgrader.uncounted, recorded, if_pos (Or.inl rfl)]

/-- **Repeated questions show the limit.**  A call asks for the secure form of an address several
times, with rules that can be opened and a store in which no lookup fails.  It prints one numbered
line for each question: the secure form, if there is one, on as many lines as the limit allows,
and on the others that there is none.  A last line gives the number of upgrades, which is the
number of lines with the secure form.  If only what is remembered is to be told, no line has a
secure form, and no upgrade is counted.

A line is what is printed at once, with a line break behind it.  A secure form that holds a line
break shows as two. -/
theorem https_repeated (hread : read arguments = .ok asking)
    (hasking : asking.command = .https url request repeats cacheOnly)
    (hconfig : configFor asking tree = .ok c) (husable : c.fault? = none)
    (hstore : Guard.ruleStore c tree = .ok s) (hrules : ∀ key, s.get key = .ok (rules key)) :
    (run arguments tree).code = 0 ∧
      (run arguments tree).output =
        repeatLines c.maxRedirects request repeats cacheOnly (rules.answer? url) := by
  rw [run_of_read hread, Invocation.run, hasking]
  simp only [withGuard_of_config hconfig husable]
  obtain ⟨hcode, houtput⟩ := output_https Guard.filterMatcher hstore url request repeats cacheOnly
  refine ⟨hcode, houtput.trans ?_⟩
  rw [repeatLines]
  cases cacheOnly with
  | false =>
      obtain ⟨hlines, hcount⟩ := httpsLines_asked tree c Guard.filterMatcher hrules url
        request repeats
      rw [hlines, hcount]
  | true =>
      obtain ⟨hlines, hcount⟩ := httpsLines_unasked tree c s Guard.filterMatcher url request
        repeats (rules.answer? url)
      rw [hlines, hcount]

/-- Seven questions with the plain rule for one host, and two that may not ask the store. -/
theorem https_repeated_seven :
    let ms : List (String × Value) :=
      [("[::1].", .list [.object [("r", .list [.list [.null, .null, .number (.natural 1)]])]])]
    let tree := withRules (documentTree []) ⟨false, ["httpse.sqlite".toList, "4".toList]⟩ ms
    (run ["https", "--url=http://[::1]/", "--request-id", "9", "--repeat", "7"] tree).output =
        ["1: https://[::1]/", "2: https://[::1]/", "3: https://[::1]/", "4: https://[::1]/",
          "5: https://[::1]/", "6: no rule", "7: no rule",
          "Redirects recorded for request 9: 5"] ∧
      (run ["https", "--url=http://[::1]/", "--request-id", "9", "--repeat", "2", "--cache-only"]
          tree).output =
        ["1: no rule", "2: no rule", "Redirects recorded for request 9: 0"] := by
  intro ms tree
  have hanswer : (RuleDocument.rules ms).answer? "http://[::1]/" = some "https://[::1]/" := by
    decide +kernel
  have hstore : Guard.ruleStore .standard tree =
      .ok ⟨some ⟨false, ["httpse.sqlite".toList, "4".toList]⟩, false, RuleDocument.database ms⟩ :=
    (newDatabase_documentTree []).ruleStore_withRules
  have hrules (key : String) : RuleStore.get
      ⟨some ⟨false, ["httpse.sqlite".toList, "4".toList]⟩, false, RuleDocument.database ms⟩ key =
        .ok (RuleDocument.rules ms key) :=
    Database.get_text (RuleDocument.stored ms) key
  have hseven := (https_repeated (@read_https_repeated 9 7 "http://[::1]/" false
    (by decide) (by decide)) rfl rfl rfl hstore hrules).2
  have htwo := (https_repeated (@read_https_repeated 9 2 "http://[::1]/" true
    (by decide) (by decide)) rfl rfl rfl hstore hrules).2
  rw [hanswer] at hseven htwo
  refine ⟨hseven.trans ?_, htwo.trans ?_⟩ <;> decide +kernel

end Results

end CommandLine
end RequestGuard
