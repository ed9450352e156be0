import RequestGuard.Guard.Call
import RequestGuard.Proofs.Loading.Stages

/-!
# The rules of each family in a guard

A guard holds the rules of every family as a lazily loaded value (`rules`).  A call to the
guard asks the value of a family at most once, and `asked` says what.

* `rules_answer`: what a call leaves of the rules of a family is what the value answers to
  what it is asked.
* `asked_cases`: a family is asked for its value by a question, or to load it by a call
  that names it, and its loads do not break off.
* `now`: the rules that a question has to go by.
* `run_induction`: what every call keeps, and every change of the files, is kept by every run.
-/

namespace RequestGuard

/-- A value that is answered is kept. -/
theorem Lazy.value?_of_answer?_join {α : Type} {l : Lazy α} {load : Unit → Load α} {a : α}
    (h : (l.getOrAttempt load).answer?.join = some a) :
    (l.getOrAttempt load).lazy.value? = some a := by
  rw [getOrAttempt] at h ⊢
  split at h
  · next htried =>
      rw [if_pos htried]
      exact h
  · next hfresh =>
      rw [if_neg hfresh]
      simp only [Option.join_eq_some_iff, Option.map_eq_some_iff] at h
      obtain ⟨-, -, hvalue⟩ := h
      exact hvalue

namespace Guard

open Files Upgrade

section Rules

/-- What the rules of a family are. -/
@[reducible]
def Rules : Family → Type
  | .tracking => TrackerList
  | .adBlock => Matcher
  | .regional => List Matcher
  | .https => Source

/-- The rules of a family in a guard. -/
def rules (g : Guard) : (f : Family) → Lazy (Rules f)
  | .tracking => g.tracking
  | .adBlock => g.adBlock
  | .regional => g.regional
  | .https => g.https

/-- How a load of the rules of a family ends with the files as they are. -/
def loadOf (c : Config) (make : Matcher.Factory) (t : Tree) : (f : Family) → Load (Rules f)
  | .tracking => .ofExcept (trackerList c t)
  | .adBlock => .ofExcept (adMatcher c make t)
  | .regional => .ofExcept (regionalMatchers c make t)
  | .https => .ofExcept (ruleSource c t)

/-- Does the filter list block a request? -/
def adBlocks (g : Guard) (t : Tree) (r : Request) : Bool :=
  (g.adBlockNow t).1.any (·.blocks r)

/-- What a call asks of the rules of a family. -/
def asked (g : Guard) (t : Tree) (f : Family) (call : Call) : Option (Lazy.Call (Rules f)) :=
  let load := loadOf g.config g.makeMatcher t
  match f with
  | .tracking =>
    match call with
    | .initTracking => some (.init (load .tracking))
    | .tracker _ _ => some (.getOrAttempt (load .tracking))
    | _ => none
  | .adBlock =>
    match call with
    | .initAdBlock => some (.init (load .adBlock))
    | .ad tab url resources _ =>
      (Request.ofUrls? url tab resources).map fun _ => .getOrAttempt (load .adBlock)
    | _ => none
  | .regional =>
    match call with
    | .initRegional => some (.init (load .regional))
    | .ad tab url resources regional =>
      (Request.ofUrls? url tab resources).bind fun r =>
        if regional && !g.adBlocks t r then some (.getOrAttempt (load .regional)) else none
    | _ => none
  | .https =>
    match call with
    | .initHttps => some (.init (load .https))
    | .initHttpsWith source => some (.init (.loaded source))
    | .secure _ _ => some (.getOrAttempt (load .https))
    | _ => none

/-- The family that a call loads whoever asks. -/
def Call.loads? : Call → Option Family
  | .initTracking => some .tracking
  | .initAdBlock => some .adBlock
  | .initRegional => some .regional
  | .initHttps => some .https
  | .initHttpsWith _ => some .https
  | _ => none

/-- A call that is about a request. -/
def Call.isQuestion : Call → Bool
  | .tracker _ _ => true
  | .ad _ _ _ _ => true
  | .secure _ _ => true
  | .secureFromCache _ _ => true
  | _ => false

/-- The rules of a family that a question has to go by. -/
def now (g : Guard) (t : Tree) (f : Family) : Option (Rules f) :=
  ((g.rules f).getOrAttempt fun _ => loadOf g.config g.makeMatcher t f).answer?.join

/-- The rules of a family after they were asked. -/
def afterAsked {α : Type} (l : Lazy α) : Option (Lazy.Call α) → Lazy α
  | none => l
  | some call => (l.answer call).2.2.2

end Rules

section Steps

variable (g : Guard) (t : Tree)

theorem rules_allow (host : String) (f : Family) : (g.allow host).rules f = g.rules f := by
  rw [allow]
  split <;> cases f <;> rfl

theorem rules_relatedHosts (l : TrackerList) (base : String) (f : Family) :
    (g.relatedHosts l base).2.rules f = g.rules f := by
  rw [relatedHosts]
  split <;> cases f <;> rfl

theorem rules_blocksListed (l : TrackerList) (base host : String) (f : Family) :
    (g.blocksListed l base host).2.rules f = g.rules f := by
  rw [blocksListed]
  split
  · rfl
  · split
    · exact g.rules_relatedHosts l base f
    · rfl

theorem rules_blocksTracker (base host : String) (f : Family) :
    (g.blocksTracker t base host).2.2.rules f = (g.trackingNow t).2.2.rules f := by
  rw [blocksTracker]
  split
  · next h => rw [h]
  · next h => rw [h, rules_blocksListed]

theorem rules_secureUrl (url : String) (request : Nat) (f : Family) :
    (g.secureUrl t url request).2.2.rules f = (g.httpsNow t).2.2.rules f := by
  rw [secureUrl]
  split
  · next h => rw [h]
  · next h => rw [h]; cases f <;> rfl

theorem rules_secureUrlFromCache (url : String) (request : Nat) (f : Family) :
    (g.secureUrlFromCache url request).2.rules f = g.rules f := by
  rw [secureUrlFromCache]
  split
  · cases f <;> rfl
  · rfl

/-- Other files change nothing in the rules that are loaded. -/
theorem rules_follow (f : Family) : (g.follow t).rules f = g.rules f := by
  cases f <;> rfl

theorem rules_blocksRegional (r : Request) (f : Family) :
    (g.blocksRegional t r).2.2.rules f = (g.regionalNow t).2.2.rules f := by
  rw [blocksRegional]
  split
  · next h => rw [h]
  · next h => rw [h]

theorem blocksRequest_eq (r : Request) (regional : Bool) :
    g.blocksRequest t r regional =
      if g.adBlocks t r then (true, (g.adBlockNow t).2)
      else if regional then
        let turn := (g.adBlockNow t).2.2.blocksRegional t r
        (turn.1, (g.adBlockNow t).2.1 ++ turn.2.1, turn.2.2)
      else (false, (g.adBlockNow t).2) := by
  rcases hnow : g.adBlockNow t with ⟨m, log, g'⟩
  simp only [blocksRequest, adBlocks, hnow]

/-- The regional lists are asked as they are, also after the filter list was loaded. -/
theorem blocksRegional_adBlockNow (r : Request) :
    ((g.adBlockNow t).2.2.blocksRegional t r).1 = (g.blocksRegional t r).1 := by
  have hnow : ((g.adBlockNow t).2.2.regionalNow t).1 = (g.regionalNow t).1 := rfl
  rcases hlater : (g.adBlockNow t).2.2.regionalNow t with ⟨ms, log, g'⟩
  rcases hfirst : g.regionalNow t with ⟨ns, log', g''⟩
  rw [hlater, hfirst] at hnow
  obtain rfl : ms = ns := hnow
  rw [blocksRegional, blocksRegional, hlater, hfirst]
  cases ms <;> rfl

/-- What a call leaves of the rules of a family is what they answer to what it asks. -/
theorem rules_answer (call : Call) (f : Family) :
    (g.answer t call).2.2.rules f = afterAsked (g.rules f) (g.asked t f call) := by
  cases call with
  | tracker base host =>
      have h : (g.answer t (.tracker base host)).2.2.rules f = (g.trackingNow t).2.2.rules f :=
        g.rules_blocksTracker t base host f
      rw [h]
      cases f <;> rfl
  | allow host =>
      rw [answer, rules_allow]
      cases f <;> rfl
  | ad tab url resources regional =>
      show (g.blocksAd t tab url resources regional).2.2.rules f = _
      rw [blocksAd]
      cases hr : Request.ofUrls? url tab resources with
      | none => cases f <;> simp only [asked, hr] <;> rfl
      | some r =>
          show (g.blocksRequest t r regional).2.2.rules f = _
          rw [blocksRequest_eq]
          cases hblocks : g.adBlocks t r with
          | true =>
              rw [if_pos rfl]
              cases f <;> simp only [asked, hr, Option.bind_some, hblocks] <;>
                cases regional <;> rfl
          | false =>
              cases regional with
              | false => cases f <;> simp only [asked, hr] <;> rfl
              | true =>
                  rw [if_neg Bool.false_ne_true, if_pos rfl, rules_blocksRegional]
                  cases f <;> simp only [asked, hr, Option.bind_some, hblocks] <;> rfl
  | secure url request =>
      have h : (g.answer t (.secure url request)).2.2.rules f = (g.httpsNow t).2.2.rules f :=
        g.rules_secureUrl t url request f
      rw [h]
      cases f <;> rfl
  | secureFromCache url request =>
      have h : (g.answer t (.secureFromCache url request)).2.2.rules f = g.rules f :=
        g.rules_secureUrlFromCache url request f
      rw [h]
      cases f <;> rfl
  | _ => cases f <;> rfl

theorem value?_answer {g : Guard} {f : Family} {v : Rules f}
    (h : (g.rules f).value? = some v) (t : Tree) (call : Call) :
    ((g.answer t call).2.2.rules f).value? = some v := by
  rw [rules_answer]
  cases g.asked t f call with
  | none => exact h
  | some ask =>
      rw [afterAsked, ← Lazy.value?_stage, Lazy.stage_answer, Lazy.value?_next,
        Lazy.value?_stage, h, Option.some_or]

end Steps

section Asked

theorem loadOf_ne_panicked (c : Config) (make : Matcher.Factory) (t : Tree) (f : Family) :
    loadOf c make t f ≠ .panicked := by
  have h : ∀ {α : Type} (e : Except Failure α), Load.ofExcept e ≠ .panicked := by
    rintro α (f | a) <;> exact nofun
  cases f <;> exact h _

/-- A family is asked nothing, or a call that names it asks to load it, or a question
asks for its value. -/
theorem asked_cases (g : Guard) (t : Tree) (f : Family) (call : Call) :
    (g.asked t f call = none ∧ call.loads? ≠ some f) ∨
      (∃ load, load ≠ .panicked ∧ g.asked t f call = some (.init load) ∧
        call.loads? = some f) ∨
      (g.asked t f call = some (.getOrAttempt (loadOf g.config g.makeMatcher t f)) ∧
        call.isQuestion = true ∧ call.loads? = none) := by
  have hload := loadOf_ne_panicked g.config g.makeMatcher t f
  cases call with
  | initHttpsWith source =>
      cases f with
      | https => exact Or.inr (Or.inl ⟨.loaded source, nofun, rfl, rfl⟩)
      | _ => exact Or.inl ⟨rfl, nofun⟩
  | tracker base host =>
      cases f with
      | tracking => exact Or.inr (Or.inr ⟨rfl, rfl, rfl⟩)
      | _ => exact Or.inl ⟨rfl, nofun⟩
  | secure url request =>
      cases f with
      | https => exact Or.inr (Or.inr ⟨rfl, rfl, rfl⟩)
      | _ => exact Or.inl ⟨rfl, nofun⟩
  | ad tab url resources regional =>
      cases hr : Request.ofUrls? url tab resources with
      | none => cases f <;> exact Or.inl ⟨by simp [asked, hr], nofun⟩
      | some r =>
          cases f with
          | adBlock => exact Or.inr (Or.inr ⟨by simp [asked, hr], rfl, rfl⟩)
          | regional =>
              by_cases h : (regional && !g.adBlocks t r) = true
              · exact Or.inr (Or.inr
                  ⟨by simp only [asked, hr, Option.bind_some, if_pos h], rfl, rfl⟩)
              · exact Or.inl ⟨by simp only [asked, hr, Option.bind_some, if_neg h], nofun⟩
          | _ => exact Or.inl ⟨rfl, nofun⟩
  | allow host => cases f <;> exact Or.inl ⟨rfl, nofun⟩
  | secureFromCache url request => cases f <;> exact Or.inl ⟨rfl, nofun⟩
  | redirects request => cases f <;> exact Or.inl ⟨rfl, nofun⟩
  | forget request => cases f <;> exact Or.inl ⟨rfl, nofun⟩
  | _ =>
      -- the calls that load one family from its files
      cases f <;>
        first
        | exact Or.inr (Or.inl ⟨_, hload, rfl, rfl⟩)
        | exact Or.inl ⟨rfl, nofun⟩

end Asked

section Now

theorem trackingNow_fst (g : Guard) (t : Tree) : (g.trackingNow t).1 = g.now t .tracking :=
  rfl

theorem adBlockNow_fst (g : Guard) (t : Tree) : (g.adBlockNow t).1 = g.now t .adBlock :=
  rfl

theorem regionalNow_fst (g : Guard) (t : Tree) : (g.regionalNow t).1 = g.now t .regional :=
  rfl

variable {g : Guard} {f : Family} {v : Rules f}

theorem now_of_value? (h : (g.rules f).value? = some v) (t : Tree) : g.now t f = some v := by
  rw [now, (Lazy.getOrAttempt_of_value? h _).1]
  rfl

/-- Once somebody has tried, the files do not matter. -/
theorem now_of_attempted (h : (g.rules f).attempted = true) (t : Tree) :
    g.now t f = (g.rules f).value? := by
  rw [now, Lazy.getOrAttempt_of_tried (Or.inr h)]
  rfl

theorem value?_of_now {t : Tree} (h : g.now t f = some v) :
    (afterAsked (g.rules f)
      (some (.getOrAttempt (loadOf g.config g.makeMatcher t f)))).value? = some v :=
  Lazy.value?_of_answer?_join h

end Now

section Runs

theorem run_induction {P : Guard → Prop}
    (hstep : ∀ (g : Guard) (t : Tree) (call : Call), P g → P (g.answer t call).2.2)
    (hfollow : ∀ (g : Guard) (t : Tree), P g → P (g.follow t)) {g : Guard} (hg : P g)
    (t : Tree) (events : List Event) : P (g.run t events).2 := by
  induction events generalizing g t with
  | nil => exact hg
  | cons event more ih =>
      cases event with
      | files t => exact ih (hfollow g t hg) t
      | call call => exact ih (hstep g t call hg) t

theorem value?_run {g : Guard} {f : Family} {v : Rules f}
    (h : (g.rules f).value? = some v) (t : Tree) (events : List Event) :
    ((g.run t events).2.rules f).value? = some v :=
  run_induction (P := fun g => (g.rules f).value? = some v)
    (fun _ t call h => value?_answer h t call) (fun g t h => (g.rules_follow t f).symm ▸ h) h t
    events

end Runs

end Guard
end RequestGuard
