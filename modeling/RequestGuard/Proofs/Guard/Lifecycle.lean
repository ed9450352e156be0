import RequestGuard.Proofs.Guard.Trackers

/-!
# How the rules of a guard are loaded, and what they decide

A guard loads the rules of a family when it is told to, or when a first question needs them.

* `Moved`: what a call does to the loading of a family, and `moved_answer`: there is nothing
  else.
* `Accounted`: an attempt is marked exactly if a load has ended.  Hence a question loads
  only as the first to do so.
* `hits`: whether a question is answered with a hit because of a family.
* `run_start_lifecycle`: rules that are loaded stay; after a load that failed nothing hits
  because of the family until a call that loads it succeeds; and what the trackers and the
  filter lists decide no longer depends on the files.
-/

namespace RequestGuard
namespace Lazy

section Ended

variable {α : Type} {l : Lazy α}

/-- The number of loads of a value that have ended. -/
def ended (l : Lazy α) : Nat :=
  l.failures + l.isLoaded.toNat

/-- An attempt is marked exactly if a load has ended. -/
def Accounted (l : Lazy α) : Prop :=
  l.attempted = true ↔ 0 < l.ended

theorem accounted_fresh (family : Family) : (fresh family : Lazy α).Accounted :=
  ⟨nofun, nofun⟩

theorem ended_runLoad (h : l.value? = none) {load : Load α} (hload : load ≠ .panicked) :
    (l.runLoad load).lazy.ended = l.ended + 1 ∧
      (l.runLoad load).lazy.attempted = l.attempted := by
  cases load with
  | loaded a => simp [runLoad, ended, isLoaded, h]
  | failed f => simp [runLoad, ended, isLoaded, h]
  | panicked => exact absurd rfl hload

theorem ended_init (l : Lazy α) {load : Load α} (hload : load ≠ .panicked) :
    (l.init fun _ => load).lazy.attempted = true ∧
      (l.init fun _ => load).lazy.ended = if l.isLoaded then l.ended else l.ended + 1 := by
  rcases Option.eq_none_or_eq_some l.value? with hvalue | ⟨a, hvalue⟩
  · have hrun := ended_runLoad (l := { l with attempted := true }) hvalue hload
    rw [init_of_value?_eq_none hvalue, if_neg (by simp [isLoaded, hvalue])]
    exact ⟨hrun.2, hrun.1⟩
  · rw [init_of_value?_eq_some hvalue, if_pos (by simp [isLoaded, hvalue])]
    exact ⟨rfl, rfl⟩

/-- A question for the value loads only where no attempt is marked. -/
theorem ended_getOrAttempt (l : Lazy α) {load : Load α} (hload : load ≠ .panicked) :
    (l.getOrAttempt fun _ => load).lazy = l ∨
      (l.value? = none ∧ l.attempted = false ∧
        (l.getOrAttempt fun _ => load).lazy.attempted = true ∧
        (l.getOrAttempt fun _ => load).lazy.ended = l.ended + 1) := by
  by_cases htried : l.isLoaded ∨ l.attempted
  · exact Or.inl (by rw [getOrAttempt_of_tried htried])
  · obtain ⟨hvalue, hattempted⟩ : l.value? = none ∧ l.attempted = false := by
      simpa [isLoaded] using htried
    have hrun := ended_runLoad (l := { l with attempted := true }) hvalue hload
    rw [getOrAttempt_of_fresh hvalue hattempted]
    exact Or.inr ⟨hvalue, hattempted, hrun.2, hrun.1⟩

/-- Whether a call to load tells that there is a value. -/
theorem getD_answer?_init (l : Lazy α) (load : Unit → Load α) :
    (l.init load).answer?.getD false = (l.init load).lazy.isLoaded := by
  rcases Option.eq_none_or_eq_some l.value? with hvalue | ⟨a, hvalue⟩
  · rw [init_of_value?_eq_none hvalue]
    cases load () <;> simp [runLoad, isLoaded, hvalue]
  · rw [init_of_value?_eq_some hvalue]
    simp [isLoaded, hvalue]

end Ended

end Lazy

namespace Guard

open Files

section Moves

variable {f : Family} {call : Call} {l l' : Lazy (Rules f)}

/-- What a call does to the loading of a family. -/
inductive Moved (f : Family) (call : Call) (l l' : Lazy (Rules f)) : Prop where
  /-- A call that does not name the family may leave it as it is. -/
  | still (hcall : call.loads? ≠ some f) (hsame : l' = l)
  /-- A call that names the family loads it unless it is loaded. -/
  | init (hcall : call.loads? = some f) (hattempted : l'.attempted = true)
      (hended : l'.ended = if l.isLoaded then l.ended else l.ended + 1)
  /-- A question loads the family if no attempt is marked. -/
  | question (hcall : call.loads? = none) (hvalue : l.value? = none)
      (hfresh : l.attempted = false) (hattempted : l'.attempted = true)
      (hended : l'.ended = l.ended + 1)

theorem moved_answer (g : Guard) (t : Tree) (call : Call) (f : Family) :
    Moved f call (g.rules f) ((g.answer t call).2.2.rules f) := by
  rw [rules_answer]
  rcases g.asked_cases t f call with ⟨hask, hcall⟩ | ⟨load, hload, hask, hcall⟩ | ⟨hask, -, hcall⟩
  · rw [hask]
    exact .still hcall rfl
  · rw [hask]
    obtain ⟨hattempted, hended⟩ := (g.rules f).ended_init hload
    exact .init hcall hattempted hended
  · rw [hask]
    have hload := loadOf_ne_panicked g.config g.makeMatcher t f
    rcases (g.rules f).ended_getOrAttempt hload with
      hsame | ⟨hvalue, hfresh, hattempted, hended⟩
    · exact .still (by rw [hcall]; exact nofun) hsame
    · exact .question hcall hvalue hfresh hattempted hended

theorem Moved.ended_le (h : Moved f call l l') : l.ended ≤ l'.ended := by
  cases h with
  | still hcall hsame => exact hsame ▸ Nat.le_refl _
  | init hcall hattempted hended =>
      rw [hended]
      split <;> omega
  | question hcall hvalue hfresh hattempted hended => omega

theorem Moved.accounted (h : Moved f call l l') (hl : l.Accounted) : l'.Accounted := by
  cases h with
  | still hcall hsame => rwa [hsame]
  | init hcall hattempted hended =>
      refine iff_of_true hattempted ?_
      rw [hended]
      split
      · next hloaded =>
          rw [Lazy.ended, hloaded]
          exact Nat.succ_pos _
      · exact Nat.succ_pos _
  | question hcall hvalue hfresh hattempted hended =>
      refine iff_of_true hattempted ?_
      rw [hended]
      exact Nat.succ_pos _

/-- Where a load has ended, only a call that names the family loads it again. -/
theorem Moved.eq_of_loads? (h : Moved f call l l') (hl : l.Accounted) (hended : 0 < l.ended)
    (hcall : call.loads? ≠ some f) : l' = l := by
  cases h with
  | still hcall' hsame => exact hsame
  | init hcall' hattempted hended' => exact absurd hcall' hcall
  | question hcall' hvalue hfresh hattempted hended' =>
      rw [hl.2 hended] at hfresh
      cases hfresh

end Moves

section Loads

/-- The calls of a run at which a load of a family has ended. -/
def loaders (g : Guard) (t : Tree) (f : Family) : List Event → List Call
  | [] => []
  | .files t :: more => (g.follow t).loaders t f more
  | .call call :: more =>
    let g' := (g.answer t call).2.2
    if (g'.rules f).ended = (g.rules f).ended then g'.loaders t f more
    else call :: g'.loaders t f more

theorem loads?_of_mem_loaders {g : Guard} {f : Family} {events : List Event} {call : Call}
    (hg : (g.rules f).Accounted) (hended : 0 < (g.rules f).ended) {t : Tree}
    (hmem : call ∈ g.loaders t f events) : call.loads? = some f := by
  induction events generalizing g t with
  | nil => cases hmem
  | cons event more ih =>
      cases event with
      | files t =>
          rw [← g.rules_follow t f] at hg hended
          exact ih hg hended hmem
      | call first =>
          have hmoved := g.moved_answer t first f
          have hlater : call ∈ (g.answer t first).2.2.loaders t f more → call.loads? = some f :=
            ih (hmoved.accounted hg) (Nat.lt_of_lt_of_le hended hmoved.ended_le)
          rw [loaders] at hmem
          split at hmem
          · exact hlater hmem
          · next hnew =>
              rcases List.mem_cons.1 hmem with rfl | hmem
              · exact Decidable.byContradiction fun hcall =>
                  hnew (congrArg Lazy.ended (hmoved.eq_of_loads? hg hended hcall))
              · exact hlater hmem

/-- Of the calls of a run that load a family, those after the first name it. -/
theorem loads?_of_mem_tail_loaders {g : Guard} {f : Family} {events : List Event} {call : Call}
    (hg : (g.rules f).Accounted) {t : Tree} (hmem : call ∈ (g.loaders t f events).tail) :
    call.loads? = some f := by
  induction events generalizing g t with
  | nil => cases hmem
  | cons event more ih =>
      cases event with
      | files t =>
          rw [← g.rules_follow t f] at hg
          exact ih hg hmem
      | call first =>
          have hmoved := g.moved_answer t first f
          rw [loaders] at hmem
          split at hmem
          · exact ih (hmoved.accounted hg) hmem
          · next hnew =>
              have hle := hmoved.ended_le
              exact loads?_of_mem_loaders (hmoved.accounted hg) (by omega) hmem

end Loads

section Hits

/-- Is a question answered with a hit because of a family? -/
def hits (g : Guard) (t : Tree) : Family → Call → Bool
  | .tracking, .tracker base host => (g.blocksTracker t base host).1
  | .adBlock, .ad tab url resources _ => (Request.ofUrls? url tab resources).any (g.adBlocks t)
  | .regional, .ad tab url resources regional =>
    regional && (Request.ofUrls? url tab resources).any fun r => (g.blocksRegional t r).1
  | .https, .secure url request => (g.secureUrl t url request).1.join.isSome
  | .https, .secureFromCache url request => (g.secureUrlFromCache url request).1.isSome
  | _, _ => false

/-- A reply that blocks a request or changes its address. -/
def Reply.isHit : Reply → Bool
  | .truth b => b
  | .address url? => url?.isSome
  | _ => false

variable (g : Guard) (t : Tree)

theorem blocksRegional_fst (r : Request) :
    (g.blocksRegional t r).1 =
      (g.now t .regional).any fun ms : List Matcher => Matcher.anyBlocks ms r := by
  rw [← regionalNow_fst, blocksRegional]
  split <;> next hnow => rw [hnow]; rfl

theorem blocksRequest_fst (r : Request) (regional : Bool) :
    (g.blocksRequest t r regional).1 =
      (g.adBlocks t r || regional && (g.blocksRegional t r).1) := by
  rw [blocksRequest_eq]
  cases g.adBlocks t r with
  | true => rfl
  | false =>
      cases regional with
      | true => exact g.blocksRegional_adBlockNow t r
      | false => rfl

/-- A question is answered with a hit because of a family. -/
theorem isHit_answer_iff {call : Call} (hcall : call.isQuestion = true) :
    (g.answer t call).1.isHit = true ↔ ∃ f, g.hits t f call = true := by
  have hone : ∀ (f : Family) {b : Bool}, g.hits t f call = b →
      (∀ f', f' ≠ f → g.hits t f' call = false) → (b = true ↔ ∃ f, g.hits t f call = true) := by
    intro f b hb hother
    constructor
    · rintro rfl
      exact ⟨f, hb⟩
    · rintro ⟨f', hf'⟩
      by_cases hf : f' = f
      · rw [← hb, ← hf, hf']
      · rw [hother f' hf] at hf'
        cases hf'
  cases call with
  | tracker base host => exact hone .tracking rfl fun f' => by cases f' <;> simp [hits]
  | secure url request =>
      have hreply : (g.answer t (.secure url request)).1.isHit =
          g.hits t .https (.secure url request) := by
        rw [answer, hits]
        rcases g.secureUrl t url request with ⟨_ | address, log, g'⟩ <;> rfl
      rw [hreply]
      exact hone .https rfl fun f' => by cases f' <;> simp [hits]
  | secureFromCache url request => exact hone .https rfl fun f' => by cases f' <;> simp [hits]
  | ad tab url resources regional =>
      have hreply : (g.answer t (.ad tab url resources regional)).1.isHit =
          (g.hits t .adBlock (.ad tab url resources regional) ||
            g.hits t .regional (.ad tab url resources regional)) := by
        show (g.blocksAd t tab url resources regional).1 = _
        rw [blocksAd, hits, hits]
        cases Request.ofUrls? url tab resources with
        | none => simp
        | some r => exact g.blocksRequest_fst t r regional
      rw [hreply, Bool.or_eq_true]
      constructor
      · rintro (h | h)
        · exact ⟨.adBlock, h⟩
        · exact ⟨.regional, h⟩
      · rintro ⟨f, h⟩
        cases f with
        | adBlock => exact Or.inl h
        | regional => exact Or.inr h
        | _ => cases h
  | _ => cases hcall

variable {g t} {f : Family}

theorem hits_of_now_eq_none (h : g.now t f = none) (hvalue : (g.rules f).value? = none)
    (call : Call) : g.hits t f call = false := by
  cases f with
  | tracking =>
      cases call with
      | tracker base host => exact (g.blocksTracker_eq_of_none t base host h).1
      | _ => rfl
  | adBlock =>
      cases call with
      | ad tab url resources regional =>
          have hnone : g.adBlocks t = fun _ => false := by
            funext r
            rw [adBlocks, adBlockNow_fst, h]
            rfl
          rw [hits, hnone]
          cases Request.ofUrls? url tab resources <;> rfl
      | _ => rfl
  | regional =>
      cases call with
      | ad tab url resources regional =>
          have hnone : (fun r => (g.blocksRegional t r).1) = fun _ => false := by
            funext r
            rw [blocksRegional_fst, h]
            rfl
          rw [hits, hnone]
          cases Request.ofUrls? url tab resources <;> simp
      | _ => rfl
  | https =>
      cases call with
      | secure url request =>
          have hnow : (g.httpsNow t).1 = none := h
          rw [hits, secureUrl]
          split
          · rfl
          · next hsome =>
              rw [hsome] at hnow
              cases hnow
      | secureFromCache url request =>
          have hloaded : g.https.isLoaded = false := by
            have hnone : g.https.value? = none := hvalue
            rw [Lazy.isLoaded, hnone]
            rfl
          rw [hits, secureUrlFromCache, hloaded]
          rfl
      | _ => rfl

theorem hits_of_attempted (hattempted : (g.rules f).attempted = true)
    (hvalue : (g.rules f).value? = none) (t : Tree) (call : Call) : g.hits t f call = false :=
  hits_of_now_eq_none ((now_of_attempted hattempted t).trans hvalue) hvalue call

/-- Guards with the same rules of a family, apart from the upgrade rules, and that let the
same hosts pass, decide alike. -/
theorem hits_congr {g' : Guard} {v : Rules f} (hf : f ≠ .https)
    (hg : g.Remembers) (hg' : g'.Remembers) (hallowed : g.allowed = g'.allowed)
    (hvalue : (g.rules f).value? = some v) (hvalue' : (g'.rules f).value? = some v)
    (t t' : Tree) (call : Call) : g.hits t f call = g'.hits t' f call := by
  have hnow : g.now t f = g'.now t' f :=
    (now_of_value? hvalue t).trans (now_of_value? hvalue' t').symm
  cases f with
  | tracking =>
      cases call with
      | tracker base host =>
          rw [hits, hits, hg.blocksTracker_eq, hg'.blocksTracker_eq, hnow, hallowed]
      | _ => rfl
  | adBlock =>
      cases call with
      | ad tab url resources regional =>
          have hblocks : g.adBlocks t = g'.adBlocks t' := by
            funext r
            rw [adBlocks, adBlocks, adBlockNow_fst, adBlockNow_fst, hnow]
          rw [hits, hits, hblocks]
      | _ => rfl
  | regional =>
      cases call with
      | ad tab url resources regional =>
          have hblocks : (fun r => (g.blocksRegional t r).1) =
              fun r => (g'.blocksRegional t' r).1 := by
            funext r
            rw [blocksRegional_fst, blocksRegional_fst, hnow]
          rw [hits, hits, hblocks]
      | _ => rfl
  | https => exact absurd rfl hf

end Hits

section Inits

/-- A call that names a family tells whether it is loaded. -/
theorem reply_of_loads? (g : Guard) (t : Tree) {call : Call} {f : Family}
    (hcall : call.loads? = some f) :
    (g.answer t call).1 = .truth ((g.answer t call).2.2.rules f).isLoaded := by
  cases call with
  | initTracking =>
      cases hcall
      exact congrArg Reply.truth (Lazy.getD_answer?_init _ _)
  | initAdBlock =>
      cases hcall
      exact congrArg Reply.truth (Lazy.getD_answer?_init _ _)
  | initRegional =>
      cases hcall
      exact congrArg Reply.truth (Lazy.getD_answer?_init _ _)
  | initHttps =>
      cases hcall
      exact congrArg Reply.truth (Lazy.getD_answer?_init _ _)
  | initHttpsWith store =>
      cases hcall
      exact congrArg Reply.truth (Lazy.getD_answer?_init _ _)
  | _ => cases hcall

/-- The files after a run. -/
def treeAfter (t : Tree) : List Event → Tree
  | [] => t
  | .files t :: more => treeAfter t more
  | .call _ :: more => treeAfter t more

/-- Rules that could not be loaded are missing until a call that names the family tells
that they are there. -/
theorem missing_run {g : Guard} {f : Family} (hg : (g.rules f).Accounted)
    (hended : 0 < (g.rules f).ended) (hvalue : (g.rules f).value? = none) (t : Tree)
    (events : List Event) :
    (∃ before call after, events = before ++ .call call :: after ∧ call.loads? = some f ∧
        ((g.run t before).2.answer (treeAfter t before) call).1 = .truth true) ∨
      (((g.run t events).2.rules f).value? = none ∧
        ((g.run t events).2.rules f).attempted = true) := by
  induction events generalizing g t with
  | nil => exact Or.inr ⟨hvalue, hg.2 hended⟩
  | cons event more ih =>
      cases event with
      | files t =>
          rw [← g.rules_follow t f] at hg hended hvalue
          refine (ih hg hended hvalue t).imp ?_ id
          rintro ⟨before, call, after, rfl, hcall, hreply⟩
          exact ⟨.files t :: before, call, after, rfl, hcall, hreply⟩
      | call first =>
          have hmoved := g.moved_answer t first f
          rcases Option.eq_none_or_eq_some ((g.answer t first).2.2.rules f).value? with
            hnone | ⟨v, hsome⟩
          · refine (ih (hmoved.accounted hg) (Nat.lt_of_lt_of_le hended hmoved.ended_le) hnone
              t).imp ?_ id
            rintro ⟨before, call, after, rfl, hcall, hreply⟩
            exact ⟨.call first :: before, call, after, rfl, hcall, hreply⟩
          · -- the rules have come, so the call names the family
            left
            have hcall : first.loads? = some f := by
              refine Decidable.byContradiction fun hcall => ?_
              rw [hmoved.eq_of_loads? hg hended hcall, hvalue] at hsome
              cases hsome
            refine ⟨[], first, more, rfl, hcall, ?_⟩
            rw [run, treeAfter, reply_of_loads? g t hcall, Lazy.isLoaded, hsome]
            rfl

end Inits

section Runs

theorem accounted_run_start (c : Config) (make : Matcher.Factory) (t : Tree)
    (events : List Event) (f : Family) :
    (((start c make).run t events).2.rules f).Accounted :=
  run_induction (P := fun g => (g.rules f).Accounted)
    (fun g t call h => (g.moved_answer t call f).accounted h)
    (fun g t h => (g.rules_follow t f).symm ▸ h)
    (by cases f <;> exact Lazy.accounted_fresh _) t events

theorem remembers_run_start (c : Config) (make : Matcher.Factory) (t : Tree)
    (events : List Event) : ((start c make).run t events).2.Remembers :=
  run_induction (fun _ t call h => h.answer t call) (fun _ t h => h.follow t)
    (remembers_of_empty fun _ => Recency.Cache.peek?_empty _ _) t events

/-- What holds of the rules of a family from some point of a run on. -/
structure Lifecycle (g : Guard) (f : Family) : Prop where
  /-- Rules that are loaded stay the same. -/
  stays : ∀ v, (g.rules f).value? = some v →
    ∀ t events, ((g.run t events).2.rules f).value? = some v
  /-- After a load that failed, unless a call that names the family tells that it is loaded,
  no question hits because of the family, whatever files there are. -/
  passes : 0 < (g.rules f).failures → (g.rules f).isLoaded = false → ∀ t events,
    (∃ before call after, events = before ++ .call call :: after ∧ call.loads? = some f ∧
        ((g.run t before).2.answer (treeAfter t before) call).1 = .truth true) ∨
      ∀ files call, (g.run t events).2.hits files f call = false
  /-- Trackers and filter lists that are loaded decide alike after the same calls, whatever
  files there were and are. -/
  snapshot : f ≠ .https → (g.rules f).isLoaded = true → ∀ t t' events events',
    calls events = calls events' → ∀ files files' call,
      (g.run t events).2.hits files f call = (g.run t' events').2.hits files' f call
  /-- A question that goes by what is remembered loads nothing and does not read files. -/
  quiet : ∀ url request files files',
    (g.answer files (.secureFromCache url request)).2.2.rules f = g.rules f ∧
      (g.answer files (.secureFromCache url request)).2.1 = [] ∧
      g.answer files (.secureFromCache url request) =
        g.answer files' (.secureFromCache url request)

/-- From the start on, of the calls at which a family is loaded only the first can be one
that does not name the family; a question is answered with a hit because of a family; and
the rules of each family come and stay as in `Lifecycle`. -/
theorem run_start_lifecycle (c : Config) (make : Matcher.Factory) (t : Tree)
    (events : List Event) (f : Family) :
    let g := ((start c make).run t events).2
    (∀ call ∈ ((start c make).loaders t f events).tail, call.loads? = some f) ∧
      (∀ files call, call.isQuestion = true →
        ((g.answer files call).1.isHit = true ↔ ∃ f, g.hits files f call = true)) ∧
      g.Lifecycle f := by
  intro g
  have haccounted : (g.rules f).Accounted := accounted_run_start c make t events f
  have hremembers : g.Remembers := remembers_run_start c make t events
  refine ⟨?_, fun files call => g.isHit_answer_iff files, ?_, ?_, ?_, ?_⟩
  · intro call
    exact loads?_of_mem_tail_loaders (accounted_run_start c make t [] f)
  · exact fun v hvalue t events => value?_run hvalue t events
  · intro hfailures hloaded t events
    have hended : 0 < (g.rules f).ended := Nat.lt_of_lt_of_le hfailures (Nat.le_add_right _ _)
    have hvalue : (g.rules f).value? = none := by simpa [Lazy.isLoaded] using hloaded
    refine (missing_run haccounted hended hvalue t events).imp id ?_
    rintro ⟨hnone, hattempted⟩ files call
    exact hits_of_attempted hattempted hnone files call
  · intro hf hloaded t t' events events' hcalls files files' call
    obtain ⟨v, hvalue⟩ := Option.isSome_iff_exists.1 hloaded
    have hkeeps : ∀ t events, (g.run t events).2.Remembers := fun t events =>
      run_induction (fun _ t call h => h.answer t call) (fun _ t h => h.follow t) hremembers t
        events
    have hallowed : (g.run t events).2.allowed = (g.run t' events').2.allowed :=
      (allowed_run g t events).trans (hcalls ▸ (allowed_run g t' events').symm)
    exact hits_congr hf (hkeeps t events) (hkeeps t' events') hallowed (value?_run hvalue t events)
      (value?_run hvalue t' events') files files' call
  · exact fun url request files files' =>
      ⟨g.rules_secureUrlFromCache url request f, rfl, rfl⟩

/-- A filter list that comes too late does not block until it is loaded, and then blocks
also without its file. -/
theorem run_start_lifecycle_late :
    let make : Matcher.Factory := fun _ => .ok (.constant .block)
    let files := Tree.empty.write "1/ABPFilterParserData.dat" (.file [1])
    let question := Call.ad "https://a.com/" "https://t.io/x" (.single .script) false
    let early := [Event.call .initAdBlock, .files files]
    let g := ((start .standard make).run .empty early).2
    let g' := ((start .standard make).run .empty (early ++ [.call .initAdBlock])).2
    (0 < (g.rules .adBlock).failures ∧ (g.rules .adBlock).isLoaded = false ∧
        g.hits files .adBlock question = false) ∧
      (g'.rules .adBlock).isLoaded = true ∧
        (g'.run files [.files .empty]).2.hits .empty .adBlock question =
          (g'.run files []).2.hits files .adBlock question := by
  intro make files question early g g'
  have hone : (g.rules .adBlock).failures = 1 := by unfold g early make; rfl
  have hfailures : 0 < (g.rules .adBlock).failures := hone ▸ Nat.zero_lt_one
  have hmissing : (g.rules .adBlock).isLoaded = false := by unfold g early make; rfl
  have hloaded : (g'.rules .adBlock).isLoaded = true := by unfold g' early files make; rfl
  obtain ⟨-, -, hlife⟩ := run_start_lifecycle .standard make .empty early .adBlock
  obtain ⟨-, -, hlife'⟩ :=
    run_start_lifecycle .standard make .empty (early ++ [.call .initAdBlock]) .adBlock
  refine ⟨⟨hfailures, hmissing, ?_⟩, hloaded, ?_⟩
  · rcases hlife.passes hfailures hmissing files [] with ⟨before, call, after, hsplit, -⟩ | hpasses
    · simp at hsplit
    · exact hpasses files question
  · exact hlife'.snapshot nofun hloaded files files [.files .empty] [] rfl .empty files question

end Runs

end Guard
end RequestGuard
