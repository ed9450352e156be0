import Mathlib.Data.List.Nodup
import RequestGuard.Loading.Crowd
import RequestGuard.Proofs.Loading.Stages

/-!
# Callers that wait share the load that runs

What callers that come at the same time have from each other.

* `after_init` and `after_getOrAttempt`: a caller that nobody comes in between of does what it
  does alone.
* `Sound`: one caller loads at a time, only while there is no value, and nobody loads twice;
  and no caller that waits has noted more failures than there are.  Every action keeps this.
* `Settled`: after a load it is settled what the callers answer that have waited for it.  What
  others do before their turns keeps this, and so do the turns of these callers.
* `waiters_share_load`: hence they answer as the caller whose load it was.
* `initTogether_eq`: the same for calls whose turns come in the order of their arrival.
-/

namespace RequestGuard

section Loads

variable {α : Type}

/-- What a load brings. -/
def Load.value? : Load α → Option α
  | .loaded a => some a
  | _ => none

end Loads

namespace Lazy

variable {α : Type}

section Turns

variable {l : Lazy α} {seen : Nat}

/-- A turn is a look at what is settled, and a load if nothing is. -/
theorem enter_eq (l : Lazy α) (seen : Nat) (load : Unit → Load α) :
    l.enter seen load =
      match l.settled? seen with
      | some b => ⟨some b, false, [], l⟩
      | none => l.runLoad (load ()) := by
  rw [enter, settled?]
  split
  · rfl
  · split <;> rfl

theorem settled?_congr {l' : Lazy α} (hvalue : l'.value? = l.value?)
    (hfailures : l'.failures = l.failures) (seen : Nat) :
    l'.settled? seen = l.settled? seen := by
  rw [settled?, settled?, isLoaded, isLoaded, hvalue, hfailures]

theorem value?_of_settled?_eq_none (h : l.settled? seen = none) : l.value? = none := by
  rw [settled?] at h
  split at h
  · cases h
  · next hloaded => simpa [isLoaded] using hloaded

theorem settled?_failures (h : l.value? = none) : l.settled? l.failures = none := by
  rw [settled?, isLoaded, h, if_neg (by simp), if_neg (by simp)]

theorem value?_runLoad (h : l.value? = none) (load : Load α) :
    (l.runLoad load).lazy.value? = load.value? := by
  cases load with
  | loaded a => rfl
  | failed f => exact h
  | panicked => exact h

theorem failures_runLoad {load : Load α} (hload : load ≠ .panicked) :
    (l.runLoad load).lazy.failures = l.failures + (!load.value?.isSome).toNat := by
  cases load with
  | loaded a => rfl
  | failed f => rfl
  | panicked => exact absurd rfl hload

theorem failures_le_runLoad (l : Lazy α) (load : Load α) :
    l.failures ≤ (l.runLoad load).lazy.failures := by
  cases load <;> simp [runLoad]

theorem answer?_runLoad {load : Load α} (hload : load ≠ .panicked) :
    (l.runLoad load).answer? = some load.value?.isSome := by
  cases load with
  | loaded a => rfl
  | failed f => rfl
  | panicked => exact absurd rfl hload

/-- After a load, who has noted the failures before it can tell how it ended. -/
theorem settled?_runLoad (hvalue : l.value? = none) (hseen : seen ≤ l.failures)
    {load : Load α} (hload : load ≠ .panicked) :
    (l.runLoad load).lazy.settled? seen = some load.value?.isSome := by
  cases load with
  | loaded a => rfl
  | failed f =>
      have hloaded : (l.runLoad (.failed f)).lazy.isLoaded = false := by
        rw [isLoaded, value?_runLoad hvalue]
        rfl
      have hnoted : (l.runLoad (.failed f)).lazy.failures ≠ seen := by
        show l.failures + 1 ≠ seen
        omega
      rw [settled?, if_neg (ne_true_of_eq_false hloaded), if_pos hnoted]
      rfl
  | panicked => exact absurd rfl hload

end Turns

section Actions

/-- An action that a caller does before its turn. -/
def Action.isEarly : Action α → Bool
  | .turn | .finish _ => false
  | _ => true

/-- The caller does not wait any more. -/
def Progress.isPast : Progress → Bool
  | .loading | .answered _ | .broken => true
  | _ => false

variable {l l' : Lazy α} {p? : Option Progress} {p : Progress} {a : Action α}

/-- What an action before the turn does. -/
structure Early (l l' : Lazy α) (p? : Option Progress) (p : Progress) : Prop where
  value? : l'.value? = l.value?
  failures : l'.failures = l.failures
  before : ∀ q, p? = some q → q.isPast = false ∧ ∀ seen, q ≠ .waiting seen
  next : p ≠ .loading
  noted : ∀ seen, p = .waiting seen → seen = l.failures

theorem early_of_act? (h : l.act? p? a = some (p, l')) (ha : a.isEarly = true) :
    Early l l' p? p := by
  unfold act? at h
  split at h
  case h_7 => cases ha
  case h_8 => cases ha
  case h_9 => cases h
  all_goals
    obtain ⟨rfl, rfl⟩ := Prod.mk.inj (Option.some.inj h)
    refine ⟨rfl, rfl, ?_, ?_, ?_⟩
  all_goals grind [Progress.isPast]

theorem act?_turn (h : l.act? p? .turn = some (p, l')) :
    ∃ seen, p? = some (.waiting seen) ∧ l' = l ∧
      p = ((l.settled? seen).map .answered).getD .loading := by
  rcases p? with _ | q
  · cases h
  · cases q with
    | waiting seen =>
        obtain ⟨rfl, rfl⟩ := Prod.mk.inj (Option.some.inj h)
        exact ⟨seen, rfl, rfl, rfl⟩
    | _ => cases h

theorem act?_finish {load : Load α} (h : l.act? p? (.finish load) = some (p, l')) :
    p? = some .loading ∧ l' = (l.runLoad load).lazy ∧
      p = .ofAnswer? (l.runLoad load).answer? := by
  rcases p? with _ | q
  · cases h
  · cases q with
    | loading =>
        obtain ⟨rfl, rfl⟩ := Prod.mk.inj (Option.some.inj h)
        exact ⟨rfl, rfl, rfl⟩
    | _ => cases h

/-- How far a call to load can come before its turn where a number of loads have failed since
before it began. -/
def ofInit (failures : Nat) : Option Progress → Bool
  | none | some .marked | some .missed => true
  | some (.waiting seen) => seen == failures
  | _ => false

/-- A call to load that began after all failures and finds no value goes on until it loads. -/
theorem act?_ofInit (hvalue : l.value? = none) (hp : ofInit l.failures p? = true)
    (hask : a ≠ .ask) (h : l.act? p? a = some (p, l')) :
    if a.isEarly then ofInit l.failures (some p) = true else a = .turn ∧ p = .loading := by
  have hloaded : l.isLoaded = false := by
    rw [isLoaded, hvalue]
    rfl
  unfold act? at h
  split at h
  case h_1 => exact absurd rfl hask
  case h_2 => cases hp
  case h_3 => cases h; rfl
  case h_4 => cases hp
  case h_5 => cases h; rw [hloaded]; rfl
  case h_6 => cases h; exact beq_self_eq_true _
  case h_7 seen =>
    obtain rfl : seen = l.failures := eq_of_beq hp
    cases h
    exact ⟨rfl, by rw [settled?_failures hvalue]; rfl⟩
  case h_8 => cases hp
  case h_9 => cases h

theorem isPast_ofAnswer? (answer? : Option Bool) :
    (Progress.ofAnswer? answer?).isPast = true ∧ Progress.ofAnswer? answer? ≠ .loading := by
  cases answer? <;> exact ⟨rfl, nofun⟩

end Actions

namespace Crowd

variable {c c' : Crowd α} {i j : Nat} {a : Action α} {p : Progress} {l : Lazy α}

section Moves

variable (c i p l)

@[simp] theorem move_lazy : (c.move i p l).lazy = l :=
  rfl

@[simp] theorem move_progress_self : (c.move i p l).progress i = some p := by
  simp only [move, Function.update_self]

variable {c i p l}

theorem move_progress_of_ne (h : j ≠ i) : (c.move i p l).progress j = c.progress j := by
  simp only [move, Function.update_of_ne h]

theorem move_runs (h : p ≠ .loading) : (c.move i p l).runs = c.runs :=
  if_neg h

theorem mem_runs_move :
    j ∈ (c.move i p l).runs ↔ j ∈ c.runs ∨ (p = .loading ∧ j = i) := by
  rw [move]
  split <;> simp_all

/-- Where a caller does not load, only its last progress counts. -/
theorem move_move {q : Progress} {l' : Lazy α} (h : p ≠ .loading) :
    (c.move i p l).move i q l' = c.move i q l' := by
  have hloader : (if (c.move i p l).loader? = some i then none else (c.move i p l).loader?) =
      if c.loader? = some i then none else c.loader? := by
    simp only [move, if_neg h]
    split <;> simp_all
  rw [move, hloader, move_runs h]
  simp only [move, Function.update_idem]

theorem move_loader?_eq_none (h : p ≠ .loading) (hfree : c.loader? = none) :
    (c.move i p l).loader? = none := by
  simp only [move, if_neg h, hfree]
  rfl

theorem move_loader?_eq_some_iff :
    (c.move i p l).loader? = some j ↔
      if j = i then p = .loading else p ≠ .loading ∧ c.loader? = some j := by
  by_cases hp : p = .loading
  · simp only [move, if_pos hp, Option.some.injEq]
    split
    · next hj => exact iff_of_true hj.symm hp
    · next hj => exact iff_of_false (Ne.symm hj) fun h => h.1 hp
  · simp only [move, if_neg hp]
    grind

end Moves

section Steps

/-- One caller loads at a time, only while there is no value, and nobody loads twice; and no
caller that waits has noted more failures than there are. -/
structure Sound (c : Crowd α) : Prop where
  noted : ∀ i seen, c.progress i = some (.waiting seen) → seen ≤ c.lazy.failures
  loader : ∀ i, c.loader? = some i ↔ c.progress i = some .loading
  missing : ∀ i, c.loader? = some i → c.lazy.value? = none
  once : c.runs.Nodup
  past : ∀ i ∈ c.runs, ∃ p, c.progress i = some p ∧ p.isPast = true
  running : ∀ i, c.loader? = some i → i ∈ c.runs

theorem sound_quiet (l : Lazy α) : (quiet l).Sound where
  noted := nofun
  loader := fun _ => ⟨nofun, nofun⟩
  missing := nofun
  once := List.nodup_nil
  past := nofun
  running := nofun

/-- A caller that is not past its wait has not loaded. -/
theorem Sound.notMem_runs (hc : c.Sound)
    (h : ∀ p, c.progress i = some p → p.isPast = false) : i ∉ c.runs := by
  intro hi
  obtain ⟨p, hp, hpast⟩ := hc.past i hi
  rw [h p hp] at hpast
  cases hpast

theorem Sound.move (hc : c.Sound) (hfailures : c.lazy.failures ≤ l.failures)
    (hnoted : ∀ seen, p = .waiting seen → seen ≤ l.failures)
    (hload : p = .loading → c.loader? = none ∧ l.value? = none ∧ i ∉ c.runs)
    (hother : ∀ j, j ≠ i → c.loader? = some j → l.value? = none)
    (hpast : i ∈ c.runs → p.isPast = true) : (c.move i p l).Sound where
  noted := by
    intro j seen hj
    rcases eq_or_ne j i with rfl | hne
    · rw [move_progress_self] at hj
      exact hnoted seen (Option.some.inj hj)
    · rw [move_progress_of_ne hne] at hj
      exact Nat.le_trans (hc.noted j seen hj) hfailures
  loader := by
    intro j
    rw [move_loader?_eq_some_iff]
    rcases eq_or_ne j i with rfl | hne
    · rw [if_pos rfl, move_progress_self, Option.some.injEq]
    · rw [if_neg hne, move_progress_of_ne hne, ← hc.loader j]
      refine and_iff_right_of_imp fun hj hp => ?_
      rw [(hload hp).1] at hj
      cases hj
  missing := by
    intro j hj
    rw [move_loader?_eq_some_iff] at hj
    split at hj
    · exact (hload hj).2.1
    · next hne => exact hother j hne hj.2
  once := by
    by_cases hp : p = .loading
    · simp only [Crowd.move, if_pos hp]
      exact List.nodup_append.mpr ⟨hc.once, List.nodup_singleton i,
        fun _ hj _ hi => ne_of_mem_of_not_mem hj (List.mem_singleton.mp hi ▸ (hload hp).2.2)⟩
    · rw [move_runs hp]
      exact hc.once
  past := by
    intro j hj
    rcases eq_or_ne j i with rfl | hne
    · refine ⟨p, move_progress_self .., ?_⟩
      rcases mem_runs_move.mp hj with hj | ⟨rfl, -⟩
      · exact hpast hj
      · rfl
    · rw [move_progress_of_ne hne]
      exact hc.past j ((mem_runs_move.mp hj).resolve_right fun h => hne h.2)
  running := by
    intro j hj
    rw [move_loader?_eq_some_iff] at hj
    rw [mem_runs_move]
    split at hj
    · next hji => exact Or.inr ⟨hj, hji⟩
    · exact Or.inl (hc.running j hj.2)

theorem step_cases (h : c.step i a = some c') :
    c.isFree a = true ∧
      ∃ p l, c.lazy.act? (c.progress i) a = some (p, l) ∧ c' = c.move i p l := by
  rw [step] at h
  split at h
  · next hfree =>
      obtain ⟨⟨p, l⟩, hact, rfl⟩ := Option.map_eq_some_iff.mp h
      exact ⟨hfree, p, l, hact, rfl⟩
  · cases h

/-- Before the turns nothing is loaded. -/
theorem step_early (h : c.step i a = some c') (ha : a.isEarly = true) :
    ∃ p l, Early c.lazy l (c.progress i) p ∧ c' = c.move i p l := by
  obtain ⟨-, p, l, hact, rfl⟩ := step_cases h
  exact ⟨p, l, early_of_act? hact ha, rfl⟩

theorem step_turn (h : c.step i .turn = some c') :
    c.loader? = none ∧ ∃ seen, c.progress i = some (.waiting seen) ∧
      c' = c.move i (((c.lazy.settled? seen).map .answered).getD .loading) c.lazy := by
  obtain ⟨hfree, p, l, hact, rfl⟩ := step_cases h
  obtain ⟨seen, hprogress, rfl, rfl⟩ := act?_turn hact
  exact ⟨Option.isNone_iff_eq_none.mp hfree, seen, hprogress, rfl⟩

theorem step_turn_eq {seen : Nat} (hfree : c.loader? = none)
    (hwaiting : c.progress i = some (.waiting seen)) :
    c.step i .turn =
      some (c.move i (((c.lazy.settled? seen).map .answered).getD .loading) c.lazy) := by
  rw [Crowd.step, isFree, hfree, hwaiting]
  rfl

theorem step_finish_eq (hloading : c.progress i = some .loading) (load : Load α) :
    c.step i (.finish load) =
      some (c.move i (.ofAnswer? (c.lazy.runLoad load).answer?) (c.lazy.runLoad load).lazy) := by
  simp only [Crowd.step, isFree, if_true, hloading, act?, Option.map_some]

theorem step_finish {load : Load α} (h : c.step i (.finish load) = some c') :
    c.progress i = some .loading ∧
      c' = c.move i (.ofAnswer? (c.lazy.runLoad load).answer?) (c.lazy.runLoad load).lazy := by
  obtain ⟨-, p, l, hact, rfl⟩ := step_cases h
  obtain ⟨hprogress, rfl, rfl⟩ := act?_finish hact
  exact ⟨hprogress, rfl⟩

theorem Sound.step (hc : c.Sound) (h : c.step i a = some c') : c'.Sound := by
  cases hearly : a.isEarly with
  | true =>
      obtain ⟨p, l, hact, rfl⟩ := step_early h hearly
      refine hc.move (Nat.le_of_eq hact.failures.symm) ?_ (fun hp => absurd hp hact.next) ?_ ?_
      · intro seen hp
        exact Nat.le_of_eq ((hact.noted seen hp).trans hact.failures.symm)
      · intro j _ hj
        rw [hact.value?, hc.missing j hj]
      · exact fun hi => absurd hi (hc.notMem_runs fun q hq => (hact.before q hq).1)
  | false =>
      cases a with
      | turn =>
          obtain ⟨hfree, seen, hwaiting, rfl⟩ := step_turn h
          have hi : i ∉ c.runs := by
            refine hc.notMem_runs fun q hq => ?_
            rw [hwaiting] at hq
            exact Option.some.inj hq ▸ rfl
          refine hc.move (Nat.le_refl _) ?_ ?_ ?_ (fun hruns => absurd hruns hi)
          · intro seen' hp
            cases hsettled : c.lazy.settled? seen <;> simp [hsettled] at hp
          · intro hp
            cases hsettled : c.lazy.settled? seen with
            | none => exact ⟨hfree, value?_of_settled?_eq_none hsettled, hi⟩
            | some b => simp [hsettled] at hp
          · intro j _ hj
            exact hc.missing j hj
      | finish load =>
          obtain ⟨hloading, rfl⟩ := step_finish h
          obtain ⟨hpast, hnext⟩ := isPast_ofAnswer? (c.lazy.runLoad load).answer?
          refine hc.move (failures_le_runLoad c.lazy load) ?_ (fun hp => absurd hp hnext) ?_
            (fun _ => hpast)
          · intro seen hp
            rw [hp] at hpast
            cases hpast
          · -- only the caller itself can be the one that loads
            intro j hne hj
            rw [(hc.loader i).mpr hloading] at hj
            exact absurd (Option.some.inj hj).symm hne
      | _ => cases hearly

theorem Sound.after (hc : c.Sound) {actions : List (Nat × Action α)}
    (h : c.after actions = some c') : c'.Sound := by
  induction actions generalizing c with
  | nil => exact Option.some.inj h ▸ hc
  | cons action more ih =>
      obtain ⟨c₁, hstep, hmore⟩ := Option.bind_eq_some_iff.mp h
      exact ih (hc.step hstep) hmore

end Steps

section Alone

theorem after_append (c : Crowd α) (actions more : List (Nat × Action α)) :
    c.after (actions ++ more) = (c.after actions).bind fun c => c.after more := by
  induction actions generalizing c with
  | nil => rfl
  | cons action rest ih =>
      rw [List.cons_append, Crowd.after, Crowd.after, Option.bind_assoc]
      exact congrArg _ (funext ih)

/-- A caller is about to load: a call to load that begins, or a question that was the first to
mark an attempt. -/
def Begins (c : Crowd α) (i : Nat) : Prop :=
  c.progress i = none ∨ c.progress i = some .claimed

/-- What a caller does before its turn, if nobody comes in between, is an arrival. -/
theorem after_arrive (hbegins : c.Begins i) (hvalue : c.lazy.value? = none) :
    c.lazy.arrive.1 = some c.lazy.failures ∧
      c.after [(i, .mark), (i, .look), (i, .note)] =
        some (c.move i (.waiting c.lazy.failures) c.lazy.arrive.2) := by
  refine ⟨by simp [arrive, isLoaded, hvalue], ?_⟩
  rcases hbegins with hi | hi <;>
    simp [Crowd.after, Crowd.step, isFree, act?, hi, hvalue, isLoaded, arrive, move_move]

/-- At its turn such a caller starts its load. -/
theorem after_turn (hfree : c.loader? = none) (hbegins : c.Begins i)
    (hvalue : c.lazy.value? = none) :
    c.after [(i, .mark), (i, .look), (i, .note), (i, .turn)] =
      some (c.move i .loading c.lazy.arrive.2) := by
  have harrive := (after_arrive hbegins hvalue).2
  have hsettled : c.lazy.arrive.2.settled? c.lazy.failures = none :=
    settled?_failures (l := c.lazy.arrive.2) hvalue
  have hturn := step_turn_eq (c := c.move i (.waiting c.lazy.failures) c.lazy.arrive.2)
    (move_loader?_eq_none nofun hfree) (move_progress_self ..)
  rw [move_lazy, hsettled, Option.map_none, Option.getD_none,
    move_move Progress.noConfusion] at hturn
  show c.after ([(i, .mark), (i, .look), (i, .note)] ++ [(i, .turn)]) = _
  rw [after_append, harrive, Option.bind_some, Crowd.after, hturn]
  rfl

/-- So a caller that nobody comes in between of runs its load, and answers and leaves behind
the same as `init`. -/
theorem after_init (hfree : c.loader? = none) (hbegins : c.Begins i)
    (hvalue : c.lazy.value? = none) (load : Load α) :
    let turn := c.lazy.init fun _ => load
    turn.ran = true ∧
      ∃ c', c.after [(i, .mark), (i, .look), (i, .note), (i, .turn), (i, .finish load)] = some c' ∧
        c'.progress i = some (.ofAnswer? turn.answer?) ∧ c'.lazy = turn.lazy := by
  intro turn
  have hturn : turn = c.lazy.arrive.2.runLoad load := init_of_value?_eq_none hvalue _
  have hfinish := step_finish_eq (c := c.move i .loading c.lazy.arrive.2)
    (move_progress_self ..) load
  refine ⟨by rw [hturn]; cases load <;> rfl,
    (c.move i .loading c.lazy.arrive.2).move i (.ofAnswer? turn.answer?) turn.lazy, ?_,
    move_progress_self .., rfl⟩
  show c.after ([(i, .mark), (i, .look), (i, .note), (i, .turn)] ++ [(i, .finish load)]) = _
  rw [after_append, after_turn hfree hbegins hvalue, Option.bind_some, Crowd.after, hfinish,
    hturn]
  rfl

/-- A question that nobody comes in between of does what `getOrAttempt` does: it loads if
nobody has tried. -/
theorem after_getOrAttempt (hfree : c.loader? = none) (hnew : c.progress i = none)
    (hvalue : c.lazy.value? = none) (hfresh : c.lazy.attempted = false) (load : Load α) :
    ∃ c', c.after [(i, .ask), (i, .claim), (i, .mark), (i, .look), (i, .note), (i, .turn),
        (i, .finish load)] = some c' ∧
      c'.lazy = (c.lazy.getOrAttempt fun _ => load).lazy := by
  have hclaim : c.after [(i, .ask), (i, .claim)] =
      some (c.move i .claimed { c.lazy with attempted := true }) := by
    simp [Crowd.after, Crowd.step, isFree, act?, hnew, hvalue, hfresh, isLoaded, move_move]
  obtain ⟨-, c', hafter, -, hlazy⟩ :=
    after_init (c := c.move i .claimed { c.lazy with attempted := true })
      (move_loader?_eq_none (by decide) hfree) (Or.inr (move_progress_self ..)) hvalue load
  refine ⟨c', ?_, ?_⟩
  · show c.after ([(i, .ask), (i, .claim)] ++
      [(i, .mark), (i, .look), (i, .note), (i, .turn), (i, .finish load)]) = _
    rw [after_append, hclaim]
    exact hafter
  · have hinit := init_of_value?_eq_none (l := { c.lazy with attempted := true }) hvalue
      fun _ => load
    rw [hlazy, getOrAttempt_of_fresh hvalue hfresh, move_lazy, hinit]

end Alone

section Turns

variable {b : Bool} {callers : List Nat} {actions : List (Nat × Action α)}

/-- What a turn goes by is the same in two crowds, and nobody has loaded in between. -/
structure Still (c c' : Crowd α) : Prop where
  value? : c'.lazy.value? = c.lazy.value?
  failures : c'.lazy.failures = c.lazy.failures
  runs : c'.runs = c.runs

theorem Still.refl (c : Crowd α) : c.Still c :=
  ⟨rfl, rfl, rfl⟩

theorem Still.trans {c₁ c₂ c₃ : Crowd α} (h : c₁.Still c₂) (h' : c₂.Still c₃) : c₁.Still c₃ :=
  ⟨h'.value?.trans h.value?, h'.failures.trans h.failures, h'.runs.trans h.runs⟩

/-- Nobody loads, and for the callers that still wait it is settled what they answer. -/
structure Settled (callers : List Nat) (b : Bool) (c : Crowd α) : Prop where
  free : c.loader? = none
  callers : ∀ i ∈ callers, c.progress i = some (.answered b) ∨
    ∃ seen, c.progress i = some (.waiting seen) ∧ c.lazy.settled? seen = some b

theorem step_of_answered (h : c.step i a = some c') (hj : c.progress j = some (.answered b)) :
    c'.progress j = some (.answered b) := by
  obtain ⟨-, p, l, hact, rfl⟩ := step_cases h
  rcases eq_or_ne j i with rfl | hne
  · rw [hj] at hact
    cases a <;> cases hact
  · rwa [move_progress_of_ne hne]

theorem after_of_answered (h : c.after actions = some c')
    (hj : c.progress j = some (.answered b)) : c'.progress j = some (.answered b) := by
  induction actions generalizing c with
  | nil => exact Option.some.inj h ▸ hj
  | cons action more ih =>
      obtain ⟨c₁, hstep, hmore⟩ := Option.bind_eq_some_iff.mp h
      exact ih hmore (step_of_answered hstep hj)

/-- While nobody loads, an action before the turns changes nothing that a turn goes by. -/
theorem Still.early {p : Progress} {l : Lazy α} (h : Early c.lazy l (c.progress i) p) :
    c.Still (c.move i p l) :=
  ⟨h.value?, h.failures, move_runs h.next⟩

theorem Settled.early {p : Progress} {l : Lazy α} (hsettled : Settled callers b c)
    (h : Early c.lazy l (c.progress i) p) : Settled callers b (c.move i p l) := by
  refine ⟨move_loader?_eq_none h.next hsettled.free, fun j hj => ?_⟩
  -- a caller that waits or has answered does nothing before the turns
  have hne : j ≠ i := by
    rintro rfl
    rcases hsettled.callers j hj with hanswer | ⟨seen, hwaiting, -⟩
    · cases (h.before _ hanswer).1
    · exact (h.before _ hwaiting).2 seen rfl
  rw [move_progress_of_ne hne, move_lazy]
  simp only [settled?_congr h.value? h.failures]
  exact hsettled.callers j hj

/-- At its turn a caller answers what is settled. -/
theorem Settled.turn (hsettled : Settled callers b c) (hi : i ∈ callers)
    (h : c.step i .turn = some c') :
    c' = c.move i (.answered b) c.lazy ∧ Settled callers b c' := by
  obtain ⟨-, seen, hwaiting, rfl⟩ := step_turn h
  have hseen : c.lazy.settled? seen = some b := by
    rcases hsettled.callers i hi with hanswer | ⟨seen', hwaiting', hseen'⟩
    · rw [hanswer] at hwaiting
      cases hwaiting
    · rw [hwaiting'] at hwaiting
      cases hwaiting
      exact hseen'
  rw [hseen]
  refine ⟨rfl, move_loader?_eq_none nofun hsettled.free, fun j hj => ?_⟩
  rcases eq_or_ne j i with rfl | hne
  · exact Or.inl (move_progress_self ..)
  · rw [move_progress_of_ne hne]
    exact hsettled.callers j hj

theorem Settled.step (hc : c.Sound) (hsettled : Settled callers b c)
    (hturn : a = .turn → i ∈ callers) (h : c.step i a = some c') :
    Settled callers b c' ∧ c.Still c' ∧ (a = .turn → c'.progress i = some (.answered b)) := by
  cases hearly : a.isEarly with
  | true =>
      obtain ⟨p, l, hact, rfl⟩ := step_early h hearly
      refine ⟨hsettled.early hact, .early hact, fun ha => ?_⟩
      rw [ha] at hearly
      cases hearly
  | false =>
      cases a with
      | turn =>
          obtain ⟨rfl, hsettled'⟩ := hsettled.turn (hturn rfl) h
          exact ⟨hsettled', ⟨rfl, rfl, move_runs nofun⟩, fun _ => move_progress_self ..⟩
      | finish load =>
          have hloading := (hc.loader i).mpr (step_finish h).1
          rw [hsettled.free] at hloading
          cases hloading
      | _ => cases hearly

theorem Settled.after (hc : c.Sound) (hsettled : Settled callers b c)
    (hturns : ∀ i, (i, Action.turn) ∈ actions → i ∈ callers) (h : c.after actions = some c') :
    Settled callers b c' ∧ c.Still c' ∧
      ∀ i, (i, Action.turn) ∈ actions → c'.progress i = some (.answered b) := by
  induction actions generalizing c with
  | nil =>
      obtain rfl := Option.some.inj h
      exact ⟨hsettled, .refl c, nofun⟩
  | cons action more ih =>
      obtain ⟨i, a⟩ := action
      obtain ⟨c₁, hstep, hmore⟩ := Option.bind_eq_some_iff.mp h
      obtain ⟨hsettled₁, hstill, hanswer⟩ :=
        hsettled.step hc (fun ha => hturns i (ha ▸ List.mem_cons_self ..)) hstep
      obtain ⟨hsettled', hstill', hanswers⟩ :=
        ih (hc.step hstep) hsettled₁ (fun j hj => hturns j (List.mem_cons_of_mem _ hj)) hmore
      refine ⟨hsettled', hstill.trans hstill', fun j hj => ?_⟩
      rcases List.mem_cons.mp hj with hhead | hj
      · obtain ⟨rfl, rfl⟩ := Prod.mk.inj hhead
        exact after_of_answered hmore (hanswer rfl)
      · exact hanswers j hj

/-- Callers for which it is settled what they answer can have their turns in any order. -/
theorem exists_after_turns (hfree : c.loader? = none) (hnodup : callers.Nodup)
    (hwaiting : ∀ i ∈ callers,
      ∃ seen, c.progress i = some (.waiting seen) ∧ c.lazy.settled? seen = some b) :
    ∃ c', c.after (callers.map fun i => (i, .turn)) = some c' := by
  induction callers generalizing c with
  | nil => exact ⟨c, rfl⟩
  | cons i more ih =>
      obtain ⟨hi, hmore⟩ := List.nodup_cons.mp hnodup
      obtain ⟨seen, hprogress, hseen⟩ := hwaiting i (List.mem_cons_self ..)
      have hstep := step_turn_eq hfree hprogress
      rw [hseen] at hstep
      obtain ⟨c', hafter⟩ := ih (c := c.move i (.answered b) c.lazy)
        (move_loader?_eq_none nofun hfree) hmore fun j hj => by
          have hne : j ≠ i := ne_of_mem_of_not_mem hj hi
          rw [move_progress_of_ne hne]
          exact hwaiting j (List.mem_cons_of_mem _ hj)
      refine ⟨c', ?_⟩
      rw [List.map_cons, Crowd.after, hstep]
      exact hafter

/-- When a load has ended it is settled what the callers answer that wait. -/
theorem Sound.finish (hc : c.Sound) {leader : Nat} (hleader : c.progress leader = some .loading)
    {load : Load α} (hload : load ≠ .panicked) :
    let c' := c.move leader (.answered load.value?.isSome) (c.lazy.runLoad load).lazy
    c.step leader (.finish load) = some c' ∧ c'.loader? = none ∧ c'.runs = c.runs ∧
      ∀ i seen, c.progress i = some (.waiting seen) →
        c'.progress i = some (.waiting seen) ∧
          c'.lazy.settled? seen = some load.value?.isSome := by
  have hloader := (hc.loader leader).mpr hleader
  refine ⟨?_, ?_, move_runs nofun, fun i seen hi => ⟨?_, ?_⟩⟩
  · rw [step_finish_eq hleader, answer?_runLoad hload]
    rfl
  · simp [Crowd.move, hloader]
  · rw [move_progress_of_ne, hi]
    rintro rfl
    rw [hleader] at hi
    cases hi
  · exact settled?_runLoad (hc.missing leader hloader) (hc.noted i seen hi) hload

end Turns

section Next

variable {next : Nat} {actions : List (Nat × Action α)}

/-- There is nothing to share for a call to load that is not past its wait. -/
structure Unshared (next : Nat) (c : Crowd α) : Prop where
  free : c.loader? = none
  missing : c.lazy.value? = none
  caller : ofInit c.lazy.failures (c.progress next) = true

theorem mem_runs_step (h : c.step i a = some c') (hj : j ∈ c.runs) : j ∈ c'.runs := by
  obtain ⟨-, p, l, -, rfl⟩ := step_cases h
  exact mem_runs_move.mpr (Or.inl hj)

theorem mem_runs_after (h : c.after actions = some c') (hj : j ∈ c.runs) : j ∈ c'.runs := by
  induction actions generalizing c with
  | nil => exact Option.some.inj h ▸ hj
  | cons action more ih =>
      obtain ⟨c₁, hstep, hmore⟩ := Option.bind_eq_some_iff.mp h
      exact ih hmore (mem_runs_step hstep hj)

/-- The turn of the call is the first after which something is different. -/
theorem Unshared.step (hc : c.Sound) (hnext : Unshared next c) (hturn : a = .turn → i = next)
    (hask : (i, a) ≠ (next, .ask)) (h : c.step i a = some c') :
    (a ≠ .turn → Unshared next c') ∧ (a = .turn → next ∈ c'.runs) := by
  obtain ⟨-, p, l, hact, rfl⟩ := step_cases h
  have hown : i = next →
      if a.isEarly then ofInit c.lazy.failures (some p) = true else a = .turn ∧ p = .loading := by
    rintro rfl
    exact act?_ofInit hnext.missing hnext.caller (fun ha => hask (ha ▸ rfl)) hact
  cases hearly : a.isEarly with
  | true =>
      have hsame := early_of_act? hact hearly
      refine ⟨fun _ => ⟨move_loader?_eq_none hsame.next hnext.free,
        hsame.value?.trans hnext.missing, ?_⟩, fun ha => ?_⟩
      · rw [move_lazy, hsame.failures]
        rcases eq_or_ne next i with rfl | hne
        · rw [move_progress_self]
          simpa [hearly] using hown rfl
        · rw [move_progress_of_ne hne]
          exact hnext.caller
      · rw [ha] at hearly
        cases hearly
  | false =>
      cases a with
      | turn =>
          obtain rfl := hturn rfl
          obtain rfl : p = .loading := by simpa [hearly] using hown rfl
          exact ⟨fun ha => absurd rfl ha, fun _ => mem_runs_move.mpr (Or.inr ⟨rfl, rfl⟩)⟩
      | finish load =>
          have hloading := (hc.loader i).mpr (step_finish h).1
          rw [hnext.free] at hloading
          cases hloading
      | _ => cases hearly

theorem Unshared.after (hc : c.Sound) (hnext : Unshared next c)
    (hturns : ∀ i, (i, Action.turn) ∈ actions → i = next) (hask : (next, Action.ask) ∉ actions)
    (hown : (next, Action.turn) ∈ actions) (h : c.after actions = some c') :
    next ∈ c'.runs := by
  induction actions generalizing c with
  | nil => cases hown
  | cons action more ih =>
      obtain ⟨i, a⟩ := action
      obtain ⟨c₁, hstep, hmore⟩ := Option.bind_eq_some_iff.mp h
      obtain ⟨hearly, hturn⟩ := hnext.step hc (fun ha => hturns i (ha ▸ List.mem_cons_self ..))
        (fun ha => hask (ha ▸ List.mem_cons_self ..)) hstep
      by_cases ha : a = .turn
      · exact mem_runs_after hmore (hturn ha)
      · refine ih (hc.step hstep) (hearly ha) (fun j hj => hturns j (List.mem_cons_of_mem _ hj))
          (fun hmem => hask (List.mem_cons_of_mem _ hmem)) ?_ hmore
        exact (List.mem_cons.mp hown).resolve_left fun hhead =>
          ha (Prod.mk.inj hhead).2.symm

end Next

section Sharing

/-- Exactly these callers have turns. -/
def TurnsOf (callers : List Nat) (actions : List (Nat × Action α)) : Prop :=
  ∀ i, (i, Action.turn) ∈ actions ↔ i ∈ callers

theorem turnsOf_map (callers : List Nat) :
    TurnsOf callers (callers.map fun i => ((i, .turn) : Nat × Action α)) := by
  simp [TurnsOf]

/-- A call to load that begins where nothing is loaded and nobody loads can have its turn, and
runs its load. -/
theorem Sound.next_runs (hc : c.Sound) (hfree : c.loader? = none) (hmissing : c.lazy.value? = none)
    {next : Nat} (hnext : c.progress next = none) :
    (∃ c', c.after [(next, .mark), (next, .look), (next, .note), (next, .turn)] = some c') ∧
      ∀ later c', TurnsOf [next] later → (next, .ask) ∉ later → c.after later = some c' →
        next ∈ c'.runs := by
  refine ⟨⟨_, after_turn hfree (.inl hnext) hmissing⟩, fun later c' hlater hask hlast => ?_⟩
  have hunshared : Unshared next c := ⟨hfree, hmissing, by rw [hnext]; rfl⟩
  exact hunshared.after hc (fun i hi => List.mem_singleton.mp ((hlater i).mp hi)) hask
    ((hlater next).mpr (List.mem_singleton.mpr rfl)) hlast

/-- Callers that wait while a load runs share it.  Whatever has come before, in any order of
their turns and whatever others do meanwhile before their own turns, all of them answer as the
caller whose load it is: whether it has brought a value.  It is the only load that ran, a failure is
recorded once, and after it the next call to load runs its own load. -/
theorem waiters_share_load {l : Lazy α} {before : List (Nat × Action α)} {c : Crowd α}
    (hbefore : (quiet l).after before = some c) {leader : Nat}
    (hleader : c.progress leader = some .loading) {waiters : List Nat} (hnodup : waiters.Nodup)
    (hwaiting : ∀ i ∈ waiters, ∃ seen, c.progress i = some (.waiting seen))
    {load : Load α} (hload : load ≠ .panicked) :
    (∃ c', c.after ((leader, .finish load) :: waiters.map fun i => (i, .turn)) = some c') ∧
      ∀ turns c', TurnsOf waiters turns →
        c.after ((leader, .finish load) :: turns) = some c' →
        (∀ i ∈ leader :: waiters, c'.progress i = some (.answered load.value?.isSome)) ∧
        c'.lazy.value? = load.value? ∧
        c'.lazy.failures = c.lazy.failures + (!load.value?.isSome).toNat ∧
        c'.runs = c.runs ∧ c'.runs.count leader = 1 ∧ (∀ i ∈ waiters, i ∉ c'.runs) ∧
        (load.value? = none →
          (∀ retry, (c'.lazy.init fun _ => retry).ran = true) ∧
          ∀ next, c'.progress next = none →
            (∃ c'', c'.after [(next, .mark), (next, .look), (next, .note), (next, .turn)] =
              some c'') ∧
            ∀ later c'', TurnsOf [next] later → (next, .ask) ∉ later →
              c'.after later = some c'' → next ∈ c''.runs) := by
  have hc := (sound_quiet l).after hbefore
  have hloader := (hc.loader leader).mpr hleader
  obtain ⟨hfinish, hfree, hruns, hwaiting'⟩ := hc.finish hleader hload
  have hwaits : ∀ i ∈ waiters, ∃ seen, _ ∧ _ := fun i hi =>
    (hwaiting i hi).imp fun seen hseen => hwaiting' i seen hseen
  refine ⟨?_, fun turns c' hturns h => ?_⟩
  · obtain ⟨c', hafter⟩ := exists_after_turns hfree hnodup hwaits
    refine ⟨c', ?_⟩
    rw [Crowd.after, hfinish]
    exact hafter
  · obtain ⟨c₁, hstep, hafter⟩ := Option.bind_eq_some_iff.mp h
    obtain rfl : _ = c₁ := Option.some.inj (hfinish.symm.trans hstep)
    have hc₁ := hc.step hstep
    have hsettled : Settled waiters load.value?.isSome _ :=
      ⟨hfree, fun i hi => Or.inr (hwaits i hi)⟩
    obtain ⟨hsettled', hstill, hanswers⟩ :=
      hsettled.after hc₁ (fun i hi => (hturns i).mp hi) hafter
    have hvalue : c'.lazy.value? = load.value? :=
      hstill.value?.trans (value?_runLoad (hc.missing leader hloader) load)
    have hsame := hstill.runs.trans hruns
    refine ⟨?_, hvalue, hstill.failures.trans (failures_runLoad hload), hsame, ?_, ?_, ?_⟩
    · intro i hi
      rcases List.mem_cons.mp hi with rfl | hi
      · exact after_of_answered hafter (move_progress_self ..)
      · exact hanswers i ((hturns i).mpr hi)
    · rw [hsame]
      exact List.count_eq_one_of_mem hc.once (hc.running leader hloader)
    · intro i hi
      obtain ⟨seen, hseen⟩ := hwaiting i hi
      rw [hsame]
      refine hc.notMem_runs fun p hp => ?_
      rw [hseen] at hp
      exact Option.some.inj hp ▸ rfl
    · intro hfailed
      have hmissing := hvalue.trans hfailed
      refine ⟨fun retry => ?_, fun next hnext =>
        (hc₁.after hafter).next_runs hsettled'.free hmissing hnext⟩
      rw [init_of_value?_eq_none hmissing]
      cases retry <;> rfl

theorem waiters_share_load_two :
    ∃ c c' : Crowd Nat,
      (quiet (fresh .https)).after
        [(0, .mark), (0, .look), (1, .mark), (0, .note), (0, .turn), (1, .look), (1, .note),
          (2, .mark), (2, .look), (2, .note)] = some c ∧
      c.after [(0, .finish (.failed (.noRegionalList "de"))), (2, .turn), (1, .turn)] = some c' ∧
      (∀ i ∈ [0, 2, 1], c'.progress i = some (.answered false)) ∧ c'.lazy.failures = 1 := by
  obtain ⟨c, hbefore, hleader, hsecond, hfirst, hfailures⟩ : ∃ c : Crowd Nat,
      (quiet (fresh .https)).after
        [(0, .mark), (0, .look), (1, .mark), (0, .note), (0, .turn), (1, .look), (1, .note),
          (2, .mark), (2, .look), (2, .note)] = some c ∧ c.progress 0 = some .loading ∧
      c.progress 2 = some (.waiting 0) ∧ c.progress 1 = some (.waiting 0) ∧
      c.lazy.failures = 0 := ⟨_, rfl, rfl, rfl, rfl, rfl⟩
  have hwaiting : ∀ i ∈ [2, 1], ∃ seen, c.progress i = some (.waiting seen) := by
    simp [hsecond, hfirst]
  have hload : Load.failed (.noRegionalList "de") ≠ (.panicked : Load Nat) := nofun
  obtain ⟨⟨c', hafter⟩, hshare⟩ :=
    waiters_share_load hbefore hleader (by decide) hwaiting hload
  obtain ⟨hanswers, -, hfailed, -⟩ := hshare _ c' (turnsOf_map [2, 1]) hafter
  rw [hfailures] at hfailed
  exact ⟨c, c', hbefore, hafter, hanswers, hfailed⟩

end Sharing

end Crowd

section Together

variable {l : Lazy α} {load : Load α}

theorem enterAll_replicate {seen : Nat} {b : Bool} (h : l.settled? seen = some b) (n : Nat)
    (load : Unit → Load α) :
    l.enterAll load (List.replicate n seen) = (List.replicate n ⟨some b, false, [], l⟩, l) := by
  induction n with
  | zero => rfl
  | succ n ih => rw [List.replicate_succ, enterAll, enter_eq, h, ih, List.replicate_succ]

/-- Calls that come together: the first one loads, and the others answer the same. -/
theorem initTogether_eq (hvalue : l.value? = none) (hload : load ≠ .panicked) (n : Nat) :
    let turn := l.init fun _ => load
    l.initTogether n (fun _ => load) =
      (turn, List.replicate n ⟨turn.answer?, false, [], turn.lazy⟩, turn.lazy) := by
  intro turn
  have hturn : turn = l.arrive.2.runLoad load := init_of_value?_eq_none hvalue _
  have harrive : l.arrive = (some l.failures, l.arrive.2) := by
    simp [arrive, isLoaded, hvalue]
  have hfirst : l.arrive.2.settled? l.failures = none :=
    settled?_failures (l := l.arrive.2) hvalue
  have hothers : turn.lazy.settled? l.failures = some load.value?.isSome :=
    hturn ▸ settled?_runLoad (l := l.arrive.2) hvalue (Nat.le_refl _) hload
  have hanswer : turn.answer? = some load.value?.isSome := hturn ▸ answer?_runLoad hload
  have henter : l.arrive.2.enter l.failures (fun _ => load) = turn := by
    rw [enter_eq, hfirst, hturn]
  rw [initTogether, harrive]
  simp only [henter]
  rw [show l.arrive.2.failures = l.failures from rfl, enterAll_replicate hothers, hanswer]

end Together

end Lazy
end RequestGuard
