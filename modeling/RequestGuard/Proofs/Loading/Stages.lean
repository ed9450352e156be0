import Mathlib.Algebra.GroupWithZero.Nat
import RequestGuard.Loading.Call

/-!
# A lazily loaded value goes through three stages

A value is fresh, or somebody has tried to load it, or it is loaded.  `Stage.move` is the
table of what each call does at each stage: its reply, whether its load runs, what is
logged, how many failures are recorded, and the stage after it.

* `seen_eq_move`: one call does what the table says.
* `trace_fresh_eq_moves`: so does every call of a run.  The first load that succeeds is
  the only one that does, and a question runs a load only if nobody has tried before.
-/

namespace RequestGuard
namespace Lazy

variable {α : Type}

section Stages

/-- How far the loading of a value has come. -/
inductive Stage (α : Type) where
  /-- Nobody has tried to load the value. -/
  | fresh
  /-- Loads were tried, and none has succeeded. -/
  | tried
  /-- The value is there. -/
  | loaded (value : α)
  deriving DecidableEq, Repr

/-- The value at a stage. -/
def Stage.value? : Stage α → Option α
  | .loaded a => some a
  | _ => none

/-- What there is to see of a call. -/
structure Move (α : Type) where
  /-- The reply. -/
  reply : Reply α
  /-- Whether the call ran its load. -/
  ran : Bool
  /-- What was logged. -/
  log : List LogLine
  /-- The number of failures that were recorded. -/
  failed : Nat
  /-- The stage after the call. -/
  next : Stage α
  deriving DecidableEq, Repr

/-- A call that runs no load and stays at its stage. -/
def Move.quiet (s : Stage α) (reply : Reply α) : Move α :=
  ⟨reply, false, [], 0, s⟩

/-- A call that runs its load, given its reply if there is a value and if there is
none.  A load that breaks off counts as tried and not as failed. -/
def Move.load (family : Family) (found : α → Reply α) (missing : Reply α) : Load α → Move α
  | .loaded a => ⟨found a, true, [], 0, .loaded a⟩
  | .failed f => ⟨missing, true, [warning family f], 1, .tried⟩
  | .panicked => ⟨.panicked, true, [], 0, .tried⟩

/-- What a call does at a stage. -/
def Stage.move (family : Family) : Stage α → Call α → Move α
  | .loaded a, .init _ => .quiet (.loaded a) (.truth true)
  | _, .init load => .load family (fun _ => .truth true) (.truth false) load
  | .fresh, .getOrAttempt load => .load family (fun a => .value (some a)) (.value none) load
  | s, .getOrAttempt _ => .quiet s (.value s.value?)
  | s, .get => .quiet s (.value s.value?)
  | s, .isLoaded => .quiet s (.truth s.value?.isSome)

/-- What calls do from a stage on. -/
def Stage.moves (family : Family) : Stage α → List (Call α) → List (Move α)
  | _, [] => []
  | s, call :: more => s.move family call :: (s.move family call).next.moves family more

end Stages

section Table

/-- The value that a call has to offer. -/
def Call.offer? : Call α → Option α
  | .init (.loaded a) => some a
  | .getOrAttempt (.loaded a) => some a
  | _ => none

/-- A call that is about the value and loads it on the way. -/
def Call.isQuestion : Call α → Bool
  | .getOrAttempt _ => true
  | _ => false

/-- The reply to a call where there is a value. -/
def Call.replyWith (a : α) : Call α → Reply α
  | .init _ => .truth true
  | .getOrAttempt _ => .value (some a)
  | .get => .value (some a)
  | .isLoaded => .truth true

variable (family : Family)

theorem move_loaded (a : α) (call : Call α) :
    (Stage.loaded a).move family call = .quiet (.loaded a) (call.replyWith a) := by
  cases call <;> rfl

theorem move_init {s : Stage α} (h : s.value? = none) (load : Load α) :
    s.move family (.init load) =
      .load family (fun _ => .truth true) (.truth false) load := by
  cases s with
  | loaded a => cases h
  | fresh => rfl
  | tried => rfl

theorem move_get (s : Stage α) : s.move family .get = .quiet s (.value s.value?) := by
  cases s <;> rfl

theorem move_isLoaded (s : Stage α) :
    s.move family .isLoaded = .quiet s (.truth s.value?.isSome) := by
  cases s <;> rfl

/-- The value after a call is the one before it, or what its load has brought. -/
theorem value?_next (s : Stage α) (call : Call α) :
    (s.move family call).next.value? =
      s.value?.or (if (s.move family call).ran then call.offer? else none) := by
  cases s with
  | loaded a => rw [move_loaded]; rfl
  | fresh =>
      cases call with
      | init load => cases load <;> rfl
      | getOrAttempt load => cases load <;> rfl
      | get => rfl
      | isLoaded => rfl
  | tried =>
      cases call with
      | init load => cases load <;> rfl
      | getOrAttempt load => rfl
      | get => rfl
      | isLoaded => rfl

theorem next_load_ne_fresh (found : α → Reply α) (missing : Reply α) (load : Load α) :
    (Move.load family found missing load).next ≠ .fresh := by
  cases load <;> simp [Move.load]

theorem next_ne_fresh {s : Stage α} (hs : s ≠ .fresh) (call : Call α) :
    (s.move family call).next ≠ .fresh := by
  cases s with
  | fresh => exact absurd rfl hs
  | loaded a =>
      rw [move_loaded]
      exact hs
  | tried =>
      cases call with
      | init load => exact next_load_ne_fresh family _ _ load
      | getOrAttempt load => exact hs
      | get => exact hs
      | isLoaded => exact hs

/-- A question runs its load only where nobody has tried, and then somebody has. -/
theorem of_ran_question {s : Stage α} {call : Call α}
    (hquestion : call.isQuestion = true) (hran : (s.move family call).ran = true) :
    s = .fresh ∧ (s.move family call).next ≠ .fresh := by
  cases call with
  | getOrAttempt load =>
      cases s with
      | fresh => exact ⟨rfl, next_load_ne_fresh family _ _ load⟩
      | tried => cases hran
      | loaded a => cases hran
  | _ => cases hquestion

end Table

section Calls

variable {l : Lazy α}

/-- The stage of a value. -/
def stage (l : Lazy α) : Stage α :=
  match l.value? with
  | some a => .loaded a
  | none => if l.attempted then .tried else .fresh

/-- What there is to see of a call to a value. -/
def seen (l : Lazy α) (call : Call α) : Move α :=
  let turn := l.answer call
  ⟨turn.1, turn.2.1, turn.2.2.1, turn.2.2.2.failures - l.failures, turn.2.2.2.stage⟩

theorem value?_stage (l : Lazy α) : l.stage.value? = l.value? := by
  rw [stage]
  cases l.value? with
  | some a => rfl
  | none => cases l.attempted <;> rfl

theorem stage_of_value? {a : α} (h : l.value? = some a) : l.stage = .loaded a := by
  rw [stage, h]

theorem stage_of_attempted (h : l.value? = none) (htried : l.attempted = true) :
    l.stage = .tried := by
  rw [stage, h, htried]
  rfl

theorem stage_of_not_attempted (h : l.value? = none) (hfresh : l.attempted = false) :
    l.stage = .fresh := by
  rw [stage, h, hfresh]
  rfl

/-- Where there is no value, `init` runs its load.  Nobody came in between, so the number
of failures is the one that was remembered. -/
theorem init_of_value?_eq_none (h : l.value? = none) (load : Unit → Load α) :
    l.init load = { l with attempted := true }.runLoad (load ()) := by
  simp [init, arrive, enter, isLoaded, h]

theorem init_of_value?_eq_some {a : α} (h : l.value? = some a) (load : Unit → Load α) :
    l.init load = ⟨some true, false, [], { l with attempted := true }⟩ := by
  simp [init, arrive, isLoaded, h]

theorem getOrAttempt_of_fresh
    (h : l.value? = none) (hfresh : l.attempted = false) (load : Unit → Load α) :
    l.getOrAttempt load =
      let t := { l with attempted := true }.runLoad (load ())
      ⟨t.answer?.map fun _ => t.lazy.value?, t.ran, t.log, t.lazy⟩ := by
  have hinit : ({ l with attempted := true } : Lazy α).init load =
      { l with attempted := true }.runLoad (load ()) :=
    init_of_value?_eq_none h load
  rw [getOrAttempt, if_neg (by simp [isLoaded, h, hfresh]), hinit]

theorem getOrAttempt_of_tried (h : l.isLoaded ∨ l.attempted) (load : Unit → Load α) :
    l.getOrAttempt load = ⟨some l.value?, false, [], l⟩ :=
  if_pos h

theorem seen_init (l : Lazy α) (load : Load α) :
    l.seen (.init load) = l.stage.move l.family (.init load) := by
  cases hvalue : l.value? with
  | some a =>
      rw [stage_of_value? hvalue, seen, answer, init_of_value?_eq_some hvalue]
      simp [Turn.replied, stage, hvalue, Stage.move, Move.quiet]
  | none =>
      rw [move_init l.family (by rw [value?_stage, hvalue]), seen, answer,
        init_of_value?_eq_none hvalue]
      cases load <;> simp [Turn.replied, runLoad, Move.load, stage, hvalue]

theorem seen_getOrAttempt (l : Lazy α) (load : Load α) :
    l.seen (.getOrAttempt load) = l.stage.move l.family (.getOrAttempt load) := by
  cases hvalue : l.value? with
  | some a =>
      have hloaded : l.isLoaded ∨ l.attempted := Or.inl (by rw [isLoaded, hvalue]; rfl)
      rw [stage_of_value? hvalue, seen, answer, getOrAttempt_of_tried hloaded]
      simp [Turn.replied, stage, hvalue, Stage.move, Move.quiet, Stage.value?]
  | none =>
      cases hattempted : l.attempted with
      | true =>
          rw [stage_of_attempted hvalue hattempted, seen, answer,
            getOrAttempt_of_tried (Or.inr hattempted)]
          simp [Turn.replied, stage, hvalue, hattempted, Stage.move, Move.quiet, Stage.value?]
      | false =>
          rw [stage_of_not_attempted hvalue hattempted, seen, answer,
            getOrAttempt_of_fresh hvalue hattempted]
          cases load <;> simp [Turn.replied, runLoad, Stage.move, Move.load, stage, hvalue]

theorem seen_eq_move (l : Lazy α) (call : Call α) :
    l.seen call = l.stage.move l.family call := by
  cases call with
  | init load => exact seen_init l load
  | getOrAttempt load => exact seen_getOrAttempt l load
  | get => rw [move_get, value?_stage, seen, answer, Nat.sub_self, Move.quiet]
  | isLoaded => rw [move_isLoaded, value?_stage, seen, answer, Nat.sub_self, Move.quiet, isLoaded]

/-- What a call leaves of a value: the value as it was, with an attempt marked, or with
an attempt marked and a load run. -/
theorem lazy_answer (l : Lazy α) (call : Call α) :
    (l.answer call).2.2.2 = l ∨ (l.answer call).2.2.2 = { l with attempted := true } ∨
      ∃ load, (l.answer call).2.2.2 = ({ l with attempted := true }.runLoad load).lazy := by
  cases call with
  | init load =>
      right
      rcases Option.eq_none_or_eq_some l.value? with hvalue | ⟨a, hvalue⟩
      · right; exact ⟨load, by rw [answer, init_of_value?_eq_none hvalue]; rfl⟩
      · left; rw [answer, init_of_value?_eq_some hvalue]; rfl
  | getOrAttempt load =>
      by_cases htried : l.isLoaded ∨ l.attempted
      · left; rw [answer, getOrAttempt_of_tried htried]; rfl
      · obtain ⟨hvalue, hattempted⟩ : l.value? = none ∧ l.attempted = false := by
          simpa [isLoaded] using htried
        right; right
        exact ⟨load, by rw [answer, getOrAttempt_of_fresh hvalue hattempted]; rfl⟩
  | get => exact Or.inl rfl
  | isLoaded => exact Or.inl rfl

theorem family_answer (l : Lazy α) (call : Call α) :
    (l.answer call).2.2.2.family = l.family := by
  rcases lazy_answer l call with h | h | ⟨load, h⟩
  · rw [h]
  · rw [h]
  · rw [h]
    cases load <;> rfl

theorem failures_answer (l : Lazy α) (call : Call α) :
    (l.answer call).2.2.2.failures = l.failures + (l.seen call).failed := by
  have hle : l.failures ≤ (l.answer call).2.2.2.failures := by
    rcases lazy_answer l call with h | h | ⟨load, h⟩
    · exact Nat.le_of_eq (congrArg Lazy.failures h).symm
    · exact Nat.le_of_eq (congrArg Lazy.failures h).symm
    · rw [h]; cases load <;> simp [runLoad]
  rw [seen, Nat.add_sub_cancel' hle]

theorem stage_answer (l : Lazy α) (call : Call α) :
    (l.answer call).2.2.2.stage = (l.stage.move l.family call).next :=
  congrArg Move.next (seen_eq_move l call)

theorem ran_seen (l : Lazy α) (call : Call α) :
    (l.seen call).ran = (l.stage.move l.family call).ran :=
  congrArg Move.ran (seen_eq_move l call)

end Calls

section Runs

/-- What there is to see of the calls of a run. -/
def trace (l : Lazy α) : List (Call α) → List (Move α)
  | [] => []
  | call :: more => l.seen call :: (l.answer call).2.2.2.trace more

/-- The calls of a run that run their load. -/
def loaders (l : Lazy α) : List (Call α) → List (Call α)
  | [] => []
  | call :: more =>
    let later := (l.answer call).2.2.2.loaders more
    if (l.seen call).ran then call :: later else later

theorem trace_eq_moves (l : Lazy α) (calls : List (Call α)) :
    l.trace calls = l.stage.moves l.family calls := by
  induction calls generalizing l with
  | nil => rfl
  | cons call more ih =>
      rw [trace, Stage.moves, ih, seen_eq_move, stage_answer, family_answer]

theorem replies_run (l : Lazy α) (calls : List (Call α)) :
    (l.run calls).1 = (l.trace calls).map Move.reply := by
  induction calls generalizing l with
  | nil => rfl
  | cons call more ih => exact congrArg ((l.answer call).1 :: ·) (ih _)

theorem failures_run (l : Lazy α) (calls : List (Call α)) :
    (l.run calls).2.failures = l.failures + ((l.trace calls).map Move.failed).sum := by
  induction calls generalizing l with
  | nil => rfl
  | cons call more ih =>
      show ((l.answer call).2.2.2.run more).2.failures = _
      rw [ih, failures_answer, trace, List.map_cons, List.sum_cons, Nat.add_assoc]

/-- Where there is a value no load runs, and every call is answered with the value. -/
theorem run_of_value? {l : Lazy α} {a : α} (h : l.value? = some a) (calls : List (Call α)) :
    l.loaders calls = [] ∧ (l.run calls).2.value? = some a ∧
      (l.run calls).1 = calls.map (Call.replyWith a) := by
  induction calls generalizing l with
  | nil => exact ⟨rfl, h, rfl⟩
  | cons call more ih =>
      have hmove : l.seen call = .quiet (.loaded a) (call.replyWith a) := by
        rw [seen_eq_move, stage_of_value? h, move_loaded]
      have hvalue : (l.answer call).2.2.2.value? = some a := by
        rw [← value?_stage]
        exact congrArg (fun m : Move α => m.next.value?) hmove
      obtain ⟨hloaders, hlast, hreplies⟩ := ih hvalue
      refine ⟨?_, hlast, ?_⟩
      · rw [loaders, hmove, hloaders]
        rfl
      · have hreply : (l.answer call).1 = call.replyWith a := congrArg Move.reply hmove
        show (l.answer call).1 :: ((l.answer call).2.2.2.run more).1 = _
        rw [hreply, hreplies, List.map_cons]

/-- The value after a run is the one before it, or the first that a load has brought. -/
theorem value?_run (l : Lazy α) (calls : List (Call α)) :
    (l.run calls).2.value? = l.value?.or ((l.loaders calls).findSome? Call.offer?) := by
  induction calls generalizing l with
  | nil => exact Option.or_none.symm
  | cons call more ih =>
      have hvalue : (l.answer call).2.2.2.value? =
          l.value?.or (if (l.seen call).ran then call.offer? else none) := by
        rw [← value?_stage, stage_answer, value?_next, value?_stage, ran_seen]
      show ((l.answer call).2.2.2.run more).2.value? = _
      rw [ih, hvalue, loaders]
      cases (l.seen call).ran with
      | false => simp
      | true =>
          rw [if_pos rfl, if_pos rfl, List.findSome?_cons, Option.or_assoc]
          cases call.offer? <;> rfl

/-- Once somebody has tried, no question runs a load. -/
theorem countP_isQuestion_of_ne_fresh
    {l : Lazy α} (h : l.stage ≠ .fresh) (calls : List (Call α)) :
    (l.loaders calls).countP Call.isQuestion = 0 := by
  induction calls generalizing l with
  | nil => rfl
  | cons call more ih =>
      have hmore := ih (l := (l.answer call).2.2.2)
        (stage_answer l call ▸ next_ne_fresh l.family h call)
      rw [loaders]
      cases hran : (l.seen call).ran with
      | false => exact hmore
      | true =>
          cases hquestion : call.isQuestion with
          | true => exact absurd (of_ran_question l.family hquestion (ran_seen l call ▸ hran)).1 h
          | false =>
              rw [if_pos rfl, List.countP_cons_of_neg (by simp [hquestion])]
              exact hmore

/-- At most one question runs a load. -/
theorem countP_isQuestion_le (l : Lazy α) (calls : List (Call α)) :
    (l.loaders calls).countP Call.isQuestion ≤ 1 := by
  induction calls generalizing l with
  | nil => exact Nat.zero_le 1
  | cons call more ih =>
      have hmore := ih (l.answer call).2.2.2
      rw [loaders]
      cases hran : (l.seen call).ran with
      | false => exact hmore
      | true =>
          cases hquestion : call.isQuestion with
          | true =>
              -- a question that runs its load leaves nothing fresh behind
              have hnext :=
                (of_ran_question l.family hquestion (ran_seen l call ▸ hran)).2
              have hrest := countP_isQuestion_of_ne_fresh (stage_answer l call ▸ hnext)
              rw [if_pos rfl, List.countP_cons_of_pos hquestion]
              exact Nat.le_of_eq (congrArg (· + 1) (hrest more))
          | false =>
              rw [if_pos rfl, List.countP_cons_of_neg (by simp [hquestion])]
              exact hmore

/-- At most one load succeeds. -/
theorem countP_offer_le (l : Lazy α) (calls : List (Call α)) :
    (l.loaders calls).countP (fun call => call.offer?.isSome) ≤ 1 := by
  induction calls generalizing l with
  | nil => exact Nat.zero_le 1
  | cons call more ih =>
      have hmore := ih (l.answer call).2.2.2
      rw [loaders]
      cases hran : (l.seen call).ran with
      | false => exact hmore
      | true =>
          cases hoffer : call.offer? with
          | none =>
              rw [if_pos rfl, List.countP_cons_of_neg (by simp [hoffer])]
              exact hmore
          | some b =>
              -- The load that ran has left a value, so no other load runs.
              obtain ⟨a, hvalue⟩ : ∃ a, (l.answer call).2.2.2.value? = some a := by
                rw [← value?_stage, stage_answer, value?_next, ← ran_seen, hran, hoffer]
                cases l.stage.value? <;> exact ⟨_, rfl⟩
              rw [if_pos rfl, (run_of_value? hvalue more).1]
              exact List.countP_le_length

/-- **A lazily loaded value goes through three stages.**  Whatever calls are made and
however their loads end, each call does what the table says for the stage of the value,
which was fresh at the start: its reply, whether its load runs, the log, the failures that
are recorded, and the next stage.

The value is the one of the first load that succeeds, and no other load succeeds; at most
one load is run by a question.  Once there is a value, no load runs any more, and the
value stays and is what every call is answered with. -/
theorem trace_fresh_eq_moves (family : Family) (calls : List (Call α)) :
    (fresh family).trace calls = Stage.fresh.moves family calls ∧
    ((fresh family).run calls).1 = ((fresh family).trace calls).map Move.reply ∧
    ((fresh family).run calls).2.failures =
      (((fresh family).trace calls).map Move.failed).sum ∧
    ((fresh family).run calls).2.value? =
      ((fresh family).loaders calls).findSome? Call.offer? ∧
    ((fresh family).loaders calls).countP (fun call => call.offer?.isSome) ≤ 1 ∧
    ((fresh family).loaders calls).countP Call.isQuestion ≤ 1 ∧
    ∀ (a : α) (later : List (Call α)), ((fresh family).run calls).2.value? = some a →
      let l := ((fresh family).run calls).2
      l.loaders later = [] ∧ (l.run later).2.value? = some a ∧
        (l.run later).1 = later.map (Call.replyWith a) := by
  refine ⟨trace_eq_moves (fresh family) calls, replies_run _ calls, ?_, ?_,
    countP_offer_le _ calls, countP_isQuestion_le _ calls, ?_⟩
  · rw [failures_run]
    exact Nat.zero_add _
  · rw [value?_run]
    rfl
  · intro a later h
    exact run_of_value? h later

/-- A question that fails, one that comes too late, a load that breaks off and one that
succeeds; after that everything is answered with the value. -/
theorem trace_fresh_eq_moves_four :
    let calls : List (Call Nat) :=
      [.getOrAttempt (.failed (.dataMissing "rules")), .getOrAttempt (.loaded 3),
        .init .panicked, .init (.loaded 7)]
    let later : List (Call Nat) :=
      [.init (.loaded 9), .getOrAttempt .panicked, .get, .isLoaded]
    let l := ((fresh .https).run calls).2
    l.value? = some 7 ∧ l.failures = 1 ∧ l.loaders later = [] ∧
      (l.run later).1 =
        [.truth true, .value (some 7), .value (some 7), .truth true] := by
  intro calls later l
  obtain ⟨-, -, hfailures, -, -, -, hlater⟩ := trace_fresh_eq_moves (α := Nat) .https calls
  have hvalue : l.value? = some 7 := by decide
  obtain ⟨hloaders, -, hreplies⟩ := hlater 7 later hvalue
  exact ⟨hvalue, hfailures.trans (by decide), hloaders, hreplies⟩

end Runs

end Lazy
end RequestGuard
