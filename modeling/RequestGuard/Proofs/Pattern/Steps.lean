import RequestGuard.Pattern.Program
import RequestGuard.Proofs.Pattern.Reading
import RequestGuard.Proofs.Text.Tables

/-!
# The steps of an expression

The steps of an expression are added one by one, each in front of the step that it leads to.
`Step.Inner` says what such a step is like where the expression matches whole characters, and
`Extends` that the steps added are of this kind and leave those before them as they are.

* `lt_of_contains`: a set that is bounded below 128 has bytes that are characters only.
* `Adds.iterate`, `Adds.oneOrMore`: repetitions of a body.  The fork of a loop takes a place
  that is kept for it before the body is added.
* `adds_add`: the steps of an expression, by induction on it.

`Program.sound_ofExpr` adds the first and the last steps, which remember the match as a whole.
-/

namespace RequestGuard
namespace Pattern

open Text

section Sets

theorem getElem?_bounds (a : Ranges) (i : Nat) :
    (a.flatMap fun r => [r.1, r.2])[2 * i + 1]? = a[i]?.map Prod.snd := by
  induction a generalizing i with
  | nil => rfl
  | cons r more ih =>
      cases i with
      | zero => rfl
      | succ i => exact ih i

/-- The members of a set are below its second bounds. -/
theorem lt_of_contains {a : Ranges} {limit n : Nat} (ha : ∀ r ∈ a, r.2 ≤ limit)
    (h : a.codeSet.contains n = true) : n < limit := by
  refine Nat.lt_of_not_le fun hn => ?_
  have hkey : ∀ i, i % 2 = 1 → (a.codeSet.bounds[i]?).getD 0 ≤ n := by
    intro i hi
    obtain ⟨j, rfl⟩ : ∃ j, i = 2 * j + 1 := ⟨i / 2, by omega⟩
    rw [Ranges.codeSet, List.getElem?_toArray, getElem?_bounds]
    cases hr : a[j]? with
    | none => exact Nat.zero_le n
    | some r => exact Nat.le_trans (ha r (List.mem_of_getElem? hr)) hn
  have hsize : a.codeSet.bounds.size % 2 = 0 := by
    simp [Ranges.codeSet, List.length_flatMap, List.map_const']
  rw [CodeSet.contains, firstAbove_even hkey (Nat.zero_le _) hsize] at h
  cases h

end Sets

section Programs

/-- The numbers of the steps of a pattern's body so far. -/
def IsNumber (size k : Nat) : Prop :=
  0 < k ∧ k < size

theorem IsNumber.mono {size size' k : Nat} (hle : size ≤ size') (h : IsNumber size k) :
    IsNumber size' k :=
  ⟨h.1, Nat.lt_of_lt_of_le h.2 hle⟩

/-- What a step of a pattern's body is like: it leads on to such steps, does not end in the
middle of a character and remembers a spot of a group. -/
def Step.Inner (groups size : Nat) : Step → Prop
  | .char _ next => IsNumber size next
  | .byte set next => IsNumber size next ∧ ∀ b, set.contains b = true → b < 128
  | .look _ next => IsNumber size next
  | .save slot next => IsNumber size next ∧ 1 < slot ∧ slot ≤ 2 * groups + 1
  | .fork first second => IsNumber size first ∧ IsNumber size second
  | .done => False

theorem Step.Inner.mono {groups size size' : Nat} (hle : size ≤ size') {s : Step}
    (h : s.Inner groups size) : s.Inner groups size' := by
  cases s with
  | char => exact IsNumber.mono hle h
  | byte => exact ⟨h.1.mono hle, h.2⟩
  | look => exact IsNumber.mono hle h
  | save => exact ⟨h.1.mono hle, h.2⟩
  | fork => exact ⟨h.1.mono hle, h.2.mono hle⟩
  | done => exact h

/-- Steps of a body are added; the rest stays as it is. -/
structure Extends (groups : Nat) (steps : Array Step) (r : Nat × Array Step) : Prop where
  start : IsNumber r.2.size r.1
  size : steps.size ≤ r.2.size
  old : ∀ k < steps.size, r.2[k]? = steps[k]?
  new : ∀ k s, steps.size ≤ k → r.2[k]? = some s → s.Inner groups r.2.size

variable {groups : Nat} {steps middle : Array Step} {next m : Nat} {r : Nat × Array Step}

theorem Extends.refl (hnext : IsNumber steps.size next) : Extends groups steps (next, steps) where
  start := hnext
  size := Nat.le_refl _
  old _ _ := rfl
  new k s hk hs := by
    rw [Array.getElem?_eq_none hk] at hs
    cases hs

theorem Extends.trans (h : Extends groups steps (m, middle)) (h' : Extends groups middle r) :
    Extends groups steps r where
  start := h'.start
  size := Nat.le_trans h.size h'.size
  old k hk := (h'.old k (Nat.lt_of_lt_of_le hk h.size)).trans (h.old k hk)
  new k s hk hs := by
    rcases Nat.lt_or_ge k middle.size with hlt | hge
    · exact (h.new k s hk ((h'.old k hlt).symm.trans hs)).mono h'.size
    · exact h'.new k s hge hs

theorem Extends.push (hsteps : 0 < steps.size) {s : Step} (hs : s.Inner groups steps.size) :
    Extends groups steps (Program.push steps s) where
  start := ⟨hsteps, by simp [Program.push]⟩
  size := by simp [Program.push]
  old k hk := by simp [Program.push, Array.getElem?_push, Nat.ne_of_lt hk]
  new k t hk ht := by
    simp only [Program.push, Array.getElem?_push] at ht
    split at ht
    · cases ht
      exact hs.mono (by simp [Program.push])
    · rw [Array.getElem?_eq_none hk] at ht
      cases ht

/-- A step is added after others. -/
theorem Extends.thenPush (h : Extends groups steps (m, middle)) {s : Step}
    (hs : s.Inner groups middle.size) : Extends groups steps (Program.push middle s) :=
  h.trans (.push (Nat.lt_of_le_of_lt (Nat.zero_le _) h.start.2) hs)

/-- A function that adds steps in front of any step, once there are at least `size` steps. -/
def Adds (groups size : Nat) (f : Nat → Array Step → Nat × Array Step) : Prop :=
  ∀ next steps, size ≤ steps.size → IsNumber steps.size next → Extends groups steps (f next steps)

theorem Adds.iterate {size : Nat} {f : Nat → Array Step → Nat × Array Step}
    (hf : Adds groups size f) (n : Nat) (hsize : size ≤ steps.size)
    (hnext : IsNumber steps.size next) :
    Extends groups steps (Program.iterate f n (next, steps)) := by
  induction n generalizing next steps with
  | zero => exact .refl hnext
  | succ n ih =>
      have hfirst := hf next steps hsize hnext
      exact hfirst.trans (ih (Nat.le_trans hsize hfirst.size) hfirst.start)

theorem inner_forkStep {greedy : Bool} {size again out : Nat} (hagain : IsNumber size again)
    (hout : IsNumber size out) : (Program.forkStep greedy again out).Inner groups size := by
  cases greedy with
  | true => exact ⟨hagain, hout⟩
  | false => exact ⟨hout, hagain⟩

/-- The fork after a body takes the place that was kept for it. -/
theorem Adds.oneOrMore {body : Nat → Array Step → Nat × Array Step} (hbody : Adds groups 0 body)
    (greedy : Bool) (hnext : IsNumber steps.size next) :
    let r := Program.oneOrMore body greedy next steps
    IsNumber r.2.2.size r.2.1 ∧ Extends groups steps (r.1, r.2.2) := by
  intro r
  have hfork : IsNumber (steps.push .done).size steps.size :=
    ⟨Nat.lt_of_le_of_lt (Nat.zero_le _) hnext.2, by simp⟩
  have hinner := hbody steps.size (steps.push .done) (Nat.zero_le _) hfork
  have hsize : r.2.2.size = (body steps.size (steps.push .done)).2.size :=
    Array.size_setIfInBounds
  have hle : steps.size < r.2.2.size := by
    have hpushed := hinner.size
    rw [Array.size_push] at hpushed
    omega
  refine ⟨⟨hfork.1, hle⟩, hsize ▸ hinner.start, Nat.le_of_lt hle, fun k hk => ?_,
    fun k s hk hs => ?_⟩
  · have hold := hinner.old k (by simp; omega)
    simp only [r, Program.oneOrMore, Program.push]
    rw [Array.getElem?_setIfInBounds_ne (Nat.ne_of_gt hk), hold, Array.getElem?_push,
      if_neg (Nat.ne_of_lt hk)]
  · simp only [r, Program.oneOrMore, Program.push] at hs
    by_cases hplace : steps.size = k
    · subst hplace
      rw [Array.getElem?_setIfInBounds_self] at hs
      obtain ⟨-, hs⟩ := Option.ite_none_right_eq_some.1 hs
      cases hs
      exact inner_forkStep (hsize ▸ hinner.start) (hnext.mono (Nat.le_of_lt hle))
    · rw [Array.getElem?_setIfInBounds_ne hplace] at hs
      exact hsize ▸ hinner.new k s (by simp; omega) hs

/-- The steps of an expression that matches whole characters. -/
theorem adds_add {e : Expr} (hwhole : e.isWhole = true) (hgroups : e.GroupsWithin groups) :
    Adds groups 0 (Program.add e) := by
  have hpos {steps : Array Step} {next : Nat} (hnext : IsNumber steps.size next) :
      0 < steps.size := Nat.lt_of_le_of_lt (Nat.zero_le _) hnext.2
  induction e with
  | empty => exact fun next steps _ hnext => .refl hnext
  | char a => exact fun next steps _ hnext => .push (hpos hnext) hnext
  | byte a =>
      intro next steps _ hnext
      refine .push (hpos hnext) ⟨hnext, fun b hb => lt_of_contains (fun r hr => ?_) hb⟩
      exact of_decide_eq_true (List.all_eq_true.1 hwhole r hr)
  | look what => exact fun next steps _ hnext => .push (hpos hnext) hnext
  | seq e f he hf =>
      intro next steps _ hnext
      obtain ⟨hwholeE, hwholeF⟩ := Bool.and_eq_true_iff.1 hwhole
      have hsecond := hf hwholeF hgroups.2 next steps (Nat.zero_le _) hnext
      exact hsecond.trans (he hwholeE hgroups.1 _ _ (Nat.zero_le _) hsecond.start)
  | alt e f he hf =>
      intro next steps _ hnext
      obtain ⟨hwholeE, hwholeF⟩ := Bool.and_eq_true_iff.1 hwhole
      have hsecond := hf hwholeF hgroups.2 next steps (Nat.zero_le _) hnext
      have hfirst := he hwholeE hgroups.1 next _ (Nat.zero_le _) (hnext.mono hsecond.size)
      have hboth := Extends.trans hsecond hfirst
      exact hboth.thenPush ⟨hfirst.start, hsecond.start.mono hfirst.size⟩
  | group i e he =>
      intro next steps _ hnext
      obtain ⟨hlow, hhigh, hinside⟩ := hgroups
      have hstop : Extends groups steps (Program.push steps (.save (2 * i + 1) next)) :=
        .push (hpos hnext) ⟨hnext, by omega, by omega⟩
      have hbody := he hwhole hinside _ _ (Nat.zero_le _) hstop.start
      exact (hstop.trans hbody).thenPush ⟨hbody.start, by omega, by omega⟩
  | times e least most greedy he =>
      intro next steps _ hnext
      have hbody := he hwhole hgroups
      cases most with
      | none =>
          obtain ⟨hfork, hmore⟩ := hbody.oneOrMore greedy hnext
          cases least with
          | zero =>
              show Extends groups steps (ite _ _ _)
              split
              · exact ⟨hfork, hmore.size, hmore.old, hmore.new⟩
              · exact hmore.thenPush (inner_forkStep hmore.start (hnext.mono hmore.size))
          | succ least => exact hmore.trans (hbody.iterate least (Nat.zero_le _) hmore.start)
      | some most =>
          -- The way out of every fork leads to the step after all repetitions.
          have honce : Adds groups steps.size fun after steps =>
              Program.push (Program.add e after steps).2
                (Program.forkStep greedy (Program.add e after steps).1 next) := by
            intro after later hle hafter
            have hinner := hbody after later (Nat.zero_le _) hafter
            exact hinner.thenPush
              (inner_forkStep hinner.start (hnext.mono (Nat.le_trans hle hinner.size)))
          have hoptional := honce.iterate (most - least) (Nat.le_refl _) hnext
          exact hoptional.trans (hbody.iterate least (Nat.zero_le _) hoptional.start)

/-- The steps of a pattern.  The first one remembers where a match starts, and no other leads
to it.  The last one remembers where it stops, and leads to the end of the match. -/
structure Program.Sound (groups : Nat) (p : Program) : Prop where
  start : ∃ next, p.steps[p.start]? = some (.save 0 next) ∧ IsNumber p.start next
  steps : ∀ k s, p.steps[k]? = some s → k ≠ p.start →
    (k = 0 ∧ s = .done) ∨ s = .save 1 0 ∨ s.Inner groups p.start

theorem Program.Sound.start_pos {p : Program} (h : p.Sound groups) : 0 < p.start := by
  obtain ⟨next, -, hpos, hlt⟩ := h.start
  exact Nat.lt_trans hpos hlt

theorem Program.sound_ofExpr {e : Expr} (hwhole : e.isWhole = true)
    (hgroups : e.GroupsWithin groups) : (Program.ofExpr e).Sound groups := by
  have hbody : Extends groups #[.done, .save 1 0] (Program.add e 1 #[.done, .save 1 0]) :=
    adds_add hwhole hgroups 1 _ (Nat.zero_le _) ⟨by decide, by decide⟩
  refine ⟨⟨_, Array.getElem?_push_size, hbody.start⟩, fun k s hs hstart => ?_⟩
  have hs' : (Program.add e 1 #[.done, .save 1 0]).2[k]? = some s := by
    rw [← hs]
    exact ((Array.getElem?_push).trans (if_neg hstart)).symm
  rcases Nat.lt_or_ge k 2 with hlt | hge
  · have hold := (hbody.old k hlt).symm.trans hs'
    match k with
    | 0 => exact .inl ⟨rfl, (Option.some.inj hold).symm⟩
    | 1 => exact .inr (.inl (Option.some.inj hold).symm)
  · exact .inr (.inr (hbody.new k s hge hs'))

end Programs

end Pattern
end RequestGuard
