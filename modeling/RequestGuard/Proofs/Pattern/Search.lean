import Mathlib.Logic.Relation
import RequestGuard.Pattern.Search
import RequestGuard.Proofs.Text.Utf8

/-!
# What a search finds

A search tries the places of a text one after the other.  At each it follows the threads from
the first step, and it leaves out the pairs of a step and a place that were taken before, also
those that were taken at places before.

* `Thread.Moves`, `Thread.Runs`: how threads go on, without marks and without a stack.
* `exists_of_traverse`: where a traversal comes to the end of a match, a run does.
* `leads_of_traverse`: otherwise the pairs that are taken lead on to taken pairs only
  (`Taken.Leads`), so no run comes from them to the end of a match.  The fuel is enough, as
  every turn takes a thread from the stack or a pair that was free.
* `searchFrom_eq` is one turn of a search, and `firstFrom_searchFrom` the search from a place
  on, by induction on the rest of the text.

`firstFrom_find?` says it of a search as a whole: the match that is found is the first one, and
where none is found there is none.
-/

namespace RequestGuard
namespace Pattern

open Text

section Spots

/-- The place in a text before the byte of a number. -/
def spotAt (text : List UInt8) (i : Nat) : Spot :=
  ⟨i, (text.take i).reverse, text.drop i⟩

theorem forward_spotAt (text : List UInt8) (i n : Nat) :
    (spotAt text i).forward n = spotAt text (i + n) := by
  simp only [Spot.forward, spotAt, List.take_add, List.reverse_append, List.drop_drop]

/-- The character after a place is the one that is read there. -/
theorem next_of_charAfter? {s : Spot} {c : Char} {n : Nat} (h : s.charAfter? = some (c, n)) :
    ∃ rest, Utf8.next 0 s.after = .ok (c, n, rest) := by
  unfold Spot.charAfter? at h
  split at h
  · cases h
  · next b rest hafter =>
      split at h
      · next hb =>
          cases h
          exact ⟨rest, hafter ▸ Utf8.next_of_lt hb 0 rest⟩
      · split at h
        · next c n rest hnext =>
            cases h
            exact ⟨_, hnext⟩
        · cases h

end Spots

section Moves

/-- How a thread goes on with a step. -/
inductive Thread.Moves (t : Thread) : Step → Thread → Prop
  | char {a : CodeSet} {next n : Nat} {c : Char} (hafter : t.spot.charAfter? = some (c, n))
      (hc : a.contains c.toNat = true) :
      Moves t (.char a next) ⟨next, t.spot.forward n, t.slots⟩
  | byte {a : CodeSet} {next : Nat} {b : UInt8} {rest : List UInt8}
      (hafter : t.spot.after = b :: rest) (hb : a.contains b.toNat = true) :
      Moves t (.byte a next) ⟨next, t.spot.forward 1, t.slots⟩
  | look {what : Look} {next : Nat} (hspot : t.spot.satisfies what = true) :
      Moves t (.look what next) ⟨next, t.spot, t.slots⟩
  | save {slot next : Nat} :
      Moves t (.save slot next) ⟨next, t.spot, (slot, t.spot.index) :: t.slots⟩
  | first {first second : Nat} : Moves t (.fork first second) ⟨first, t.spot, t.slots⟩
  | second {first second : Nat} : Moves t (.fork first second) ⟨second, t.spot, t.slots⟩

variable {text : List UInt8} {t u v : Thread} {s : Step}

theorem mem_followers_iff : u ∈ t.followers s ↔ t.Moves s u := by
  constructor
  · intro hu
    cases s with
    | char a next =>
        simp only [Thread.followers] at hu
        split at hu
        · next c n hafter =>
            split at hu
            · next hc =>
                obtain rfl := List.mem_singleton.1 hu
                exact .char hafter hc
            · cases hu
        · cases hu
    | byte a next =>
        simp only [Thread.followers] at hu
        split at hu
        · next b rest hafter =>
            split at hu
            · next hb =>
                obtain rfl := List.mem_singleton.1 hu
                exact .byte hafter hb
            · cases hu
        · cases hu
    | look what next =>
        simp only [Thread.followers] at hu
        split at hu
        · next hspot =>
            obtain rfl := List.mem_singleton.1 hu
            exact .look hspot
        · cases hu
    | save slot next =>
        obtain rfl := List.mem_singleton.1 hu
        exact .save
    | fork first second =>
        simp only [Thread.followers, List.mem_cons, List.not_mem_nil, or_false] at hu
        rcases hu with rfl | rfl
        · exact .first
        · exact .second
    | done => cases hu
  · intro hu
    cases hu with
    | char hafter hc => simp [Thread.followers, hafter, hc]
    | byte hafter hb => simp [Thread.followers, hafter, hb]
    | look hspot => simp [Thread.followers, hspot]
    | save => simp [Thread.followers]
    | first => simp [Thread.followers]
    | second => simp [Thread.followers]

theorem length_followers_le (t : Thread) (s : Step) : (t.followers s).length ≤ 2 := by
  cases s with
  | char =>
      simp only [Thread.followers]
      split
      · split <;> simp
      · simp
  | byte =>
      simp only [Thread.followers]
      split
      · split <;> simp
      · simp
  | look =>
      simp only [Thread.followers]
      split <;> simp
  | save => simp [Thread.followers]
  | fork => simp [Thread.followers]
  | done => simp [Thread.followers]

/-- A thread that is somewhere in a text. -/
structure Thread.In (text : List UInt8) (t : Thread) : Prop where
  spot : t.spot = spotAt text t.spot.index
  index : t.spot.index ≤ text.length

theorem Thread.In.forward (h : t.In text) {n : Nat} (hn : n ≤ t.spot.after.length)
    (hu : u.spot = t.spot.forward n) : u.In text := by
  have hindex := h.index
  rw [h.spot] at hn hu
  rw [forward_spotAt] at hu
  simp only [spotAt, List.length_drop] at hn
  constructor
  · rw [hu]
    rfl
  · rw [hu]
    show t.spot.index + n ≤ text.length
    omega

/-- A thread stays in its text. -/
theorem Thread.Moves.in (h : t.Moves s u) (ht : t.In text) : u.In text := by
  cases h with
  | char hafter _ =>
      obtain ⟨rest, hnext⟩ := next_of_charAfter? hafter
      exact ht.forward (by rw [Utf8.length_of_next hnext]; omega) rfl
  | byte hafter _ => exact ht.forward (by simp [hafter]) rfl
  | look _ => exact ⟨ht.spot, ht.index⟩
  | save => exact ⟨ht.spot, ht.index⟩
  | first => exact ⟨ht.spot, ht.index⟩
  | second => exact ⟨ht.spot, ht.index⟩

/-- Two threads are at the same step and place. -/
structure Thread.SamePair (t u : Thread) : Prop where
  step : t.step = u.step
  spot : t.spot = u.spot

/-- Where one thread goes on, every thread at the same pair does. -/
theorem Thread.SamePair.exists_moves (h : t.SamePair u) (hv : u.Moves s v) :
    ∃ w, t.Moves s w ∧ w.SamePair v := by
  have hspot := h.spot
  cases hv with
  | char hafter hc => exact ⟨_, .char (hspot ▸ hafter) hc, rfl, by rw [hspot]⟩
  | byte hafter hb => exact ⟨_, .byte (hspot ▸ hafter) hb, rfl, by rw [hspot]⟩
  | look hlook => exact ⟨_, .look (hspot ▸ hlook), rfl, hspot⟩
  | save => exact ⟨_, .save, rfl, hspot⟩
  | first => exact ⟨_, .first, rfl, hspot⟩
  | second => exact ⟨_, .second, rfl, hspot⟩

end Moves

section Runs

/-- A thread goes on to another by a step of a program. -/
def Thread.Follows (p : Program) (t u : Thread) : Prop :=
  ∃ s, p.steps[t.step]? = some s ∧ t.Moves s u

/-- A thread goes on to another by steps of a program. -/
def Thread.Runs (p : Program) : Thread → Thread → Prop :=
  Relation.ReflTransGen (Thread.Follows p)

/-- A thread is at the end of a match. -/
def Thread.Ended (p : Program) (t : Thread) : Prop :=
  p.steps[t.step]? = some .done

/-- A thread comes to the end of a match. -/
def Thread.Ends (p : Program) (t : Thread) : Prop :=
  ∃ u, t.Runs p u ∧ u.Ended p

variable {p : Program} {t u : Thread}

theorem Thread.SamePair.ends (h : t.SamePair u) (hu : u.Ends p) : t.Ends p := by
  obtain ⟨v, hruns, hended⟩ := hu
  induction hruns using Relation.ReflTransGen.head_induction_on generalizing t with
  | refl => exact ⟨t, .refl, by rwa [Thread.Ended, h.step]⟩
  | head hfirst _ ih =>
      obtain ⟨s, hs, hmoves⟩ := hfirst
      obtain ⟨w, hw, hpair⟩ := h.exists_moves hmoves
      obtain ⟨x, hruns, hx⟩ := ih hpair
      exact ⟨x, hruns.head ⟨s, by rwa [h.step], hw⟩, hx⟩

end Runs

section Marks

variable {p : Program} {text : List UInt8} {taken : Taken} {t u : Thread}

/-- The pair of a thread is taken. -/
def Taken.Has (taken : Taken) (t : Thread) : Prop :=
  taken.contains t.step t.spot.index = true

/-- The number of the pairs that are not taken. -/
def Taken.free (taken : Taken) : Nat :=
  taken.marks.count false

/-- There is a mark for every pair of a step of a program and a place in a text. -/
structure Taken.Fits (p : Program) (text : List UInt8) (taken : Taken) : Prop where
  width : taken.width = text.length + 1
  size : taken.marks.size = p.steps.size * (text.length + 1)

theorem Taken.has_take_iff {step spot : Nat} :
    (taken.take step spot).Has u ↔
      taken.number u.step u.spot.index = taken.number step spot ∨ taken.Has u := by
  obtain ⟨width, marks⟩ := taken
  simp only [Taken.Has, Taken.contains, Taken.take, Taken.number]
  by_cases hnumber : u.step * width + u.spot.index = step * width + spot
  · rw [hnumber, Array.getElem?_setIfInBounds_self]
    split <;> simp
  · rw [Array.getElem?_setIfInBounds_ne (Ne.symm hnumber)]
    simp [hnumber]

/-- What is not taken has a mark, which is not set. -/
theorem Taken.exists_of_not_has (h : ¬ taken.Has t) :
    ∃ hlt : taken.number t.step t.spot.index < taken.marks.size,
      taken.marks[taken.number t.step t.spot.index] = false := by
  rw [Taken.Has, Taken.contains] at h
  rcases Nat.lt_or_ge (taken.number t.step t.spot.index) taken.marks.size with hlt | hge
  · rw [Array.getElem?_eq_getElem hlt] at h
    exact ⟨hlt, Bool.eq_false_iff.2 h⟩
  · rw [Array.getElem?_eq_none hge] at h
    exact absurd rfl h

theorem Taken.free_take (h : ¬ taken.Has t) :
    (taken.take t.step t.spot.index).free + 1 = taken.free := by
  obtain ⟨hlt, hmark⟩ := exists_of_not_has h
  have hpos : 0 < taken.marks.count false :=
    Array.count_pos_iff.2 (hmark ▸ Array.getElem_mem hlt)
  show (taken.marks.setIfInBounds (taken.number t.step t.spot.index) true).count false + 1 =
    taken.marks.count false
  rw [Array.setIfInBounds_def, dif_pos hlt, Array.count_set, hmark]
  simp
  omega

theorem Taken.Fits.take (h : taken.Fits p text) (step spot : Nat) :
    (taken.take step spot).Fits p text :=
  ⟨h.width, by rw [← h.size]; exact Array.size_setIfInBounds⟩

theorem div_number {step spot width : Nat} (h : spot < width) :
    (step * width + spot) / width = step := by
  rw [Nat.mul_comm, Nat.mul_add_div (by omega), Nat.div_eq_of_lt h, Nat.add_zero]

/-- Threads in the text with the same number are at the same pair. -/
theorem Taken.Fits.samePair (h : taken.Fits p text) (ht : t.In text) (hu : u.In text)
    (hnumber : taken.number u.step u.spot.index = taken.number t.step t.spot.index) :
    u.SamePair t := by
  have htwidth : t.spot.index < taken.width := by
    rw [h.width]
    exact Nat.lt_succ_of_le ht.index
  have huwidth : u.spot.index < taken.width := by
    rw [h.width]
    exact Nat.lt_succ_of_le hu.index
  simp only [Taken.number] at hnumber
  have hstep : u.step = t.step := by
    have hdiv := congrArg (· / taken.width) hnumber
    simp only [div_number huwidth, div_number htwidth] at hdiv
    exact hdiv
  have hindex : u.spot.index = t.spot.index := by
    rw [hstep] at hnumber
    omega
  exact ⟨hstep, by rw [hu.spot, ht.spot, hindex]⟩

/-- A thread without a step counts as taken. -/
theorem Taken.Fits.has_of_size_le (h : taken.Fits p text) (hstep : p.steps.size ≤ t.step) :
    taken.Has t := by
  refine Classical.byContradiction fun hnot => ?_
  obtain ⟨hlt, -⟩ := exists_of_not_has hnot
  rw [h.size, Taken.number, h.width] at hlt
  have := Nat.mul_le_mul_right (text.length + 1) hstep
  omega

/-- Where the taken pairs lead on: to pairs that are taken or wait to be.  None of them is the
end of a match. -/
def Taken.Leads (p : Program) (text : List UInt8) (stack : List Thread) (taken : Taken) : Prop :=
  ∀ u : Thread, u.In text → taken.Has u → ∀ s, p.steps[u.step]? = some s →
    s ≠ .done ∧ ∀ v, u.Moves s v → taken.Has v ∨ ∃ t ∈ stack, t.SamePair v

/-- If nothing waits, no taken pair leads to the end of a match. -/
theorem Taken.Leads.not_ends (h : taken.Leads p text []) (hin : t.In text) (hhas : taken.Has t) :
    ¬ t.Ends p := by
  rintro ⟨v, hruns, hended⟩
  induction hruns using Relation.ReflTransGen.head_induction_on with
  | refl => exact (h v hin hhas _ hended).1 rfl
  | head hfirst _ ih =>
      obtain ⟨s, hs, hmoves⟩ := hfirst
      rcases (h _ hin hhas s hs).2 _ hmoves with hnext | ⟨_, hmem, -⟩
      · exact ih (hmoves.in hin) hnext
      · cases hmem

theorem Taken.has_congr (h : t.SamePair u) : taken.Has t ↔ taken.Has u := by
  rw [Taken.Has, Taken.Has, h.step, h.spot]

/-- A thread that is taken need not wait. -/
theorem Taken.Leads.pop {more : List Thread} (h : taken.Leads p text (t :: more))
    (hhas : taken.Has t) : taken.Leads p text more := by
  intro u hu huhas s hs
  obtain ⟨hnot, hall⟩ := h u hu huhas s hs
  refine ⟨hnot, fun v hv => ?_⟩
  rcases hall v hv with hv | ⟨w, hw, hpair⟩
  · exact .inl hv
  · rcases List.mem_cons.1 hw with rfl | hw
    · exact .inl ((has_congr hpair).1 hhas)
    · exact .inr ⟨w, hw, hpair⟩

/-- A thread is taken, and those after it wait. -/
theorem Taken.Leads.take {more : List Thread} {s : Step} (h : taken.Leads p text (t :: more))
    (hfits : taken.Fits p text) (ht : t.In text) (hs : p.steps[t.step]? = some s)
    (hdone : s ≠ .done) :
    (taken.take t.step t.spot.index).Leads p text (t.followers s ++ more) := by
  intro u hu huhas s' hs'
  rcases has_take_iff.1 huhas with hnumber | hbefore
  · -- The thread itself, up to what it remembers.
    have hpair := hfits.samePair ht hu hnumber
    rw [hpair.step, hs] at hs'
    cases hs'
    refine ⟨hdone, fun v hv => .inr ?_⟩
    have hback : t.SamePair u := ⟨hpair.step.symm, hpair.spot.symm⟩
    obtain ⟨w, hw, hsame⟩ := hback.exists_moves hv
    exact ⟨w, List.mem_append_left _ (mem_followers_iff.2 hw), hsame⟩
  · obtain ⟨hnot, hall⟩ := h u hu hbefore s' hs'
    refine ⟨hnot, fun v hv => ?_⟩
    rcases hall v hv with hv | ⟨w, hw, hpair⟩
    · exact .inl (has_take_iff.2 (.inr hv))
    · rcases List.mem_cons.1 hw with rfl | hw
      · exact .inl ((has_congr hpair).1 (has_take_iff.2 (.inl rfl)))
      · exact .inr ⟨w, List.mem_append_right _ hw, hpair⟩

end Marks

section Traversal

variable {p : Program} {text : List UInt8} {fuel : Nat} {stack : List Thread}
variable {taken taken' : Taken}

/-- A traversal that comes to the end of a match comes there from a thread that waits. -/
theorem exists_of_traverse {slots : List (Nat × Nat)}
    (h : traverse p fuel stack taken = (some slots, taken')) :
    ∃ t ∈ stack, ∃ u, t.Runs p u ∧ u.Ended p ∧ u.slots = slots := by
  fun_induction traverse p fuel stack taken with
  | case1 => cases h
  | case2 => cases h
  | case3 fuel t more taken htaken ih =>
      obtain ⟨u, hu, hends⟩ := ih h
      exact ⟨u, List.mem_cons_of_mem t hu, hends⟩
  | case4 fuel t more taken hnot hnone ih =>
      obtain ⟨u, hu, hends⟩ := ih h
      exact ⟨u, List.mem_cons_of_mem t hu, hends⟩
  | case5 fuel t more taken hnot hdone =>
      cases h
      exact ⟨t, List.mem_cons_self, t, .refl, hdone, rfl⟩
  | case6 fuel t more taken hnot s hdone hs ih =>
      obtain ⟨u, hu, v, hruns, hends⟩ := ih h
      rcases List.mem_append.1 hu with hu | hu
      · exact ⟨t, List.mem_cons_self, v, hruns.head ⟨s, hs, mem_followers_iff.1 hu⟩, hends⟩
      · exact ⟨u, List.mem_cons_of_mem t hu, v, hruns, hends⟩

/-- A traversal with enough fuel that comes to nothing takes all that waits and all that follows. -/
theorem leads_of_traverse (h : traverse p fuel stack taken = (none, taken'))
    (hfits : taken.Fits p text) (hin : ∀ t ∈ stack, t.In text)
    (hfuel : stack.length + 2 * taken.free < fuel) (hleads : taken.Leads p text stack) :
    taken'.Fits p text ∧ taken'.Leads p text [] ∧ ∀ t, taken.Has t ∨ t ∈ stack → taken'.Has t := by
  fun_induction traverse p fuel stack taken with
  | case1 => omega
  | case2 =>
      cases h
      exact ⟨hfits, hleads, fun t ht => ht.resolve_right List.not_mem_nil⟩
  | case3 fuel t more taken htaken ih =>
      simp only [List.length_cons] at hfuel
      obtain ⟨hin', hmore⟩ := List.forall_mem_cons.1 hin
      obtain ⟨hfits', hleads', hall⟩ := ih h hfits hmore (by omega) (hleads.pop htaken)
      refine ⟨hfits', hleads', fun u hu => ?_⟩
      rcases hu with hu | hu
      · exact hall u (.inl hu)
      · rcases List.mem_cons.1 hu with rfl | hu
        · exact hall u (.inl htaken)
        · exact hall u (.inr hu)
  | case4 fuel t more taken hnot hnone ih =>
      exact absurd (hfits.has_of_size_le (Array.getElem?_eq_none_iff.1 hnone)) hnot
  | case5 => cases h
  | case6 fuel t more taken hnot s hdone hs ih =>
      have hlength := length_followers_le t s
      have hfree := Taken.free_take hnot
      simp only [List.length_cons] at hfuel
      obtain ⟨ht, hmore⟩ := List.forall_mem_cons.1 hin
      have hin' : ∀ u ∈ t.followers s ++ more, u.In text := by
        intro u hu
        rcases List.mem_append.1 hu with hu | hu
        · exact (mem_followers_iff.1 hu).in ht
        · exact hmore u hu
      obtain ⟨hfits', hleads', hall⟩ := ih h (hfits.take _ _) hin'
        (by rw [List.length_append]; omega) (hleads.take hfits ht hs hdone)
      refine ⟨hfits', hleads', fun u hu => ?_⟩
      rcases hu with hu | hu
      · exact hall u (.inl (Taken.has_take_iff.2 (.inr hu)))
      · rcases List.mem_cons.1 hu with rfl | hu
        · exact hall u (.inl (Taken.has_take_iff.2 (.inl rfl)))
        · exact hall u (.inr (List.mem_append_right _ hu))

end Traversal

section Results

variable {p : Pattern} {text : List UInt8} {slots : List (Nat × Nat)}

/-- The thread that a search starts with at a place. -/
def startAt (p : Pattern) (text : List UInt8) (i : Nat) : Thread :=
  ⟨p.program.start, spotAt text i, []⟩

/-- A match starts at a place, between characters where it must, and remembers spots. -/
structure MatchAt (p : Pattern) (text : List UInt8) (i : Nat) (slots : List (Nat × Nat)) :
    Prop where
  between : p.wholeChars = true → (spotAt text i).isBetweenChars = true
  ends : ∃ u, (p.startAt text i).Runs p.program u ∧ u.Ended p.program ∧ u.slots = slots

theorem fits_none (p : Program) (text : List UInt8) :
    (Taken.none p text.length).Fits p text :=
  ⟨rfl, Array.size_replicate⟩

theorem leads_none (p : Program) (text : List UInt8) :
    (Taken.none p text.length).Leads p text [] := by
  intro u hu hhas s hs
  have hstep := (Array.getElem?_eq_some_iff.1 hs).1
  have hnumber : (Taken.none p text.length).number u.step u.spot.index <
      p.steps.size * (text.length + 1) := by
    have hrows := Nat.mul_le_mul_right (text.length + 1) (Nat.succ_le_of_lt hstep)
    have hindex := hu.index
    rw [Nat.succ_mul] at hrows
    simp only [Taken.number, Taken.none]
    omega
  have hmark : (Taken.none p text.length).marks[
      (Taken.none p text.length).number u.step u.spot.index]? = some false := by
    rw [Taken.none, Array.getElem?_replicate]
    exact if_pos hnumber
  rw [Taken.Has, Taken.contains, hmark] at hhas
  cases hhas

theorem free_lt_threadLimit {taken : Taken} (h : taken.Fits p.program text) :
    1 + 2 * taken.free < threadLimit p.program text.length := by
  have hfree : taken.free ≤ p.program.steps.size * (text.length + 1) :=
    h.size ▸ Array.count_le_size
  rw [threadLimit, Nat.mul_assoc, Nat.add_mul]
  omega

/-- The search at one place finds a match that starts there, or there is none. -/
theorem of_search_here {i : Nat} (hi : i ≤ text.length) {taken taken' : Taken}
    {found : Option (List (Nat × Nat))}
    (h : (if p.wholeChars && !(spotAt text i).isBetweenChars then (none, taken)
      else traverse p.program (threadLimit p.program text.length) [p.startAt text i] taken) =
        (found, taken'))
    (hfits : taken.Fits p.program text) (hleads : taken.Leads p.program text []) :
    (∀ slots, found = some slots → p.MatchAt text i slots) ∧
      (found = none → taken'.Fits p.program text ∧ taken'.Leads p.program text [] ∧
        ∀ slots, ¬ p.MatchAt text i slots) := by
  have hin : (p.startAt text i).In text := ⟨rfl, hi⟩
  split at h
  · next hinside =>
      cases h
      refine ⟨nofun, fun _ => ⟨hfits, hleads, fun slots hmatch => ?_⟩⟩
      obtain ⟨hwhole, hnot⟩ := Bool.and_eq_true_iff.1 hinside
      rw [hmatch.between hwhole] at hnot
      cases hnot
  · next hbetween =>
      cases found with
      | some slots =>
          refine ⟨fun _ hslots => ?_, nofun⟩
          cases hslots
          obtain ⟨t, ht, hends⟩ := exists_of_traverse h
          obtain rfl := List.mem_singleton.1 ht
          refine ⟨fun hwhole => ?_, hends⟩
          simpa [hwhole] using hbetween
      | none =>
          refine ⟨nofun, fun _ => ?_⟩
          have hwaits : taken.Leads p.program text [p.startAt text i] := by
            intro u hu hhas s hs
            obtain ⟨hnot, hall⟩ := hleads u hu hhas s hs
            exact ⟨hnot, fun v hv => .inl ((hall v hv).resolve_right (by simp))⟩
          obtain ⟨hfits', hleads', hall⟩ := leads_of_traverse h hfits
            (List.forall_mem_singleton.2 hin) (free_lt_threadLimit hfits) hwaits
          refine ⟨hfits', hleads', fun slots hmatch => ?_⟩
          obtain ⟨u, hruns, hended, -⟩ := hmatch.ends
          exact hleads'.not_ends hin (hall _ (.inr List.mem_cons_self)) ⟨u, hruns, hended⟩

/-- What a search from a place on comes to: the first place at which a match starts, or that
there is none. -/
def FirstFrom (p : Pattern) (text : List UInt8) (i : Nat) : Option (List (Nat × Nat)) → Prop
  | some slots => ∃ k, i ≤ k ∧ k ≤ text.length ∧ p.MatchAt text k slots ∧
      ∀ j, i ≤ j → j < k → ∀ other, ¬ p.MatchAt text j other
  | none => ∀ j, i ≤ j → j ≤ text.length → ∀ slots, ¬ p.MatchAt text j slots

theorem FirstFrom.of_succ {i : Nat} {found : Option (List (Nat × Nat))}
    (h : p.FirstFrom text (i + 1) found) (hi : ∀ slots, ¬ p.MatchAt text i slots) :
    p.FirstFrom text i found := by
  cases found with
  | some slots =>
      obtain ⟨k, hik, hk, hmatch, hfirst⟩ := h
      refine ⟨k, by omega, hk, hmatch, fun j hij hjk => ?_⟩
      rcases Nat.eq_or_lt_of_le hij with rfl | hlt
      · exact hi
      · exact hfirst j hlt hjk
  | none =>
      intro j hij hj
      rcases Nat.eq_or_lt_of_le hij with rfl | hlt
      · exact hi
      · exact h j hlt hj

/-- One turn of a search: what is found at the place, and where the search goes on. -/
theorem searchFrom_eq {before after : List UInt8} {i : Nat} {taken : Taken}
    (hspot : (⟨i, before, after⟩ : Spot) = spotAt text i) (hi : i ≤ text.length)
    (hfits : taken.Fits p.program text) (hleads : taken.Leads p.program text []) :
    ∃ found taken',
      ((∀ slots, found = some slots → p.MatchAt text i slots) ∧
        (found = none → taken'.Fits p.program text ∧ taken'.Leads p.program text [] ∧
          ∀ slots, ¬ p.MatchAt text i slots)) ∧
      searchFrom p (threadLimit p.program text.length) before i after taken =
        match found, after with
        | some slots, _ => some slots
        | none, [] => none
        | none, b :: rest =>
          searchFrom p (threadLimit p.program text.length) (b :: before) (i + 1) rest taken' := by
  refine ⟨_, _, of_search_here hi rfl hfits hleads, ?_⟩
  conv => lhs; unfold searchFrom
  simp only [hspot]
  rfl

theorem firstFrom_searchFrom {before after : List UInt8} {i : Nat} {taken : Taken}
    (hspot : (⟨i, before, after⟩ : Spot) = spotAt text i) (hi : i ≤ text.length)
    (hfits : taken.Fits p.program text) (hleads : taken.Leads p.program text []) :
    p.FirstFrom text i
      (searchFrom p (threadLimit p.program text.length) before i after taken) := by
  induction after generalizing before i taken with
  | nil =>
      have hlast : text.length ≤ i := List.drop_eq_nil_iff.1 (congrArg Spot.after hspot).symm
      obtain ⟨found, taken', ⟨hsome, hnone⟩, heq⟩ := searchFrom_eq hspot hi hfits hleads
      rw [heq]
      cases found with
      | some slots => exact ⟨i, Nat.le_refl i, hi, hsome slots rfl, fun j hij hji => by omega⟩
      | none =>
          intro j hij hj
          obtain rfl : j = i := by omega
          exact (hnone rfl).2.2
  | cons b rest ih =>
      have hnext : (⟨i + 1, b :: before, rest⟩ : Spot) = spotAt text (i + 1) := by
        rw [← forward_spotAt, ← hspot]
        rfl
      have hlt : i < text.length := by
        refine Nat.lt_of_not_le fun hle => ?_
        have hafter := congrArg Spot.after hspot
        rw [spotAt, List.drop_eq_nil_of_le hle] at hafter
        cases hafter
      obtain ⟨found, taken', ⟨hsome, hnone⟩, heq⟩ := searchFrom_eq hspot hi hfits hleads
      rw [heq]
      cases found with
      | some slots => exact ⟨i, Nat.le_refl i, hi, hsome slots rfl, fun j hij hji => by omega⟩
      | none =>
          obtain ⟨hfits', hleads', hhere⟩ := hnone rfl
          exact (ih hnext hlt hfits' hleads').of_succ hhere

/-- **The first match.**  What is found in a text starts at a place at which a run of the
steps comes to an end, and at no place before does one. -/
theorem firstFrom_find? (p : Pattern) (text : List UInt8) :
    p.FirstFrom text 0 ((p.find? text).map Match.slots) := by
  rw [find?, Option.map_map]
  have hid : (Match.slots ∘ fun slots => (⟨text, slots⟩ : Match)) = id := rfl
  rw [hid, Option.map_id, id]
  exact firstFrom_searchFrom rfl (Nat.zero_le _) (fits_none p.program text)
    (leads_none p.program text)

end Results

end Pattern
end RequestGuard
