import RequestGuard.Proofs.Pattern.Search
import RequestGuard.Proofs.Pattern.Steps

/-!
# Where the matches of a pattern lie

In a text a match of a pattern over characters starts and stops between characters, and so does
what a group of it matched.

* `isBoundary_of_isBetweenChars`, `IsBoundary.add`: where a search starts a match, and where a
  thread reads a character, it stays between characters.
* `Thread.Going` is what holds all along a run after its first step: the start of the match is
  remembered and is not written over, and the other spots are between characters and of groups
  that there are.
* `Match.Spans`, `spans_of_find?`: what this says of a match that is found.
* `Match.Spans.exists_parts`: a text is what stands before a match, the match, and what stands
  after it.

`sound_of_compile?` puts together what is known of the groups, the names and the steps of a
pattern that is read.
-/

namespace RequestGuard
namespace Pattern

open Text

section Boundaries

/-- A place between the characters of a text. -/
def IsBoundary (cs : List Char) (i : Nat) : Prop :=
  ∃ front back, cs = front ++ back ∧ i = (Utf8.encode front).length

theorem after_spotAt_encode (front back : List Char) :
    (spotAt (Utf8.encode (front ++ back)) (Utf8.encode front).length).after = Utf8.encode back := by
  rw [spotAt, Utf8.encode_append]
  exact List.drop_left

/-- A place where no byte goes on a character is between characters. -/
theorem isBoundary_of_isBetweenChars {cs : List Char} {i : Nat}
    (hi : i ≤ (Utf8.encode cs).length)
    (h : (spotAt (Utf8.encode cs) i).isBetweenChars = true) : IsBoundary cs i := by
  induction cs generalizing i with
  | nil => exact ⟨[], [], rfl, Nat.le_zero.1 hi⟩
  | cons c more ih =>
      rw [Utf8.encode_cons, List.length_append] at hi
      rw [Utf8.encode_cons] at h
      rcases Nat.lt_or_ge i (Utf8.encodeChar c).length with hlt | hge
      · cases i with
        | zero => exact ⟨[], c :: more, rfl, rfl⟩
        | succ k =>
            -- The place is within the bytes of the character.
            have hmem : (Utf8.encodeChar c)[k + 1] ∈ (Utf8.encodeChar c).tail :=
              List.mem_of_getElem? (by rw [List.getElem?_tail, List.getElem?_eq_getElem hlt])
            have hafter : (Utf8.encodeChar c ++ Utf8.encode more).drop (k + 1) =
                (Utf8.encodeChar c)[k + 1] ::
                  ((Utf8.encodeChar c).drop (k + 2) ++ Utf8.encode more) := by
              rw [List.drop_append_of_le_length (Nat.le_of_lt hlt),
                List.drop_eq_getElem_cons hlt, List.cons_append]
            simp only [spotAt, Spot.isBetweenChars, hafter, Utf8.isTail_of_mem_tail hmem] at h
            cases h
      · have hsame : (spotAt (Utf8.encodeChar c ++ Utf8.encode more) i).isBetweenChars =
            (spotAt (Utf8.encode more) (i - (Utf8.encodeChar c).length)).isBetweenChars := by
          rw [spotAt, spotAt, List.drop_append, List.drop_eq_nil_of_le hge, List.nil_append]
          rfl
        obtain ⟨front, back, rfl, hfront⟩ := ih (by omega) (hsame ▸ h)
        refine ⟨c :: front, back, rfl, ?_⟩
        rw [Utf8.encode_cons, List.length_append]
        omega

/-- Behind the character that is read at a place between characters is another such place. -/
theorem IsBoundary.add {cs : List Char} {i n : Nat} (h : IsBoundary cs i) {c : Char}
    {rest : List UInt8}
    (hnext : Utf8.next 0 (spotAt (Utf8.encode cs) i).after = .ok (c, n, rest)) :
    IsBoundary cs (i + n) := by
  obtain ⟨front, back, rfl, rfl⟩ := h
  rw [after_spotAt_encode] at hnext
  cases back with
  | nil => cases hnext
  | cons c' back =>
      rw [Utf8.encode_cons] at hnext
      obtain ⟨n', hnext'⟩ := Utf8.next_encodeChar c' 0 (Utf8.encode back)
      have hlength := Utf8.length_of_next hnext'
      cases hnext.symm.trans hnext'
      refine ⟨front ++ [c], back, by simp, ?_⟩
      rw [List.length_append] at hlength
      rw [Utf8.encode_append, List.length_append, Utf8.encode_cons, Utf8.encode_nil,
        List.append_nil]
      omega

/-- What stands between two such places is a part of the text. -/
theorem exists_parts {cs : List Char} {i j : Nat} (hi : IsBoundary cs i) (hj : IsBoundary cs j)
    (hij : i ≤ j) :
    ∃ front middle back, cs = front ++ middle ++ back ∧
      (Utf8.encode cs).take i = Utf8.encode front ∧
      ((Utf8.encode cs).drop i).take (j - i) = Utf8.encode middle ∧
      (Utf8.encode cs).drop j = Utf8.encode back := by
  obtain ⟨front, behind, rfl, rfl⟩ := hi
  obtain ⟨front', back, hcs, rfl⟩ := hj
  obtain ⟨middle, rfl, rfl⟩ : ∃ middle, front' = front ++ middle ∧ behind = middle ++ back := by
    rcases List.append_eq_append_iff.1 hcs with ⟨middle, hfront, hbehind⟩ | ⟨more, rfl, rfl⟩
    · exact ⟨middle, hfront, hbehind⟩
    · -- The first place is not behind the second, so nothing stands between them.
      rw [Utf8.encode_append, List.length_append] at hij
      have hmore := Utf8.length_le_length_encode more
      obtain rfl : more = [] := List.eq_nil_of_length_eq_zero (by omega)
      exact ⟨[], by simp, rfl⟩
  refine ⟨front, middle, back, by simp, ?_, ?_, ?_⟩
  · rw [Utf8.encode_append, List.take_left]
  · rw [Utf8.encode_append front (middle ++ back), List.drop_left, Utf8.encode_append middle back,
      Utf8.encode_append front middle, List.length_append, Nat.add_sub_cancel_left, List.take_left]
  · rw [hcs, Utf8.encode_append (front ++ middle) back, List.drop_left]

end Boundaries

section Threads

variable {groups i : Nat} {cs : List Char} {p : Program} {t u : Thread}

/-- What is known of a thread of a match that started at a place `i` between characters. -/
structure Thread.Going (p : Program) (groups : Nat) (cs : List Char) (i : Nat) (t : Thread) :
    Prop where
  /-- It does not start again. -/
  step : t.step < p.start
  /-- It is in the text, between characters. -/
  within : t.In (Utf8.encode cs)
  boundary : IsBoundary cs t.spot.index
  /-- The start is remembered. -/
  start : (t.slots.find? fun e => e.1 == 0) = some (0, i)
  /-- What is remembered is between characters, at spots passed, and of groups that there are. -/
  slots : ∀ e ∈ t.slots, IsBoundary cs e.2 ∧ e.2 ≤ t.spot.index ∧ e.1 ≤ 2 * groups + 1
  /-- The end is remembered last. -/
  stop : t.step = 0 → t.slots.head? = some (1, t.spot.index)

/-- The first step of a match. -/
theorem going_of_follows_start {q : Pattern} (hp : q.program.Sound groups)
    (hi : IsBoundary cs i) (hle : i ≤ (Utf8.encode cs).length)
    (h : (q.startAt (Utf8.encode cs) i).Follows q.program u) : u.Going q.program groups cs i := by
  obtain ⟨next, hstart, hnext⟩ := hp.start
  obtain ⟨s, hs, hmoves⟩ := h
  cases hstart.symm.trans hs
  cases hmoves
  refine ⟨hnext.2, ⟨rfl, hle⟩, hi, rfl, ?_, fun hzero => ?_⟩
  · exact List.forall_mem_singleton.2 ⟨hi, Nat.le_refl _, Nat.zero_le _⟩
  · exact absurd hzero (Nat.ne_of_gt hnext.1)

/-- A step of a match that has started. -/
theorem Thread.Going.follows (h : t.Going p groups cs i) (hp : p.Sound groups)
    (hu : t.Follows p u) : u.Going p groups cs i := by
  obtain ⟨s, hs, hmoves⟩ := hu
  have hin := hmoves.in h.within
  rcases hp.steps _ s hs (Nat.ne_of_lt h.step) with ⟨-, rfl⟩ | rfl | hinner
  · cases hmoves
  · cases hmoves
    refine ⟨hp.start_pos, ⟨h.within.spot, h.within.index⟩, h.boundary, h.start, ?_, fun _ => rfl⟩
    exact List.forall_mem_cons.2
      ⟨⟨h.boundary, Nat.le_refl _, Nat.succ_le_succ (Nat.zero_le _)⟩, h.slots⟩
  · have hstay {next : Nat} (hnext : IsNumber p.start next) :
        (⟨next, t.spot, t.slots⟩ : Thread).Going p groups cs i :=
      ⟨hnext.2, ⟨h.within.spot, h.within.index⟩, h.boundary, h.start, h.slots,
        fun hzero => absurd hzero (Nat.ne_of_gt hnext.1)⟩
    have hforward {next n : Nat} (hnext : IsNumber p.start next) {c : Char} {rest : List UInt8}
        (hread : Utf8.next 0 t.spot.after = .ok (c, n, rest)) :
        (⟨next, t.spot.forward n, t.slots⟩ : Thread).Going p groups cs i := by
      have hlength := Utf8.length_of_next hread
      refine ⟨hnext.2, h.within.forward (by omega) rfl, ?_, h.start, fun e he => ?_,
        fun hzero => absurd hzero (Nat.ne_of_gt hnext.1)⟩
      · rw [h.within.spot] at hread
        exact h.boundary.add hread
      · obtain ⟨hbetween, hpassed, hslot⟩ := h.slots e he
        exact ⟨hbetween, Nat.le_trans hpassed (Nat.le_add_right _ n), hslot⟩
    cases hmoves with
    | char hafter hc =>
        obtain ⟨rest, hread⟩ := next_of_charAfter? hafter
        exact hforward hinner hread
    | @byte _ _ b _ hafter hb =>
        have hlatin : b < 128 := UInt8.lt_iff_toNat_lt.2 (hinner.2 _ hb)
        exact hforward hinner.1 (hafter ▸ Utf8.next_of_lt hlatin 0 _)
    | look => exact hstay hinner
    | save =>
        obtain ⟨hnext, hlow, hhigh⟩ := hinner
        refine ⟨hnext.2, hin, h.boundary, ?_, ?_, fun hzero => absurd hzero (Nat.ne_of_gt hnext.1)⟩
        · rw [List.find?_cons_of_neg (by simp; omega)]
          exact h.start
        · exact List.forall_mem_cons.2 ⟨⟨h.boundary, Nat.le_refl _, hhigh⟩, h.slots⟩
    | first => exact hstay hinner.1
    | second => exact hstay hinner.2

/-- Every thread of a match but the first has started. -/
theorem going_of_runs {q : Pattern} (hp : q.program.Sound groups) (hi : IsBoundary cs i)
    (hle : i ≤ (Utf8.encode cs).length)
    (h : (q.startAt (Utf8.encode cs) i).Runs q.program u) :
    u = q.startAt (Utf8.encode cs) i ∨ u.Going q.program groups cs i := by
  induction h with
  | refl => exact .inl rfl
  | tail _ hlast ih =>
      rcases ih with rfl | hgoing
      · exact .inr (going_of_follows_start hp hi hle hlast)
      · exact .inr (hgoing.follows hp hlast)

end Threads

section Matches

variable {groups i : Nat} {cs : List Char} {p : Pattern} {m : Match}

theorem Thread.Going.step_eq_zero {q : Program} {u : Thread} (h : u.Going q groups cs i)
    (hp : q.Sound groups) (hended : u.Ended q) : u.step = 0 := by
  rcases hp.steps _ _ hended (Nat.ne_of_lt h.step) with ⟨hzero, -⟩ | hsave | hinner
  · exact hzero
  · cases hsave
  · exact hinner.elim

/-- What is known of the spots that a match remembers. -/
structure Match.Spans (groups : Nat) (cs : List Char) (i : Nat) (m : Match) : Prop where
  text : m.text = Utf8.encode cs
  start : m.slot? 0 = some i
  stop : ∃ j, i ≤ j ∧ m.slot? 1 = some j
  slots : ∀ k j, m.slot? k = some j → IsBoundary cs j ∧ k ≤ 2 * groups + 1

theorem spans_of_matchAt (hwhole : p.wholeChars = true) (hp : p.program.Sound groups)
    (hi : i ≤ (Utf8.encode cs).length) {slots : List (Nat × Nat)}
    (h : p.MatchAt (Utf8.encode cs) i slots) :
    Match.Spans groups cs i ⟨Utf8.encode cs, slots⟩ := by
  have hboundary := isBoundary_of_isBetweenChars hi (h.between hwhole)
  obtain ⟨u, hruns, hended, rfl⟩ := h.ends
  rcases going_of_runs hp hboundary hi hruns with rfl | hgoing
  · obtain ⟨next, hstart, -⟩ := hp.start
    cases hstart.symm.trans hended
  · have hstop := hgoing.stop (hgoing.step_eq_zero hp hended)
    have hslots : ∀ k j, (⟨Utf8.encode cs, u.slots⟩ : Match).slot? k = some j →
        ∃ e ∈ u.slots, e.1 = k ∧ e.2 = j := by
      intro k j hslot
      obtain ⟨e, he, hej⟩ := Option.map_eq_some_iff.1 hslot
      exact ⟨e, List.mem_of_find?_eq_some he, by simpa using List.find?_some he, hej⟩
    refine ⟨rfl, ?_, ⟨u.spot.index, ?_, ?_⟩, fun k j hslot => ?_⟩
    · rw [Match.slot?, hgoing.start]
      rfl
    · exact (hgoing.slots _ (List.mem_of_find?_eq_some hgoing.start)).2.1
    · rw [Match.slot?]
      cases hu : u.slots with
      | nil => simp [hu] at hstop
      | cons e more =>
          rw [hu] at hstop
          cases hstop
          rfl
    · obtain ⟨e, he, rfl, rfl⟩ := hslots k j hslot
      exact ⟨(hgoing.slots e he).1, (hgoing.slots e he).2.2⟩

/-- The text is what stands before the match, the match, and what stands after it. -/
theorem Match.Spans.exists_parts (h : Match.Spans groups cs i m) :
    ∃ front middle back, cs = front ++ middle ++ back ∧ m.before = Utf8.encode front ∧
      m.group? 0 = some (Utf8.encode middle) ∧ m.after = Utf8.encode back := by
  obtain ⟨j, hij, hstop⟩ := h.stop
  obtain ⟨front, middle, back, hcs, hbefore, hmiddle, hafter⟩ :=
    Pattern.exists_parts (h.slots 0 i h.start).1 (h.slots 1 j hstop).1 hij
  refine ⟨front, middle, back, hcs, ?_, ?_, ?_⟩
  · rw [Match.before, h.text, h.start, Option.getD_some, hbefore]
  · simp only [Match.group?, Nat.mul_zero, Nat.zero_add, h.start, hstop, h.text, hmiddle]
  · rw [Match.after, h.text, hstop, Option.getD_some, hafter]

/-- Only a group that there is has a match, and that is text. -/
theorem Match.Spans.of_group? (h : Match.Spans groups cs i m) {k : Nat} {bytes : List UInt8}
    (hk : m.group? k = some bytes) : k ≤ groups ∧ ∃ part, bytes = Utf8.encode part := by
  rw [Match.group?] at hk
  split at hk
  · next start stop hstart hstop =>
      obtain ⟨hstart', -⟩ := h.slots _ _ hstart
      obtain ⟨hstop', hbound⟩ := h.slots _ _ hstop
      refine ⟨by omega, ?_⟩
      rw [h.text] at hk
      rcases Nat.le_total start stop with hle | hge
      · obtain ⟨-, part, -, -, -, hpart, -⟩ := Pattern.exists_parts hstart' hstop' hle
        exact ⟨part, (Option.some.inj hk).symm.trans hpart⟩
      · rw [Nat.sub_eq_zero_of_le hge, List.take_zero] at hk
        exact ⟨[], (Option.some.inj hk).symm⟩
  · cases hk

/-- A group that there is not has no match. -/
theorem Match.Spans.group?_eq_none (h : Match.Spans groups cs i m) {k : Nat} (hk : groups < k) :
    m.group? k = none := by
  cases hgroup : m.group? k with
  | none => rfl
  | some bytes => exact absurd (h.of_group? hgroup).1 (Nat.not_le_of_lt hk)

theorem Match.Spans.length_before (h : Match.Spans groups cs i m) : m.before.length = i := by
  obtain ⟨front, back, rfl, rfl⟩ := (h.slots 0 i h.start).1
  rw [Match.before, h.text, h.start, Option.getD_some, Utf8.encode_append, List.take_left]

/-- A match that is found in a text spans a part of it, and no match starts before it. -/
theorem spans_of_find? (hwhole : p.wholeChars = true) (hp : p.program.Sound groups)
    (h : p.find? (Utf8.encode cs) = some m) :
    ∃ i, m.Spans groups cs i ∧ p.MatchAt (Utf8.encode cs) i m.slots ∧
      ∀ j < i, ∀ slots, ¬ p.MatchAt (Utf8.encode cs) j slots := by
  have hfirst := firstFrom_find? p (Utf8.encode cs)
  rw [h] at hfirst
  obtain ⟨i, -, hi, hmatch, hbefore⟩ := hfirst
  obtain ⟨slots, -, rfl⟩ := Option.map_eq_some_iff.1 h
  exact ⟨i, spans_of_matchAt hwhole hp hi hmatch, hmatch,
    fun j hj => hbefore j (Nat.zero_le j) hj⟩

end Matches

section Compiled

/-- What is known of a pattern over characters that was read. -/
structure Sound (p : Pattern) : Prop where
  whole : p.wholeChars = true
  program : p.program.Sound p.groups
  groups : p.groups ≤ Scan.groupLimit
  names : ∀ n ∈ p.names, IsGroupName n.1

theorem sound_of_compile? {source : String} {p : Pattern}
    (h : compile? .chars source = some p) : p.Sound := by
  obtain ⟨e, he, rfl⟩ := Option.map_eq_some_iff.1 h
  have hsound := Syntax.sound_of_parse? he
  exact ⟨rfl, Program.sound_ofExpr (hsound.whole rfl) hsound.within, hsound.groups, hsound.names⟩

end Compiled

end Pattern
end RequestGuard
