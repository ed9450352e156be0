import RequestGuard.Text.Steps

/-!
# Looking code points up

What the search by halving finds in a table, and what is known of the words of a table.

* `firstAbove_spec`, `lt_key_firstAbove`: the key in front of the position that is found is
  not above the number, and the key at the position is.
* `firstAbove_even`: a number that no key at an odd position is above is found at an even one.
* `firstAbove_append`: where the keys pass the number, the search stops.
* `OneRow`: a row that a table gives to all code points of a range (`Steps.exists_find?`).
* `CodeSet.contains_eq_false`: a number before all bounds of a set is not in it.
* `holds_words_ofList`: the words of a literal are computed from its characters.
-/

namespace RequestGuard
namespace Text

section Search

/-- A position that the search stops at is within its bounds, and the key in front of it is not
above the number. -/
theorem firstAbove_spec (key : Nat → Nat) (n lo hi : Nat) (h : lo ≤ hi) :
    lo ≤ firstAbove key n lo hi ∧ firstAbove key n lo hi ≤ hi ∧
      (lo < firstAbove key n lo hi → key (firstAbove key n lo hi - 1) ≤ n) := by
  fun_induction firstAbove key n lo hi with
  | case1 lo hi hlt middle hkey ih =>
      obtain ⟨hlo, hhi, hlast⟩ := ih (by omega)
      refine ⟨by omega, hhi, fun _ => ?_⟩
      rcases Nat.lt_or_ge (middle + 1) (firstAbove key n (middle + 1) hi) with hmore | hstop
      · exact hlast hmore
      · have heq : firstAbove key n (middle + 1) hi - 1 = middle := by omega
        rw [heq]
        exact hkey
  | case2 lo hi hlt middle hkey ih =>
      obtain ⟨hlo, hhi, hlast⟩ := ih (by omega)
      exact ⟨hlo, by omega, hlast⟩
  | case3 lo hi hge => exact ⟨Nat.le_refl _, h, fun hlt => absurd hlt (Nat.lt_irrefl _)⟩

/-- A key that the search stops at is above the number. -/
theorem lt_key_firstAbove {key : Nat → Nat} {n lo hi : Nat} (h : firstAbove key n lo hi < hi) :
    n < key (firstAbove key n lo hi) := by
  fun_induction firstAbove key n lo hi with
  | case1 lo hi hlt middle hkey ih => exact ih h
  | case2 lo hi hlt middle hkey ih =>
      rcases Nat.lt_or_ge (firstAbove key n lo middle) middle with hless | hge
      · exact ih hless
      · have hle := (firstAbove_spec key n lo middle (by omega)).2.1
        rw [Nat.le_antisymm hle hge]
        exact Nat.lt_of_not_le hkey
  | case3 lo hi hge => exact absurd h hge

/-- Where no key at an odd position is above a number, it is found at an even position. -/
theorem firstAbove_even {key : Nat → Nat} {n : Nat} (hkey : ∀ i, i % 2 = 1 → key i ≤ n)
    {lo hi : Nat} (hle : lo ≤ hi) (hhi : hi % 2 = 0) : firstAbove key n lo hi % 2 = 0 := by
  fun_induction firstAbove key n lo hi with
  | case1 lo hi hlt middle hmiddle ih => exact ih (by omega) hhi
  | case2 lo hi hlt middle hmiddle ih =>
      rcases Nat.mod_two_eq_zero_or_one middle with heven | hodd
      · exact ih (by omega) heven
      · exact absurd (hkey middle hodd) hmiddle
  | case3 lo hi hge => omega

/-- The search stops where the keys pass the number. -/
theorem firstAbove_append {α : Type} (key : α → Nat) {before after : List α} {f : Nat → Nat}
    {n : Nat} (hf : ∀ i a, (before ++ after)[i]? = some a → f i = key a)
    (hbefore : ∀ a ∈ before, key a ≤ n) (hafter : ∀ a ∈ after, n < key a) :
    firstAbove f n 0 (before ++ after).length = before.length := by
  obtain ⟨-, hstop, hlast⟩ := firstAbove_spec f n 0 (before ++ after).length (Nat.zero_le _)
  have hnext := @lt_key_firstAbove f n 0 (before ++ after).length
  generalize firstAbove f n 0 (before ++ after).length = i at hstop hlast hnext
  rw [List.length_append] at hstop hnext
  rcases Nat.lt_trichotomy i before.length with hlt | heq | hgt
  · have hkey : f i = key before[i] :=
      hf i _ (by rw [List.getElem?_append_left hlt, List.getElem?_eq_getElem hlt])
    have habove := hnext (by omega)
    rw [hkey] at habove
    exact absurd (hbefore _ (List.getElem_mem hlt)) (Nat.not_le_of_lt habove)
  · exact heq
  · have hlt : i - 1 - before.length < after.length := by omega
    have hkey : f (i - 1) = key after[i - 1 - before.length] :=
      hf (i - 1) _ (by rw [List.getElem?_append_right (by omega), List.getElem?_eq_getElem hlt])
    have hbelow := hlast (by omega)
    rw [hkey] at hbelow
    exact absurd (hafter _ (List.getElem_mem hlt)) (Nat.not_lt_of_le hbelow)

end Search

section Ranges

variable {α : Type} {lo hi n : Nat} {good : α → Bool} {rows more : List (Nat × α)}

/-- Among the rows of a table there is one, with a good value, that holds over the range from
`lo` to `hi`. -/
def OneRow (lo hi : Nat) (good : α → Bool) (rows : List (Nat × α)) : Prop :=
  ∃ before row after, rows = before ++ row :: after ∧ (∀ r ∈ before, r.1 ≤ lo) ∧ row.1 ≤ lo ∧
    good row.2 = true ∧ ∀ r ∈ after, hi ≤ r.1

/-- The last of the rows that start before the range is good, and the others start behind it. -/
def checksOneRow (lo hi : Nat) (good : α → Bool) (rows : List (Nat × α)) : Bool :=
  (rows.takeWhile (·.1 ≤ lo)).getLast?.any (good ·.2) && (rows.dropWhile (·.1 ≤ lo)).all (hi ≤ ·.1)

theorem oneRow_of_checksOneRow (h : checksOneRow lo hi good rows = true) :
    OneRow lo hi good rows := by
  rw [checksOneRow, Bool.and_eq_true, Option.any_eq_true, List.all_eq_true] at h
  obtain ⟨⟨row, hrow, hgood⟩, hafter⟩ := h
  obtain ⟨before, hbefore⟩ := List.getLast?_eq_some_iff.1 hrow
  have hle : ∀ r ∈ before ++ [row], r.1 ≤ lo := by
    intro r hr
    rw [← hbefore] at hr
    exact of_decide_eq_true (List.all_eq_true.1 List.all_takeWhile r hr)
  refine ⟨before, row, rows.dropWhile (·.1 ≤ lo), ?_, ?_, ?_, hgood, ?_⟩
  · rw [List.append_cons, ← hbefore, List.takeWhile_append_dropWhile]
  · exact fun r hr => hle r (List.mem_append_left _ hr)
  · exact hle row (by simp)
  · exact fun r hr => of_decide_eq_true (hafter r hr)

theorem OneRow.append_left (h : OneRow lo hi good rows) (hmore : ∀ r ∈ more, r.1 ≤ lo) :
    OneRow lo hi good (more ++ rows) := by
  obtain ⟨before, row, after, rfl, hbefore, hrest⟩ := h
  refine ⟨more ++ before, row, after, (List.append_assoc ..).symm, fun r hr => ?_, hrest⟩
  rcases List.mem_append.1 hr with hr | hr
  · exact hmore r hr
  · exact hbefore r hr

theorem OneRow.append_right (h : OneRow lo hi good rows) (hmore : ∀ r ∈ more, hi ≤ r.1) :
    OneRow lo hi good (rows ++ more) := by
  obtain ⟨before, row, after, rfl, hbefore, hrow, hgood, hafter⟩ := h
  refine ⟨before, row, after ++ more, by simp, hbefore, hrow, hgood, fun r hr => ?_⟩
  rcases List.mem_append.1 hr with hr | hr
  · exact hafter r hr
  · exact hmore r hr

/-- The value of the row is found for all numbers of the range. -/
theorem Steps.exists_find? {s : Steps α} (h : OneRow lo hi good s.rows.toList) (hlo : lo ≤ n)
    (hhi : n < hi) : ∃ a, s.find? n = some a ∧ good a = true := by
  obtain ⟨before, row, after, hrows, hbefore, hrow, hgood, hafter⟩ := h
  have hsplit : s.rows.toList = (before ++ [row]) ++ after := by
    rw [hrows, List.append_cons]
  have hfirst : firstAbove (fun i => (s.rows[i]?.map Prod.fst).getD 0) n 0 s.rows.size =
      before.length + 1 := by
    rw [← Array.length_toList, hsplit]
    refine (firstAbove_append Prod.fst (fun i r hr => ?_) (fun r hr => ?_)
      fun r hr => Nat.lt_of_lt_of_le hhi (hafter r hr)).trans (by simp)
    · rw [← hsplit, Array.getElem?_toList] at hr
      rw [hr]
      rfl
    · rcases List.mem_append.1 hr with hr | hr
      · exact Nat.le_trans (hbefore r hr) hlo
      · rw [List.mem_singleton.1 hr]
        exact Nat.le_trans hrow hlo
  have hget : s.rows[before.length]? = some row := by
    rw [← Array.getElem?_toList, hrows]
    simp
  refine ⟨row.2, ?_, hgood⟩
  rw [Steps.find?, hfirst]
  simp only [hget, Option.map_some]

/-- The number of the bounds before the range is even, and the others are behind it. -/
def checksGap (lo hi : Nat) (bounds : List Nat) : Bool :=
  (bounds.takeWhile (· ≤ lo)).length % 2 == 0 && (bounds.dropWhile (· ≤ lo)).all (hi ≤ ·)

/-- The code points of such a range are not in the set. -/
theorem CodeSet.contains_of_checksGap {s : CodeSet} (h : checksGap lo hi s.bounds.toList = true)
    (hlo : lo ≤ n) (hhi : n < hi) : s.contains n = false := by
  rw [checksGap, Bool.and_eq_true, beq_iff_eq, List.all_eq_true] at h
  obtain ⟨heven, hafter⟩ := h
  have hsplit : s.bounds.toList.takeWhile (· ≤ lo) ++ s.bounds.toList.dropWhile (· ≤ lo) =
      s.bounds.toList := List.takeWhile_append_dropWhile
  have hfirst : firstAbove (fun i => s.bounds[i]?.getD 0) n 0 s.bounds.size =
      (s.bounds.toList.takeWhile (· ≤ lo)).length := by
    rw [← Array.length_toList]
    refine (congrArg (fun bs : List Nat => firstAbove _ n 0 bs.length) hsplit.symm).trans ?_
    refine firstAbove_append id (fun i b hb => ?_) (fun b hb => ?_) fun b hb => ?_
    · rw [hsplit, Array.getElem?_toList] at hb
      rw [hb]
      rfl
    · exact Nat.le_trans (of_decide_eq_true (List.all_eq_true.1 List.all_takeWhile b hb)) hlo
    · exact Nat.lt_of_lt_of_le hhi (of_decide_eq_true (hafter b hb))
  rw [CodeSet.contains, hfirst, heven]
  rfl

end Ranges

section Sets

/-- What a table tells of a code point stands in a row that starts at or before it. -/
theorem Steps.mem_of_find? {α : Type} {s : Steps α} {n : Nat} {a : α} (h : s.find? n = some a) :
    ∃ row ∈ s.rows.toList, row.1 ≤ n ∧ row.2 = a := by
  obtain ⟨-, hhi, hlast⟩ :=
    firstAbove_spec (fun i => (s.rows[i]?.map Prod.fst).getD 0) n 0 s.rows.size (Nat.zero_le _)
  rw [Steps.find?] at h
  split at h
  · cases h
  · next i hi =>
      obtain ⟨row, hrow, rfl⟩ := Option.map_eq_some_iff.1 h
      refine ⟨row, ?_, ?_, rfl⟩
      · exact Array.mem_toList_iff.2 (Array.mem_of_getElem? hrow)
      · have hle := hlast (by rw [hi]; exact Nat.succ_pos i)
        rw [hi, Nat.succ_sub_one, hrow] at hle
        exact hle

/-- A code point before all bounds is not in a set. -/
theorem CodeSet.contains_eq_false {s : CodeSet} {n : Nat} (h : ∀ b ∈ s.bounds.toList, n < b) :
    s.contains n = false := by
  have hkey (i b : Nat) (hb : ([] ++ s.bounds.toList)[i]? = some b) : s.bounds[i]?.getD 0 = b := by
    rw [List.nil_append, Array.getElem?_toList] at hb
    rw [hb, Option.getD_some]
  have hfirst : firstAbove (fun i => s.bounds[i]?.getD 0) n 0 s.bounds.size = 0 :=
    firstAbove_append id hkey (List.forall_mem_nil _) h
  rw [CodeSet.contains, hfirst]
  rfl

/-- A number before all bounds but the first two is in the set if it is in the first run. -/
theorem CodeSet.contains_first_run {start stop n : Nat} {rest : List Nat}
    (hrest : ∀ b ∈ rest, n < b) :
    (⟨(start :: stop :: rest).toArray⟩ : CodeSet).contains n = true ↔ start ≤ n ∧ n < stop := by
  obtain ⟨-, hhi, hlast⟩ := firstAbove_spec
    (fun i => ((start :: stop :: rest).toArray[i]?).getD 0) n 0 (rest.length + 2) (Nat.zero_le _)
  have hnext := @lt_key_firstAbove
    (fun i => ((start :: stop :: rest).toArray[i]?).getD 0) n 0 (rest.length + 2)
  show (firstAbove (fun i => ((start :: stop :: rest).toArray[i]?).getD 0) n 0
    (rest.length + 2) % 2 == 1) = true ↔ _
  generalize firstAbove (fun i => ((start :: stop :: rest).toArray[i]?).getD 0) n 0
    (rest.length + 2) = r at hhi hlast hnext ⊢
  match r with
  | 0 =>
      have hbefore : n < start := hnext (Nat.succ_pos _)
      simp
      omega
  | 1 =>
      have hstart : start ≤ n := hlast Nat.one_pos
      have hstop : n < stop := hnext (by omega)
      simp [hstart, hstop]
  | 2 =>
      have hstop : stop ≤ n := hlast (by omega)
      simp
      omega
  | k + 3 =>
      exfalso
      have hlt : k < rest.length := by omega
      have hle : ((start :: stop :: rest).toArray[k + 2]?).getD 0 ≤ n := hlast (by omega)
      have hget : (start :: stop :: rest).toArray[k + 2]? = some rest[k] := by
        simp [hlt]
      rw [hget, Option.getD_some] at hle
      exact absurd (hrest _ (List.getElem_mem hlt)) (Nat.not_lt_of_le hle)

end Sets

section Words

/-- The words that characters write. -/
def wordsOfChars (cs : List Char) : List (List Char) :=
  (fields ' ' (cs.map fun c => if c = '\n' then ' ' else c)).filter (!·.isEmpty)

theorem words_ofList (cs : List Char) : words (String.ofList cs) = wordsOfChars cs := by
  rw [words, String.toList_ofList]
  rfl

/-- What holds of the words that the characters of a literal write holds of its words. -/
theorem holds_words_ofList {cs : List Char} (q : List (List Char) → Bool)
    (h : q (wordsOfChars cs) = true) : q (words (String.ofList cs)) = true := by
  rwa [words_ofList]

theorem all_words_ofList {cs : List Char} {p : List Char → Bool}
    (h : (wordsOfChars cs).all p = true) : (words (String.ofList cs)).all p = true := by
  rwa [words_ofList]

theorem Steps.oneRow_ofWords {α : Type} {mark : Char} {read : List Char → α} {lo hi : Nat}
    {good : α → Bool} {cs : List Char}
    (h : checksOneRow lo hi good ((wordsOfChars cs).map fun w =>
      (hexNumber (cutWord mark w).1, read (cutWord mark w).2)) = true) :
    OneRow lo hi good (Steps.ofWords mark read [String.ofList cs]).rows.toList := by
  rw [Steps.ofWords, List.toList_toArray, allWords, List.flatMap_cons, List.flatMap_nil,
    List.append_nil, words_ofList]
  exact oneRow_of_checksOneRow h

theorem CodeSet.checksGap_ofWords {lo hi : Nat} {cs : List Char}
    (h : checksGap lo hi ((wordsOfChars cs).map hexNumber) = true) :
    checksGap lo hi (CodeSet.ofWords [String.ofList cs]).bounds.toList = true := by
  rwa [CodeSet.ofWords, List.toList_toArray, allWords, List.flatMap_cons, List.flatMap_nil,
    List.append_nil, words_ofList]

end Words

end Text
end RequestGuard
