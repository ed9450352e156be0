import RequestGuard.Filter.FilterList
import RequestGuard.Text.Lemmas

/-!
# Lines that are not counted

A list counts its rules by a look at each line of its own, apart from the reading of filters.

* `Overlooked`: what a line has to be like to be a filter and not a rule that is counted.
* `overlooked_of_ofLine?`: there are no other such lines.
* `ofText_insert`: any other line that is not counted can be put anywhere into a list.
* `uncounted_lines_are_silent`: so a list without rules and without such lines lets all pass.
-/

namespace RequestGuard
namespace FilterList

open RequestGuard.Filter Text

section Reading

variable {line : List Char}

/-- A line has a mark of rules for elements somewhere. -/
def HasMarker (line : List Char) : Prop :=
  ∃ m ∈ elementMarkers, m.toList <:+: line

/-- What a line without blanks around it is like if it is a filter that is not counted. -/
inductive Overlooked (line : List Char) : Prop where
  /-- It starts with the bracket of a heading, and goes on in another way. -/
  | bracket (hhead : line.head? = some '[') (hheading : ¬"[Adblock".toList <+: line)
  /-- It has a mark of rules for elements behind the bar of an anchor. -/
  | anchored (hmarker : HasMarker line) (hanchor : line.head? = some '|' ∨ "@@|".toList <+: line)
  /-- It has such a mark, and its first number sign is not of one. -/
  | behind (hmarker : HasMarker line) {before after : List Char} (hbefore : '#' ∉ before)
      (hline : line = before ++ '#' :: after) (hafter : ∀ m ∈ elementMarks, ¬m.toList <+: after)

/-- Why a line is not counted. -/
theorem isRule_eq_false_iff (line : List Char) :
    isRule line = false ↔
      trimChars line = [] ∨ (trimChars line).head? = some '!' ∨
        (trimChars line).head? = some '[' ∨ HasMarker (trimChars line) := by
  simp only [isRule, Bool.not_eq_false', Bool.or_eq_true, List.isEmpty_iff, beq_iff_eq,
    List.any_eq_true, holds_iff, HasMarker, or_assoc]

/-- A line is cut at its first number sign. -/
theorem cutAt?_hash {before : List Char} (h : '#' ∉ before) (after : List Char) :
    cutAt? ['#'] (before ++ '#' :: after) = some (before, after) := by
  induction before with
  | nil => simp [cutAt?]
  | cons c more ih =>
      obtain ⟨hc, hmore⟩ : '#' ≠ c ∧ '#' ∉ more := by simpa using h
      rw [List.cons_append, cutAt?, if_neg (by simpa using hc), ih hmore]
      rfl

/-- Marks of rules for elements have a number sign. -/
theorem HasMarker.mem_hash (h : HasMarker line) : '#' ∈ line := by
  obtain ⟨m, hm, hinfix⟩ := h
  have hall : ∀ m ∈ elementMarkers, '#' ∈ m.toList := by decide
  exact hinfix.subset (hall m hm)

/-- What is known of a line that may be a filter. -/
theorem of_isSupported (h : isSupported line = true) :
    line.head? ≠ some '!' ∧ ¬"[Adblock".toList <+: line ∧
      ((line.head? = some '|' ∨ "@@|".toList <+: line) ∨
        ∀ cut ∈ cutAt? ['#'] line, ∀ m ∈ elementMarks, ¬m.toList <+: cut.2) := by
  simp only [isSupported, Bool.and_eq_true, Bool.not_eq_true', Bool.or_eq_false_iff,
    Bool.or_eq_true, beq_eq_false_iff_ne, beq_iff_eq, List.isPrefixOf_iff_prefix] at h
  obtain ⟨⟨⟨⟨-, hcomment⟩, -⟩, hheading⟩, hway⟩ := h
  refine ⟨hcomment, fun hp => ?_, hway.imp_right fun helement cut hcut m hm hp => ?_⟩
  · rw [List.isPrefixOf_iff_prefix.2 hp] at hheading
    cases hheading
  · rw [Option.mem_def.1 hcut] at helement
    exact List.any_eq_false.1 helement.2 m hm (List.isPrefixOf_iff_prefix.2 hp)

/-- The three ways in which a line is overlooked can be told. -/
theorem overlooked_iff (line : List Char) :
    Overlooked line ↔
      (line.head? = some '[' ∧ ¬"[Adblock".toList <+: line) ∨
        (HasMarker line ∧ ((line.head? = some '|' ∨ "@@|".toList <+: line) ∨
          ∀ cut ∈ cutAt? ['#'] line, ∀ m ∈ elementMarks, ¬m.toList <+: cut.2)) := by
  constructor
  · rintro (⟨hhead, hheading⟩ | ⟨hmarker, hanchor⟩ | ⟨hmarker, hbefore, rfl, hafter⟩)
    · exact Or.inl ⟨hhead, hheading⟩
    · exact Or.inr ⟨hmarker, Or.inl hanchor⟩
    · refine Or.inr ⟨hmarker, Or.inr fun cut hcut => ?_⟩
      rw [cutAt?_hash hbefore, Option.mem_some_iff] at hcut
      exact hcut ▸ hafter
  · rintro (⟨hhead, hheading⟩ | ⟨hmarker, hanchor | hfirst⟩)
    · exact .bracket hhead hheading
    · exact .anchored hmarker hanchor
    · obtain ⟨before, after, rfl, hbefore⟩ := List.eq_append_cons_of_mem hmarker.mem_hash
      exact .behind hmarker hbefore rfl (hfirst _ (cutAt?_hash hbefore after))

instance : DecidablePred HasMarker := fun line =>
  inferInstanceAs (Decidable (∃ m ∈ elementMarkers, m.toList <:+: line))

instance : DecidablePred Overlooked := fun line =>
  decidable_of_iff _ (overlooked_iff line).symm

/-- Every filter that is not counted as a rule is overlooked in one of the three ways. -/
theorem overlooked_of_ofLine? {f : Filter} (hrule : isRule line = false)
    (hread : ofLine? line = some f) : Overlooked (trimChars line) := by
  unfold ofLine? at hread
  dsimp only at hread
  split at hread
  · cases hread
  · next hfilter =>
      simp only [Bool.or_eq_true, Bool.not_eq_true', not_or, List.isEmpty_iff,
        Bool.not_eq_false] at hfilter
      obtain ⟨hne, hsupported⟩ := hfilter
      obtain ⟨hcomment, hheading, hway⟩ := of_isSupported hsupported
      rcases (isRule_eq_false_iff line).1 hrule with h | h | h | hmarker
      · exact absurd h hne
      · exact absurd h hcomment
      · exact .bracket h hheading
      · exact (overlooked_iff _).2 (Or.inr ⟨hmarker, hway⟩)

end Reading

section Lists

variable {text text' : String} {line : List Char} {before after : List (List Char)}

/-- The number of rules is the number of lines that are counted. -/
theorem ruleCount_eq_zero_iff (text : String) :
    (ofText text).ruleCount = 0 ↔ ∀ l ∈ lines text.toList, isRule l = false := by
  show ((lines text.toList).filter isRule).length = 0 ↔ _
  simp

/-- A line that is not counted does not change the number of rules. -/
theorem ruleCount_insert (htext : lines text.toList = before ++ after)
    (htext' : lines text'.toList = before ++ line :: after) (hrule : isRule line = false) :
    (ofText text').ruleCount = (ofText text).ruleCount := by
  show ((lines text'.toList).filter isRule).length = ((lines text.toList).filter isRule).length
  rw [htext, htext', List.filter_append, List.filter_append,
    List.filter_cons_of_neg (Bool.eq_false_iff.1 hrule)]

/-- A line that is neither counted nor a filter can be put anywhere. -/
theorem ofText_insert (htext : lines text.toList = before ++ after)
    (htext' : lines text'.toList = before ++ line :: after) (hrule : isRule line = false)
    (hfilter : ofLine? line = none) : ofText text' = ofText text := by
  have hfilters : (lines text'.toList).filterMap ofLine? =
      (lines text.toList).filterMap ofLine? := by
    rw [htext, htext', List.filterMap_append, List.filterMap_append,
      List.filterMap_cons_none hfilter]
  have hcount := ruleCount_insert htext htext' hrule
  rw [ofText, ofText] at hcount ⊢
  simp only [hfilters] at hcount ⊢
  rw [hcount]

/-- A list without filters lets every request pass. -/
theorem decide_of_filterMap_eq_nil (h : (lines text.toList).filterMap ofLine? = [])
    (r : Request) : (ofText text).decide r = .allow := by
  have hlist : ofText text =
      ⟨.of [], .of [], .of [], ((lines text.toList).filter isRule).length⟩ := by
    rw [ofText]
    simp only [h]
    rfl
  have hhits : ∀ t, (Index.of []).hits t = false := fun t => rfl
  rw [hlist, decide]
  simp only [hhits, Bool.false_and, Bool.or_self, Bool.and_false]
  rfl

/-- **Lines that are not counted say nothing**, unless they are overlooked.  A list that counts
no rules and has no line that is overlooked lets every request pass.  Wherever a line that is
not counted is put into a list, the number of rules stays; and the list stays as a whole, with
all its decisions, unless the line is overlooked. -/
theorem uncounted_lines_are_silent (text : String) :
    ((ofText text).ruleCount = 0 → (∀ l ∈ lines text.toList, ¬Overlooked (trimChars l)) →
        ∀ r, (ofText text).decide r = .allow) ∧
      ∀ text' before line after, lines text.toList = before ++ after →
        lines text'.toList = before ++ line :: after → isRule line = false →
          (ofText text').ruleCount = (ofText text).ruleCount ∧
            (¬Overlooked (trimChars line) → ofText text' = ofText text) := by
  have hnone : ∀ l, isRule l = false → ¬Overlooked (trimChars l) → ofLine? l = none := by
    intro l hrule hseen
    refine Option.eq_none_iff_forall_not_mem.2 fun f hread => ?_
    exact hseen (overlooked_of_ofLine? hrule hread)
  constructor
  · intro hcount hseen
    refine decide_of_filterMap_eq_nil (List.filterMap_eq_nil_iff.2 fun l hl => ?_)
    exact hnone l ((ruleCount_eq_zero_iff text).1 hcount l hl) (hseen l hl)
  · intro text' before line after htext htext' hrule
    exact ⟨ruleCount_insert htext htext' hrule,
      fun hseen => ofText_insert htext htext' hrule (hnone line hrule hseen)⟩

/-- A comment and a heading, and rules for elements before and behind the line that is put in. -/
theorem uncounted_lines_are_silent_plain :
    let text := "! note\r\n[Adblock Plus 2.0]\na.b##.ad\n\n"
    let longer := "! note\r\n[Adblock Plus 2.0]\n  a.b#@#.ad\na.b##.ad\n\n"
    (ofText text).ruleCount = 0 ∧ (∀ r, (ofText text).decide r = .allow) ∧
      ofText longer = ofText text := by
  intro text longer
  let before := ["! note".toList, "[Adblock Plus 2.0]".toList]
  let after := ["a.b##.ad".toList, []]
  have hcount : (ofText text).ruleCount = 0 := by decide +kernel
  have hlines : lines text.toList = before ++ after := by decide +kernel
  have hlines' : lines longer.toList = before ++ "  a.b#@#.ad".toList :: after := by
    decide +kernel
  have hseen : ∀ l ∈ before ++ after, ¬Overlooked (trimChars l) := by decide +kernel
  obtain ⟨hempty, hput⟩ := uncounted_lines_are_silent text
  refine ⟨hcount, hempty hcount (hlines ▸ hseen), ?_⟩
  exact (hput longer before _ after hlines hlines' (by decide +kernel)).2 (by decide +kernel)

/-- Each way to be overlooked is one to block: lists that count no rules, of one line each. -/
theorem overlooked_lines_block :
    let r : Request := ⟨"https://a.b/[x", "a.b", "c.d", true, .single .script⟩
    ∀ text ∈ ["[x", "||a.b^$domain=~e##", "/$domain=~e#f##"],
      (ofText text).ruleCount = 0 ∧ (∀ l ∈ lines text.toList, Overlooked (trimChars l)) ∧
        (ofText text).decide r = .block := by
  decide +kernel

end Lists

end FilterList
end RequestGuard
