import RequestGuard.Proofs.Name.Ascii
import RequestGuard.Proofs.Text.Tables

/-!
# Names in Latin letters have a written form

Below 128 the tables of marks and of directions say little: no character there is a mark
(`marks_contains_of_isBasic`), and none is written from right to left
(`directionOf_of_isBasic`).  So a name of characters that an address may hold is written as it
is, in small letters, unless a label starts like an encoded one (`toAscii?_eq_map_lowerChar`).
-/

namespace RequestGuard
namespace Name

open Text

section Tables

set_option maxRecDepth 1000000 in
theorem all_marks : (allWords PropertyTable.marks).all (fun w => 127 < hexNumber w) = true := by
  rw [allWords, PropertyTable.marks, List.flatMap_cons, List.flatMap_nil, List.append_nil]
  with_reducible refine all_words_ofList ?_
  decide +kernel

set_option maxRecDepth 1000000 in
theorem all_directions : directions.rows.toList.all (fun row =>
    127 < row.1 || !([.rightToLeft, .arabicLetter, .arabicNumber].contains row.2)) = true := by
  rw [directions, Steps.ofWords, List.toList_toArray, List.all_map, allWords,
    PropertyTable.directions, List.flatMap_cons, List.flatMap_nil, List.append_nil]
  with_reducible refine all_words_ofList ?_
  decide +kernel

/-- No character below 128 is a mark. -/
theorem marks_contains_of_isBasic {c : Char} (h : isBasic c = true) :
    marks.contains c.toNat = false := by
  have hlt : c.toNat < 128 := by simpa [isBasic] using h
  refine CodeSet.contains_eq_false fun b hb => ?_
  obtain ⟨w, hw, rfl⟩ : ∃ w ∈ allWords PropertyTable.marks, hexNumber w = b := by
    simpa [marks, CodeSet.ofWords] using hb
  have hbound := of_decide_eq_true (List.all_eq_true.1 all_marks w hw)
  omega

/-- No character below 128 is written from right to left. -/
theorem directionOf_of_isBasic {c : Char} (h : isBasic c = true) :
    directionOf c ∉ [.rightToLeft, .arabicLetter, .arabicNumber] := by
  have hlt : c.toNat < 128 := by simpa [isBasic] using h
  rw [directionOf]
  cases hfind : directions.find? c.toNat with
  | none => simp
  | some d =>
      obtain ⟨row, hrow, hle, rfl⟩ := Steps.mem_of_find? hfind
      have hleft := List.all_eq_true.1 all_directions row hrow
      rw [decide_eq_false (by omega), Bool.false_or, Bool.not_eq_true', List.contains_eq_mem,
        decide_eq_false_iff_not] at hleft
      exact hleft

end Tables

section Labels

theorem joinersFitFrom_of_ne {cs : List Char} (h : ∀ c ∈ cs, c ≠ nonJoiner ∧ c ≠ joiner)
    (before : List Char) : joinersFitFrom before cs = true := by
  induction cs generalizing before with
  | nil => rfl
  | cons c more ih =>
      obtain ⟨hnon, hjoin⟩ := h c List.mem_cons_self
      unfold joinersFitFrom
      simp only [if_neg hnon, if_neg hjoin, Bool.true_and]
      exact ih (fun d hd => h d (List.mem_cons_of_mem _ hd)) _

/-- A label that mapping leaves as it is, without marks and joiners, is valid. -/
theorem isValid_of_mapped? {label : List Char} (hmapped : mapped? label = some label)
    (hmarks : ∀ c ∈ label, marks.contains c.toNat = false)
    (hjoiners : ∀ c ∈ label, c ≠ nonJoiner ∧ c ≠ joiner) : isValid label = true := by
  have hsettled : isSettled label = true := by
    rw [isSettled, hmapped]
    exact beq_self_eq_true _
  have hfit : joinersFit label = true := joinersFitFrom_of_ne hjoiners []
  unfold isValid
  rw [hsettled, hfit]
  cases label with
  | nil => rfl
  | cons c more => simp [hmarks c List.mem_cons_self]

/-- The joiners do not stand below 128. -/
theorem ne_joiners_of_isBasic {c : Char} (h : isBasic c = true) : c ≠ nonJoiner ∧ c ≠ joiner := by
  constructor
  · rintro rfl
    revert h
    decide
  · rintro rfl
    revert h
    decide

theorem holdsRightToLeft_of_basic {label : List Char} (h : ∀ c ∈ label, isBasic c = true) :
    holdsRightToLeft label = false := by
  refine List.any_eq_false.2 fun c hc => ?_
  have hleft := directionOf_of_isBasic (h c hc)
  generalize directionOf c = d at hleft
  cases d <;> simp_all

/-- A label below 128 without capital letters is valid. -/
theorem isValid_of_basic {label : List Char}
    (h : ∀ c ∈ label, isBasic c = true ∧ lowerChar c = c) : isValid label = true := by
  have hbasic : ∀ c ∈ label, isBasic c = true := fun c hc => (h c hc).1
  have hmap : label.map lowerChar = label :=
    (List.map_congr_left fun c hc => (h c hc).2).trans (List.map_id _)
  have hmapped : mapped? label = some label := by rw [mapped?_of_basic hbasic, hmap]
  exact isValid_of_mapped? hmapped (fun c hc => marks_contains_of_isBasic (hbasic c hc))
    fun c hc => ne_joiners_of_isBasic (hbasic c hc)

/-- Such a label is read as it is, unless it starts like an encoded one. -/
theorem Label.ofMapped?_of_basic {label : List Char}
    (h : ∀ c ∈ label, isBasic c = true ∧ lowerChar c = c)
    (hmark : ¬ encodedMark <+: label) : Label.ofMapped? label = some ⟨label, label⟩ := by
  have hall : label.all isBasic = true := List.all_eq_true.2 fun c hc => (h c hc).1
  rw [Label.ofMapped?, if_neg (by rwa [List.isPrefixOf_iff_prefix]), isValid_of_basic h, hall]
  rfl

end Labels

section Names

/-- A small letter may stand in a host name. -/
theorem isForbidden_lowerChar {c : Char} (h : isBasic c = true) (hc : isForbidden c = false) :
    isForbidden (lowerChar c) = false := by
  have hall : ∀ n < 128, isForbidden (Char.ofNat n) = false →
      isForbidden (lowerChar (Char.ofNat n)) = false := by
    decide +kernel
  exact of_isBasic (P := fun c => isForbidden c = false → isForbidden (lowerChar c) = false)
    hall h hc

/-- A name of characters that an address may hold is written as it is, in small letters, unless
a label starts like an encoded one. -/
theorem toAscii?_eq_map_lowerChar {cs : List Char}
    (h : ∀ c ∈ cs, isBasic c = true ∧ isForbidden c = false)
    (hmark : ∀ label ∈ fields '.' (cs.map lowerChar), ¬ encodedMark <+: label) :
    toAscii? cs = some (cs.map lowerChar) := by
  have hbasic : ∀ c ∈ cs, isBasic c = true := fun c hc => (h c hc).1
  have hlower : ∀ c ∈ cs.map lowerChar, isBasic c = true ∧ lowerChar c = c := by
    intro c hc
    obtain ⟨d, hd, rfl⟩ := List.mem_map.1 hc
    exact ⟨isBasic_lowerChar (hbasic d hd), lowerChar_lowerChar d⟩
  have hlabels : (fields '.' (cs.map lowerChar)).mapM Label.ofMapped? =
      some ((fields '.' (cs.map lowerChar)).map fun label => ⟨label, label⟩) :=
    mapM_eq_some_map fun label hlabel =>
      Label.ofMapped?_of_basic (fun c hc => hlower c (mem_of_mem_fields hlabel hc))
        (hmark label hlabel)
  have hdirections : (((fields '.' (cs.map lowerChar)).map fun label =>
      (⟨label, label⟩ : Label)).any (holdsRightToLeft ·.chars)) = false := by
    rw [List.any_map, List.any_eq_false]
    intro label hlabel
    exact ne_true_of_eq_false
      (holdsRightToLeft_of_basic fun c hc => (hlower c (mem_of_mem_fields hlabel hc)).1)
  refine asciiForm?_eq_some_iff.2 ⟨_, _, mapped?_of_basic hbasic, ?_, hlabels, ?_, ?_⟩
  · intro c hc _
    obtain ⟨d, hd, rfl⟩ := List.mem_map.1 hc
    exact ⟨isForbidden_lowerChar (h d hd).1 (h d hd).2, lowerChar_lowerChar d⟩
  · rw [hdirections]
    exact fun hright => absurd hright Bool.false_ne_true
  · rw [List.map_map]
    exact ((congrArg (join '.') (List.map_id _)).trans (join_fields '.' _)).symm

end Names

end Name
end RequestGuard
