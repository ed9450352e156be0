import RequestGuard.Proofs.Name.Latin
import RequestGuard.Proofs.Name.Written
import RequestGuard.Proofs.Normal.Form

/-!
# Names in ideographs have a written form

The block of common ideographs is one run in every table: its characters are kept as they are
(`mapChar?_of_isIdeograph`), none is a mark, and all are written from left to right.  So a label
of ideographs is encoded as it is, if it is not too long (`toAscii?_of_ideographs`).
-/

namespace RequestGuard
namespace Name

open Text RequestGuard.Normal

section Tables

/-- A character that is kept. -/
def Mapping.isKeep : Mapping → Bool
  | .keep => true
  | _ => false

set_option maxRecDepth 1000000 in
theorem mappings_before : ∀ part ∈ [MappingTable.rowsPart1, MappingTable.rowsPart2],
    (words part).all (fun w => (readMapping w).1 ≤ 0x4E00) = true := by
  refine List.forall_mem_cons.2 ⟨?_, List.forall_mem_cons.2 ⟨?_, List.forall_mem_nil _⟩⟩
  · rw [MappingTable.rowsPart1]
    with_reducible refine all_words_ofList ?_
    decide +kernel
  · rw [MappingTable.rowsPart2]
    with_reducible refine all_words_ofList ?_
    decide +kernel

set_option maxRecDepth 1000000 in
theorem mappings_over : checksOneRow 0x4E00 0xA000 Mapping.isKeep
    ((words MappingTable.rowsPart3).map readMapping) = true := by
  rw [MappingTable.rowsPart3]
  with_reducible
    refine holds_words_ofList
      (fun ws => checksOneRow 0x4E00 0xA000 Mapping.isKeep (ws.map readMapping)) ?_
  decide +kernel

set_option maxRecDepth 1000000 in
theorem mappings_behind : ∀ part ∈ [MappingTable.rowsPart4, MappingTable.rowsPart5,
    MappingTable.rowsPart6, MappingTable.rowsPart7],
    (words part).all (fun w => 0xA000 ≤ (readMapping w).1) = true := by
  refine List.forall_mem_cons.2 ⟨?_, List.forall_mem_cons.2 ⟨?_, List.forall_mem_cons.2 ⟨?_,
    List.forall_mem_cons.2 ⟨?_, List.forall_mem_nil _⟩⟩⟩⟩
  · rw [MappingTable.rowsPart4]
    with_reducible refine all_words_ofList ?_
    decide +kernel
  · rw [MappingTable.rowsPart5]
    with_reducible refine all_words_ofList ?_
    decide +kernel
  · rw [MappingTable.rowsPart6]
    with_reducible refine all_words_ofList ?_
    decide +kernel
  · rw [MappingTable.rowsPart7]
    with_reducible refine all_words_ofList ?_
    decide +kernel

/-- One row of the mapping table keeps the whole block. -/
theorem oneRow_mappings : OneRow 0x4E00 0xA000 Mapping.isKeep mappings.rows.toList := by
  have hrows : mappings.rows.toList =
      (allWords [MappingTable.rowsPart1, MappingTable.rowsPart2]).map readMapping ++
        ((words MappingTable.rowsPart3).map readMapping ++
          (allWords [MappingTable.rowsPart4, MappingTable.rowsPart5, MappingTable.rowsPart6,
            MappingTable.rowsPart7]).map readMapping) := by
    rw [mappings, List.toList_toArray, MappingTable.rows]
    simp only [allWords, List.flatMap_cons, List.flatMap_nil, List.append_nil, List.map_append,
      List.append_assoc]
  rw [hrows]
  refine OneRow.append_left (OneRow.append_right (oneRow_of_checksOneRow mappings_over) ?_) ?_
  · intro row hrow
    obtain ⟨w, hw, rfl⟩ := List.mem_map.1 hrow
    obtain ⟨part, hpart, hw⟩ := List.mem_flatMap.1 hw
    exact of_decide_eq_true (List.all_eq_true.1 (mappings_behind part hpart) w hw)
  · intro row hrow
    obtain ⟨w, hw, rfl⟩ := List.mem_map.1 hrow
    obtain ⟨part, hpart, hw⟩ := List.mem_flatMap.1 hw
    exact of_decide_eq_true (List.all_eq_true.1 (mappings_before part hpart) w hw)

set_option maxRecDepth 1000000 in
theorem checksGap_marks : checksGap 0x4E00 0xA000 marks.bounds.toList = true := by
  rw [marks, PropertyTable.marks]
  with_reducible refine CodeSet.checksGap_ofWords ?_
  decide +kernel

set_option maxRecDepth 1000000 in
theorem oneRow_directions :
    OneRow 0x4E00 0xA000 (fun d => decide (d = .leftToRight)) directions.rows.toList := by
  rw [directions, PropertyTable.directions]
  with_reducible refine Steps.oneRow_ofWords ?_
  decide +kernel

end Tables

section Characters

variable {c : Char}

theorem isBasic_of_isIdeograph (hc : IsIdeograph c) : isBasic c = false := by
  have hlow := hc.low
  exact decide_eq_false (by omega)

theorem mapChar?_of_isIdeograph (hc : IsIdeograph c) : mapChar? c = some [c] := by
  have hlow := hc.low
  obtain ⟨m, hfind, hkeep⟩ := Steps.exists_find? oneRow_mappings hc.low hc.high
  rw [mapChar?, if_neg (by omega), hfind]
  cases m <;> first | rfl | cases hkeep

theorem marks_contains_of_isIdeograph (hc : IsIdeograph c) : marks.contains c.toNat = false :=
  CodeSet.contains_of_checksGap checksGap_marks hc.low hc.high

theorem directionOf_of_isIdeograph (hc : IsIdeograph c) : directionOf c = .leftToRight := by
  obtain ⟨d, hfind, hleft⟩ := Steps.exists_find? oneRow_directions hc.low hc.high
  rw [directionOf, hfind, Option.getD_some, of_decide_eq_true hleft]

end Characters

section Labels

variable {label : List Char}

theorem mapped?_of_ideographs (h : ∀ c ∈ label, IsIdeograph c) : mapped? label = some label := by
  have hmap : label.map (fun c => c) = label := List.map_id' label
  have hform : form (label.map fun c => c) = label.map fun c => c := by
    rw [hmap, form_of_stays fun c hc => stays_of_isIdeograph (h c hc)]
  rw [mapped?_of_mapChar? (fun c hc => mapChar?_of_isIdeograph (h c hc)) hform, hmap]

theorem isValid_of_ideographs (h : ∀ c ∈ label, IsIdeograph c) : isValid label = true :=
  isValid_of_mapped? (mapped?_of_ideographs h)
    (fun c hc => marks_contains_of_isIdeograph (h c hc))
    fun c hc => ⟨(h c hc).ne (by decide), (h c hc).ne (by decide)⟩

theorem holdsRightToLeft_of_ideographs (h : ∀ c ∈ label, IsIdeograph c) :
    holdsRightToLeft label = false := by
  refine List.any_eq_false.2 fun c hc => ?_
  rw [directionOf_of_isIdeograph (h c hc)]
  exact Bool.false_ne_true

/-- A label of ideographs is encoded. -/
theorem Label.ofMapped?_of_ideographs (hne : label ≠ []) (h : ∀ c ∈ label, IsIdeograph c)
    (hlength : label.length ≤ encodeLimit) :
    Label.ofMapped? label = some ⟨encodedMark ++ Punycode.encode label, label⟩ := by
  have hmark : ¬ encodedMark.isPrefixOf label = true := by
    rw [List.isPrefixOf_iff_prefix]
    intro hmark
    exact (h 'x' (hmark.subset (by decide))).ne (by decide) rfl
  have hneeds : label.all isBasic = false := by
    obtain ⟨c, more, rfl⟩ := List.exists_cons_of_ne_nil hne
    rw [List.all_cons, isBasic_of_isIdeograph (h c List.mem_cons_self), Bool.false_and]
  rw [Label.ofMapped?, if_neg hmark, isValid_of_ideographs h, hneeds,
    if_neg (Nat.not_lt_of_le hlength)]
  rfl

/-- A name of one label of ideographs is written by its encoding. -/
theorem toAscii?_of_ideographs (hne : label ≠ []) (h : ∀ c ∈ label, IsIdeograph c)
    (hlength : label.length ≤ encodeLimit) :
    toAscii? label = some (encodedMark ++ Punycode.encode label) := by
  have hfields : fields '.' label = [label] :=
    fields_of_not_mem fun hdot => (h '.' hdot).ne (by decide) rfl
  refine asciiForm?_eq_some_iff.2 ⟨label, [⟨encodedMark ++ Punycode.encode label, label⟩],
    mapped?_of_ideographs h, ?_, ?_, ?_, rfl⟩
  · intro c hc hbasic
    rw [isBasic_of_isIdeograph (h c hc)] at hbasic
    cases hbasic
  · rw [hfields]
    simp [Label.ofMapped?_of_ideographs hne h hlength]
  · simp [holdsRightToLeft_of_ideographs h]

end Labels

end Name
end RequestGuard
