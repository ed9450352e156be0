import RequestGuard.Proofs.Name.Punycode

/-!
# Written names are read again

A name in Latin letters is its own written form, unless it holds an encoding that is too long to
be read.

* `IsShort`: a label that is no encoding, or one that is not too long.
* `Label.ofMapped?_written`: a label is read from its written form as the same label, if that is
  short.
* `toAscii?_toAscii?`: a written name can be read again exactly if its labels are short.
-/

namespace RequestGuard
namespace Name

open Text

section Labels

/-- A label that is no encoding, or one that is not too long to be read. -/
def IsShort (label : List Char) : Prop :=
  encodedMark <+: label → label.length ≤ encodedMark.length + decodeLimit

variable {label : List Char} {l : Label}

/-- Only short labels are read. -/
theorem Label.Read.isShort (h : Label.Read label l) : IsShort label := by
  intro hmark
  cases h with
  | encoded _ _ hlength _ => exact hlength
  | basic hnone _ _ => exact absurd hmark hnone
  | coded hnone _ _ => exact absurd hmark hnone

/-- The code of a label that needs one is read as the label. -/
theorem Label.ofMapped?_encode (hvalid : isValid label = true)
    (hneeds : label.all isBasic = false)
    (hshort : (Punycode.encode label).length ≤ decodeLimit) :
    Label.ofMapped? (encodedMark ++ Punycode.encode label) =
      some ⟨encodedMark ++ Punycode.encode label, label⟩ := by
  have hmark : encodedMark.isPrefixOf (encodedMark ++ Punycode.encode label) = true :=
    List.isPrefixOf_iff_prefix.2 (List.prefix_append _ _)
  have hbasic : (Punycode.encode label).all isBasic = true := by
    refine List.all_eq_true.2 fun c hc => ?_
    rcases mem_encode hc with ⟨-, hlt⟩ | rfl | hdigit
    · exact decide_eq_true hlt
    · rfl
    · exact (isPlain_of_isPunycodeDigit hdigit).1
  rw [Label.ofMapped?, if_pos hmark, List.drop_left]
  simp only [hbasic, Nat.not_lt_of_le hshort, Punycode.decode?_encode, Option.bind_some, hneeds,
    hvalid, decide_false, Bool.not_true, Bool.or_false, Bool.false_eq_true, if_false]

/-- A label is read from its written form as the same label. -/
theorem Label.ofMapped?_written (h : Label.ofMapped? label = some l) (hshort : IsShort l.written) :
    Label.ofMapped? l.written = some l := by
  cases Label.read_of_ofMapped? h with
  | encoded _ _ _ _ => exact h
  | basic _ _ _ => exact h
  | coded _ hvalid hneeds =>
      have hlength := hshort (List.prefix_append _ _)
      rw [List.length_append] at hlength
      exact Label.ofMapped?_encode hvalid hneeds (Nat.le_of_add_le_add_left hlength)

/-- A label without dots is written without dots. -/
theorem Label.Read.dot_not_mem_written (h : Label.Read label l) (hdot : '.' ∉ label) :
    '.' ∉ l.written := by
  intro hmem
  cases h with
  | encoded _ _ _ _ => exact hdot hmem
  | basic _ _ _ => exact hdot hmem
  | coded _ _ _ =>
      rcases List.mem_append.1 hmem with hmem | hmem
      · exact absurd hmem (by decide)
      · rcases mem_encode hmem with ⟨hmem, -⟩ | heq | ⟨n, hn, heq⟩
        · exact hdot hmem
        · exact absurd heq (by decide)
        · have hall : ∀ n < 36, '.' ≠ Punycode.digit n := by decide
          exact hall n hn heq

end Labels

section Names

variable {name ascii : List Char}

/-- A written name can be read again exactly if its labels are short, and it is read as it is. -/
theorem toAscii?_toAscii? (h : toAscii? name = some ascii) :
    toAscii? ascii = some ascii ↔ ∀ label ∈ fields '.' ascii, IsShort label := by
  have hplain := isPlain_of_mem_toAscii? h
  have hmapped : mapped? ascii = some ascii := by
    rw [mapped?_of_basic fun c hc => (hplain c hc).1, map_lowerChar_of_plain hplain]
  constructor
  · intro hagain label hlabel
    obtain ⟨whole, ls, hwhole, -, hls, -, -⟩ := asciiForm?_eq_some_iff.1 hagain
    obtain rfl := Option.some.inj (hmapped.symm.trans hwhole)
    obtain ⟨l, hl⟩ := exists_of_mapM hls hlabel
    exact (Label.read_of_ofMapped? hl).isShort
  · intro hshort
    obtain ⟨whole, ls, -, -, hls, hdirections, rfl⟩ := asciiForm?_eq_some_iff.1 h
    have hread (l : Label) (hl : l ∈ ls) :
        ∃ label ∈ fields '.' whole, Label.ofMapped? label = some l := mem_of_mapM hls hl
    have hne : ls.map Label.written ≠ [] := by
      intro hnil
      have hlength := length_of_mapM hls
      rw [List.map_eq_nil_iff.1 hnil] at hlength
      exact fields_ne_nil '.' whole (List.eq_nil_of_length_eq_zero hlength.symm)
    have hfields : fields '.' (join '.' (ls.map Label.written)) = ls.map Label.written := by
      refine fields_join hne fun written hwritten => ?_
      obtain ⟨l, hl, rfl⟩ := List.mem_map.1 hwritten
      obtain ⟨label, hlabel, hl⟩ := hread l hl
      exact (Label.read_of_ofMapped? hl).dot_not_mem_written (not_mem_of_mem_fields hlabel)
    have hagain : (fields '.' (join '.' (ls.map Label.written))).mapM Label.ofMapped? =
        some ls := by
      rw [hfields] at hshort ⊢
      refine mapM_map_eq_some fun l hl => ?_
      obtain ⟨label, -, hlabel⟩ := hread l hl
      exact Label.ofMapped?_written hlabel (hshort _ (List.mem_map_of_mem hl))
    exact asciiForm?_eq_some_iff.2
      ⟨_, ls, hmapped, fun c hc _ => (hplain c hc).2, hagain, hdirections, rfl⟩

end Names

end Name
end RequestGuard
