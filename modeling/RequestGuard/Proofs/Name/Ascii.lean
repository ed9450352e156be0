import RequestGuard.Name.Ascii
import RequestGuard.Proofs.Text.Numerals
import RequestGuard.Text.Lemmas

/-!
# Names in Latin letters

* `asciiForm?_eq_some_iff`: a name has a written form where its labels can be read, nothing in
  it is denied, and the directions of its labels fit.
* `isPlain_of_mem_toAscii?`: a written form holds characters below 128 that an address may
  hold, and no capital letters.
* `toAscii?_of_basic`: the written form of a name below 128 is the name in small letters.
-/

namespace RequestGuard
namespace Name

open Text

section Punycode

/-- A digit to base 36. -/
def IsPunycodeDigit (c : Char) : Prop :=
  ∃ n < 36, c = Punycode.digit n

theorem isPunycodeDigit_of_mem_writeNumber {bias place n : Nat} {c : Char}
    (h : c ∈ Punycode.writeNumber bias place n) : IsPunycodeDigit c := by
  fun_induction Punycode.writeNumber bias place n with
  | case1 place n t hlt =>
      have hle := Punycode.threshold_le place bias
      exact ⟨n, by omega, List.mem_singleton.1 h⟩
  | case2 place n t hge ih =>
      rcases List.mem_cons.1 h with rfl | h
      · have hle := Punycode.threshold_le place bias
        have hmod : (n - t) % (36 - t) < 36 - t := Nat.mod_lt _ (by omega)
        exact ⟨_, by omega, rfl⟩
      · exact ih h

theorem Writer.visit_out {basics n : Nat} {w : Punycode.Writer} {d : Char}
    (hw : ∀ c ∈ w.out, IsPunycodeDigit c) : ∀ c ∈ (w.visit basics n d).out, IsPunycodeDigit c := by
  intro c hc
  rw [Punycode.Writer.visit] at hc
  split at hc
  · exact hw c hc
  · split at hc
    · rcases List.mem_append.1 hc with hc | hc
      · exact hw c hc
      · exact isPunycodeDigit_of_mem_writeNumber hc
    · exact hw c hc

theorem writeAll_out {label : List Char} {basics last : Nat} {points : List Nat}
    {w : Punycode.Writer} (hw : ∀ c ∈ w.out, IsPunycodeDigit c) :
    ∀ c ∈ (Punycode.writeAll label basics points last w).out, IsPunycodeDigit c := by
  induction points generalizing last w with
  | nil => exact hw
  | cons n rest ih =>
      refine ih ?_
      have hfold : ∀ (cs : List Char) (w : Punycode.Writer), (∀ c ∈ w.out, IsPunycodeDigit c) →
          ∀ c ∈ (cs.foldl (Punycode.Writer.visit basics n) w).out, IsPunycodeDigit c := by
        intro cs
        induction cs with
        | nil => exact fun w hw => hw
        | cons d more ihcs => exact fun w hw => ihcs _ (Writer.visit_out hw)
      exact hfold label _ hw

/-- An encoding holds the characters of the label below 128, hyphens and digits. -/
theorem mem_encode {label : List Char} {c : Char} (h : c ∈ Punycode.encode label) :
    (c ∈ label ∧ c.toNat < 128) ∨ c = '-' ∨ IsPunycodeDigit c := by
  rw [Punycode.encode] at h
  rcases List.mem_append.1 h with h | h
  · split at h
    · cases h
    · rcases List.mem_append.1 h with hc | hc
      · exact Or.inl (by simpa using hc)
      · exact Or.inr (Or.inl (List.mem_singleton.1 hc))
  · exact Or.inr (Or.inr (writeAll_out (List.forall_mem_nil _) c h))

end Punycode

section Labels

/-- What holds of the first characters holds of all below 128. -/
theorem of_isBasic {P : Char → Prop} (h : ∀ n < 128, P (Char.ofNat n)) {c : Char}
    (hc : isBasic c = true) : P c := by
  have hlt : c.toNat < 128 := by simpa [isBasic] using hc
  have hn := h c.toNat hlt
  rwa [Char.ofNat_toNat] at hn

/-- A character that the host name of an address may hold. -/
def IsPlain (c : Char) : Prop :=
  isBasic c = true ∧ isForbidden c = false ∧ lowerChar c = c

/-- A plain text has no capital letters. -/
theorem map_lowerChar_of_plain {cs : List Char} (hplain : ∀ c ∈ cs, IsPlain c) :
    cs.map lowerChar = cs :=
  (List.map_congr_left fun c hc => (hplain c hc).2.2).trans (List.map_id _)

theorem isPlain_of_isPunycodeDigit {c : Char} (h : IsPunycodeDigit c) : IsPlain c := by
  have hall : ∀ n < 36, isBasic (Punycode.digit n) = true ∧
      isForbidden (Punycode.digit n) = false ∧
      lowerChar (Punycode.digit n) = Punycode.digit n := by decide
  obtain ⟨n, hn, rfl⟩ := h
  exact hall n hn

theorem isPlain_hyphen : IsPlain '-' :=
  ⟨by decide, by decide, by decide⟩

theorem isPlain_of_mem_encodedMark {c : Char} (h : c ∈ encodedMark) : IsPlain c := by
  have hall : ∀ c ∈ encodedMark, isBasic c = true ∧ isForbidden c = false ∧
      lowerChar c = c := by decide
  exact hall c h

/-- How a label of a mapped name is read. -/
inductive Label.Read (label : List Char) : Label → Prop
  /-- An encoding is written as it is. -/
  | encoded (chars : List Char) (hmark : encodedMark <+: label)
      (hlength : label.length ≤ encodedMark.length + decodeLimit)
      (hbasic : ∀ c ∈ label, isBasic c = true) : Label.Read label ⟨label, chars⟩
  /-- So is a label without characters from 128 on. -/
  | basic (hmark : ¬ encodedMark <+: label) (hvalid : isValid label = true)
      (hbasic : label.all isBasic = true) : Label.Read label ⟨label, label⟩
  /-- Any other label is encoded. -/
  | coded (hmark : ¬ encodedMark <+: label) (hvalid : isValid label = true)
      (hneeds : label.all isBasic = false) :
      Label.Read label ⟨encodedMark ++ Punycode.encode label, label⟩

theorem Label.read_of_ofMapped? {label : List Char} {l : Label}
    (h : Label.ofMapped? label = some l) : Label.Read label l := by
  rw [Label.ofMapped?] at h
  split at h
  · next hmark =>
      extract_lets code at h
      split at h
      · cases h
      · next hcode =>
          obtain ⟨chars, -, h⟩ := Option.bind_eq_some_iff.1 h
          split at h
          · cases h
          · obtain rfl := Option.some.inj h
            obtain ⟨tail, rfl⟩ := List.isPrefixOf_iff_prefix.1 hmark
            simp only [code, List.drop_left, Bool.or_eq_true, not_or, decide_eq_true_eq,
              Nat.not_lt, Bool.not_eq_true', Bool.not_eq_false] at hcode
            refine .encoded chars (List.prefix_append _ _) ?_ fun c hc => ?_
            · rw [List.length_append]
              exact Nat.add_le_add_left hcode.1 _
            · rcases List.mem_append.1 hc with hc | hc
              · exact (isPlain_of_mem_encodedMark hc).1
              · exact List.all_eq_true.1 hcode.2 c hc
  · next hmark =>
    have hmark' : ¬ encodedMark <+: label := by rwa [List.isPrefixOf_iff_prefix] at hmark
    split at h
    · cases h
    · next hvalid =>
        have hvalid' : isValid label = true := by simpa using hvalid
        split at h
        · next hall =>
            obtain rfl := Option.some.inj h
            exact .basic hmark' hvalid' hall
        · next hneeds =>
            split at h
            · cases h
            · obtain rfl := Option.some.inj h
              exact .coded hmark' hvalid' (by simpa using hneeds)

/-- The written form of a label is plain if the label holds nothing below 128 that is
denied. -/
theorem Label.isPlain_written {label : List Char} {l : Label} (h : Label.Read label l)
    (hlabel : ∀ c ∈ label, isBasic c = true → isForbidden c = false ∧ lowerChar c = c) :
    ∀ c ∈ l.written, IsPlain c := by
  intro c hc
  cases h with
  | encoded _ _ _ hbasic => exact ⟨hbasic c hc, hlabel c hc (hbasic c hc)⟩
  | basic _ _ hbasic =>
      have hc' := List.all_eq_true.1 hbasic c hc
      exact ⟨hc', hlabel c hc hc'⟩
  | coded _ _ _ =>
      rcases List.mem_append.1 hc with hc | hc
      · exact isPlain_of_mem_encodedMark hc
      · rcases mem_encode hc with ⟨hmem, hlt⟩ | rfl | hdigit
        · have hbasic : isBasic c = true := by simpa [isBasic] using hlt
          exact ⟨hbasic, hlabel c hmem hbasic⟩
        · exact isPlain_hyphen
        · exact isPlain_of_isPunycodeDigit hdigit

theorem Label.written_of_basic {label : List Char} {l : Label} (h : Label.Read label l)
    (hbasic : label.all isBasic = true) : l.written = label := by
  cases h with
  | encoded _ _ _ _ => rfl
  | basic _ _ _ => rfl
  | coded _ _ hneeds =>
      rw [hbasic] at hneeds
      cases hneeds

end Labels

section Names

variable {denied : Char → Bool} {name : List Char}

/-- A name has a written form where its labels can be read, nothing in it is denied, and no
label is in the way of one from right to left.  The labels are written one after the other. -/
theorem asciiForm?_eq_some_iff {ascii : List Char} :
    asciiForm? denied name = some ascii ↔ ∃ whole ls, mapped? name = some whole ∧
      (∀ c ∈ whole, isBasic c = true → denied c = false ∧ lowerChar c = c) ∧
      (fields '.' whole).mapM Label.ofMapped? = some ls ∧
      (ls.any (holdsRightToLeft ·.chars) = true → ls.all (directionFits ·.chars) = true) ∧
      ascii = join '.' (ls.map Label.written) := by
  constructor
  · intro h
    rw [asciiForm?] at h
    obtain ⟨whole, hwhole, h⟩ := Option.bind_eq_some_iff.1 h
    split at h
    · cases h
    · next hdenied =>
        obtain ⟨ls, hls, h⟩ := Option.bind_eq_some_iff.1 h
        split at h
        · cases h
        · next hdirections =>
            refine ⟨whole, ls, hwhole, ?_, hls, ?_, (Option.some.inj h).symm⟩
            · simpa using hdenied
            · simpa using hdirections
  · rintro ⟨whole, ls, hwhole, hdenied, hls, hdirections, rfl⟩
    have hnone : (whole.any fun c => isBasic c && (denied c || lowerChar c != c)) = false := by
      simpa using hdenied
    have hfit : (ls.any (holdsRightToLeft ·.chars) && !ls.all (directionFits ·.chars)) =
        false := by
      simpa using hdirections
    rw [asciiForm?, hwhole]
    simp only [Option.bind_eq_bind, Option.bind_some, hnone, hls, hfit]
    rfl

theorem isPlain_of_mem_toAscii? {ascii : List Char} (h : toAscii? name = some ascii) :
    ∀ c ∈ ascii, IsPlain c := by
  obtain ⟨whole, ls, -, hdenied, hls, -, rfl⟩ := asciiForm?_eq_some_iff.1 h
  intro c hc
  rcases mem_join hc with rfl | ⟨written, hwritten, hc⟩
  · exact ⟨by decide, by decide, by decide⟩
  · obtain ⟨l, hl, rfl⟩ := List.mem_map.1 hwritten
    obtain ⟨label, hlabel, hread⟩ := mem_of_mapM hls hl
    exact Label.isPlain_written (Label.read_of_ofMapped? hread)
      (fun d hd => hdenied d (mem_of_mem_fields hlabel hd)) c hc

end Names

section Basic

variable {cs : List Char}

theorem isBasic_lowerChar {c : Char} (h : isBasic c = true) : isBasic (lowerChar c) = true := by
  have hlt : c.toNat < 128 := by simpa [isBasic] using h
  rw [isBasic, toNat_lowerChar]
  split <;> simp <;> omega

/-- A text whose characters are mapped one to one, to a text in normal form. -/
theorem mapped?_of_mapChar? {f : Char → Char} (h : ∀ c ∈ cs, mapChar? c = some [f c])
    (hform : Normal.form (cs.map f) = cs.map f) : mapped? cs = some (cs.map f) := by
  have hmap : cs.mapM mapChar? = some (cs.map fun c => [f c]) := mapM_eq_some_map h
  have hflat : (cs.map fun c => [f c]).flatten = cs.map f := by
    rw [← List.flatMap_def, ← List.map_eq_flatMap]
  rw [mapped?, hmap, Option.map_some, hflat, hform]

theorem mapped?_of_basic (h : ∀ c ∈ cs, isBasic c = true) :
    mapped? cs = some (cs.map lowerChar) := by
  refine mapped?_of_mapChar? (fun c hc => if_pos (by simpa [isBasic] using h c hc)) ?_
  refine if_pos (List.all_eq_true.2 fun c hc => ?_)
  obtain ⟨d, hd, rfl⟩ := List.mem_map.1 hc
  have hlt : (lowerChar d).toNat < 128 := by simpa [isBasic] using isBasic_lowerChar (h d hd)
  exact decide_eq_true (by omega)

theorem toAscii?_of_basic (h : ∀ c ∈ cs, isBasic c = true) {ascii : List Char}
    (hascii : toAscii? cs = some ascii) : ascii = cs.map lowerChar := by
  obtain ⟨whole, ls, hwhole, -, hls, -, rfl⟩ := asciiForm?_eq_some_iff.1 hascii
  rw [mapped?_of_basic h] at hwhole
  obtain rfl := Option.some.inj hwhole
  have hwritten : ls.map Label.written = fields '.' (cs.map lowerChar) := by
    refine map_of_mapM hls fun label l hlabel hread => ?_
    refine Label.written_of_basic (Label.read_of_ofMapped? hread) ?_
    refine List.all_eq_true.2 fun c hc => ?_
    obtain ⟨d, hd, rfl⟩ := List.mem_map.1 (mem_of_mem_fields hlabel hc)
    exact isBasic_lowerChar (h d hd)
  rw [hwritten, join_fields]

end Basic

end Name
end RequestGuard
