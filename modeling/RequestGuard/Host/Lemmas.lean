import RequestGuard.Host.Basic
import RequestGuard.Text.Lemmas

/-!
# Laws of host names

* `isWithin_iff`: what lies below a name, said of the characters.
* `mem_chainChars_iff`: the names above a name are what follows its dots.
* `pairwise_chainChars`: they come in order, each an end of those before it.
* `getLast?_normalize`: a normal form does not end in a dot.
* `toList_normalize`: the normal form of a text without blanks.
-/

namespace RequestGuard
namespace Host

section Order

/-- A host lies within a domain if it is the domain or ends in a dot and the domain. -/
theorem isWithin_iff (host domain : String) :
    isWithin host domain = true ↔
      domain ≠ "" ∧ (host = domain ∨ ('.' :: domain.toList) <:+ host.toList) := by
  simp [isWithin, List.isSuffixOf_iff_suffix]

/-- A name that is not empty lies within itself. -/
theorem isWithin_self {host : String} (h : host ≠ "") : isWithin host host = true :=
  (isWithin_iff host host).2 ⟨h, Or.inl rfl⟩

/-- What lies within a name within another lies within the other. -/
theorem isWithin_trans {a b c : String} (hab : isWithin a b = true)
    (hbc : isWithin b c = true) : isWithin a c = true := by
  obtain ⟨-, hab⟩ := (isWithin_iff a b).1 hab
  obtain ⟨hc, hbc⟩ := (isWithin_iff b c).1 hbc
  refine (isWithin_iff a c).2 ⟨hc, ?_⟩
  rcases hab with rfl | hab
  · exact hbc
  · rcases hbc with rfl | hbc
    · exact Or.inr hab
    · exact Or.inr (hbc.trans ((List.suffix_cons '.' b.toList).trans hab))

end Order

section Chain

/-- The name above a name is what follows its first dot. -/
theorem parentChars?_eq_some_iff (cs ps : List Char) :
    parentChars? cs = some ps ↔ ps ≠ [] ∧ ∃ before, '.' ∉ before ∧ cs = before ++ '.' :: ps := by
  induction cs with
  | nil => simp [parentChars?]
  | cons c rest ih =>
    by_cases hc : c = '.'
    · subst hc
      constructor
      · intro h
        have h' : rest ≠ [] ∧ rest = ps := by simpa [parentChars?] using h
        refine ⟨h'.2 ▸ h'.1, [], by simp, by simp [h'.2]⟩
      · rintro ⟨hps, before, hno, heq⟩
        cases before with
        | nil =>
          have : rest = ps := by simpa using heq
          simp [parentChars?, this, hps]
        | cons b more =>
          obtain ⟨rfl, -⟩ : '.' = b ∧ rest = more ++ '.' :: ps := by simpa using heq
          simp at hno
    · rw [parentChars?, if_neg hc, ih]
      constructor
      · rintro ⟨hps, before, hno, rfl⟩
        exact ⟨hps, c :: before, by simpa [Ne.symm hc] using hno, rfl⟩
      · rintro ⟨hps, before, hno, heq⟩
        cases before with
        | nil => exact absurd (List.cons.inj heq).1 hc
        | cons b more =>
          obtain ⟨-, hrest⟩ := List.cons.inj heq
          exact ⟨hps, more, fun h => hno (List.mem_cons_of_mem b h), hrest⟩

/-- A suffix that starts with a dot starts after what stands before the first dot. -/
theorem dotted_suffix_of_append {d before rest : List Char} (hno : '.' ∉ before)
    (h : ('.' :: d) <:+ before ++ rest) : ('.' :: d) <:+ rest := by
  induction before with
  | nil => exact h
  | cons b before ih =>
    have hb : '.' ≠ b := fun e => hno (e ▸ List.mem_cons_self)
    have hmore : '.' ∉ before := fun e => hno (List.mem_cons_of_mem b e)
    rcases List.suffix_cons_iff.1 h with heq | hs
    · exact absurd (List.cons.inj heq).1 hb
    · exact ih hmore hs

/-- Where something follows a dot there is a name above. -/
theorem parentChars?_ne_none {cs d : List Char} (hd : d ≠ []) (h : ('.' :: d) <:+ cs) :
    parentChars? cs ≠ none := by
  induction cs with
  | nil => exact absurd (List.eq_nil_of_suffix_nil h) (by simp)
  | cons c rest ih =>
    by_cases hc : c = '.'
    · have hrest : rest ≠ [] := by
        rintro rfl
        rcases List.suffix_cons_iff.1 h with heq | hs
        · exact hd (List.cons.inj heq).2
        · exact absurd (List.eq_nil_of_suffix_nil hs) (by simp)
      simp [parentChars?, hc, hrest]
    · rw [parentChars?, if_neg hc]
      rcases List.suffix_cons_iff.1 h with heq | hs
      · exact absurd (List.cons.inj heq).1.symm hc
      · exact ih hs

/-- The name above a name stands behind a dot. -/
theorem dotted_suffix_of_parentChars? {cs ps : List Char} (h : parentChars? cs = some ps) :
    ('.' :: ps) <:+ cs := by
  obtain ⟨-, before, -, heq⟩ := (parentChars?_eq_some_iff cs ps).1 h
  exact ⟨before, heq.symm⟩

/-- What stands behind a dot of what stands behind a dot does so itself. -/
theorem dotted_suffix_trans {a b c : List Char} (hab : ('.' :: b) <:+ a)
    (hbc : ('.' :: c) <:+ b) : ('.' :: c) <:+ a :=
  (hbc.trans (List.suffix_cons '.' b)).trans hab

/-- The members of a chain are the name itself and what follows its dots. -/
theorem mem_chainChars_iff (cs d : List Char) :
    d ∈ chainChars cs ↔ d = cs ∨ (d ≠ [] ∧ ('.' :: d) <:+ cs) := by
  fun_induction chainChars cs with
  | case1 cs hnone =>
    constructor
    · intro h
      exact Or.inl (List.mem_singleton.1 h)
    · rintro (rfl | ⟨hd, hs⟩)
      · exact List.mem_singleton.2 rfl
      · exact absurd hnone (parentChars?_ne_none hd hs)
  | case2 cs ps hsome ih =>
    obtain ⟨hps, before, hno, heq⟩ := (parentChars?_eq_some_iff cs ps).1 hsome
    constructor
    · intro h
      rcases List.mem_cons.1 h with rfl | h
      · exact Or.inl rfl
      · right
        rcases ih.1 h with rfl | ⟨hd, hs⟩
        · exact ⟨hps, before, heq.symm⟩
        · exact ⟨hd, dotted_suffix_trans (dotted_suffix_of_parentChars? hsome) hs⟩
    · rintro (rfl | ⟨hd, hs⟩)
      · exact List.mem_cons_self
      · refine List.mem_cons_of_mem cs (ih.2 ?_)
        rw [heq] at hs
        rcases List.suffix_cons_iff.1 (dotted_suffix_of_append hno hs) with h | h
        · exact Or.inl (List.cons.inj h).2
        · exact Or.inr ⟨hd, h⟩

/-- In a chain every name stands behind a dot of those before it. -/
theorem pairwise_chainChars (cs : List Char) :
    (chainChars cs).Pairwise fun a b => ('.' :: b) <:+ a := by
  fun_induction chainChars cs with
  | case1 cs hnone => exact List.pairwise_singleton _ cs
  | case2 cs ps hsome ih =>
    have hps := dotted_suffix_of_parentChars? hsome
    refine List.pairwise_cons.2 ⟨fun d hd => ?_, ih⟩
    rcases (mem_chainChars_iff ps d).1 hd with rfl | ⟨-, hs⟩
    · exact hps
    · exact dotted_suffix_trans hps hs

/-- A chain starts with the name itself. -/
theorem chainChars_eq_cons (cs : List Char) : chainChars cs = cs :: (chainChars cs).drop 1 := by
  rw [chainChars]
  split <;> rfl

theorem length_lt_of_dotted_suffix {a b : List Char} (h : ('.' :: b) <:+ a) :
    b.length < a.length :=
  h.length_le

/-- The names above a name are what follows its dots. -/
theorem mem_drop_chainChars_iff (cs d : List Char) :
    d ∈ (chainChars cs).drop 1 ↔ d ≠ [] ∧ ('.' :: d) <:+ cs := by
  have hmem := mem_chainChars_iff cs d
  have hpairwise := pairwise_chainChars cs
  rw [chainChars_eq_cons, List.mem_cons] at hmem
  rw [chainChars_eq_cons, List.pairwise_cons] at hpairwise
  constructor
  · intro hd
    have hs := hpairwise.1 d hd
    rcases hmem.1 (Or.inr hd) with rfl | hboth
    · exact absurd (length_lt_of_dotted_suffix hs) (Nat.lt_irrefl _)
    · exact hboth
  · rintro ⟨hne, hs⟩
    rcases hmem.2 (Or.inr ⟨hne, hs⟩) with rfl | hd
    · exact absurd (length_lt_of_dotted_suffix hs) (Nat.lt_irrefl _)
    · exact hd

end Chain

section Normal

/-- A normal form does not end in a dot. -/
theorem getLast?_normalize (host : String) : (normalize host).toList.getLast? ≠ some '.' := by
  intro h
  rw [normalize, String.toList_ofList, List.getLast?_map] at h
  obtain ⟨c, hc, hdot⟩ := Option.map_eq_some_iff.1 h
  have := Text.getLast?_dropTrailing _ _ c hc
  rw [Text.lowerChar_eq_iff_of_lt (by decide)] at hdot
  simp [hdot] at this

/-- The normal form of a text without blanks: the final dots are gone, and letters are small. -/
theorem toList_normalize {h : String} (hblank : ∀ c ∈ h.toList, Text.isBlank c = false) :
    (normalize h).toList = (Text.dropTrailing (· == '.') h.toList).map Text.lowerChar := by
  rw [normalize, String.toList_ofList, Text.trimChars_eq_self hblank]

/-- Small letters do not change the normal form. -/
theorem normalize_map_lowerChar {h : String} (hblank : ∀ c ∈ h.toList, Text.isBlank c = false) :
    normalize (String.ofList (h.toList.map Text.lowerChar)) = normalize h := by
  have hblank' : ∀ c ∈ (String.ofList (h.toList.map Text.lowerChar)).toList,
      Text.isBlank c = false := by
    intro c hc
    rw [String.toList_ofList] at hc
    obtain ⟨d, hd, rfl⟩ := List.mem_map.1 hc
    rw [Text.isBlank_lowerChar, hblank d hd]
  rw [← String.toList_inj, toList_normalize hblank', toList_normalize hblank, String.toList_ofList,
    Text.dropTrailing_map_lowerChar, List.map_map]
  exact List.map_congr_left fun c _ => Text.lowerChar_lowerChar c

end Normal

end Host
end RequestGuard
