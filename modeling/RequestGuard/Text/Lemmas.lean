import RequestGuard.Text.Basic

/-!
# Laws of texts

* `holds_iff`: a text is found where it stands as a whole.
* `eq_of_cutAt?`: a cut divides the text around what was looked for.
* `dropTrailing_append`: of a text only a final run is dropped.
* `takeWhile_append_of_head?`: a run ends where what follows does not go on with it.
* `trimChars_of_ends`: a text without a blank at its two ends is not trimmed.
-/

namespace RequestGuard
namespace Text

section Case

/-- The number of the small letter of a capital letter. -/
theorem toNat_lowerChar (c : Char) :
    (lowerChar c).toNat = if 65 ≤ c.toNat ∧ c.toNat ≤ 90 then c.toNat + 32 else c.toNat := by
  have h : ('A' ≤ c ∧ c ≤ 'Z') ↔ (65 ≤ c.toNat ∧ c.toNat ≤ 90) := by
    rw [Char.le_def, Char.le_def, UInt32.le_iff_toNat_le, UInt32.le_iff_toNat_le]
    rfl
  rw [lowerChar, apply_ite Char.toNat]
  by_cases hc : 65 ≤ c.toNat ∧ c.toNat ≤ 90
  · have hv : (c.toNat + 32).isValidChar := Or.inl (by omega)
    rw [if_pos (h.2 hc), if_pos hc, Char.ofNat, dif_pos hv]
    rfl
  · rw [if_neg (fun e => hc (h.1 e)), if_neg hc]

/-- A sign below the letters is the small form of itself only. -/
theorem lowerChar_eq_iff_of_lt {c d : Char} (hd : d.toNat < 65) :
    lowerChar c = d ↔ c = d := by
  rw [← Char.toNat_inj, ← Char.toNat_inj, toNat_lowerChar]
  split <;> omega

/-- Small letters stay as they are. -/
theorem lowerChar_lowerChar (c : Char) : lowerChar (lowerChar c) = lowerChar c := by
  rw [← Char.toNat_inj, toNat_lowerChar (lowerChar c), toNat_lowerChar c]
  by_cases h : 65 ≤ c.toNat ∧ c.toNat ≤ 90
  · rw [if_pos h, if_neg (by omega)]
  · rw [if_neg h, if_neg h]

end Case

section Search

/-- A text is found exactly where it stands as a whole. -/
theorem holds_iff (needle cs : List Char) : holds needle cs = true ↔ needle <:+: cs := by
  induction cs with
  | nil =>
    constructor
    · intro h
      have : needle = [] := by simpa [holds] using h
      exact this ▸ List.infix_refl []
    · intro h
      have : needle = [] := List.eq_nil_of_infix_nil h
      simp [holds, this]
  | cons c rest ih =>
    rw [holds, Bool.or_eq_true, List.isPrefixOf_iff_prefix, ih]
    exact List.infix_cons_iff.symm

/-- A cut leaves nothing out. -/
theorem eq_of_cutAt? {needle cs before after : List Char}
    (h : cutAt? needle cs = some (before, after)) : cs = before ++ needle ++ after := by
  induction cs generalizing before with
  | nil =>
    rw [cutAt?] at h
    split at h
    · next hn =>
      obtain ⟨rfl, rfl⟩ : [] = before ∧ [] = after := by simpa using h
      simpa using hn
    · cases h
  | cons c rest ih =>
    rw [cutAt?] at h
    split at h
    · next hp =>
      obtain ⟨tail, ht⟩ := List.isPrefixOf_iff_prefix.1 hp
      obtain ⟨rfl, rfl⟩ : [] = before ∧ (c :: rest).drop needle.length = after := by
        simpa using h
      simp [← ht]
    · obtain ⟨⟨b, a⟩, hcut, heq⟩ := Option.map_eq_some_iff.1 h
      obtain ⟨rfl, rfl⟩ : c :: b = before ∧ a = after := by simpa using heq
      simpa using ih hcut

end Search

section Ends

variable {α : Type}

/-- What is dropped at the end has the property. -/
theorem dropTrailing_append (p : α → Bool) (xs : List α) :
    ∃ tail, dropTrailing p xs ++ tail = xs ∧ ∀ x ∈ tail, p x = true := by
  refine ⟨(xs.reverse.takeWhile p).reverse, ?_, ?_⟩
  · rw [dropTrailing, ← List.reverse_append, List.takeWhile_append_dropWhile,
      List.reverse_reverse]
  · intro x hx
    exact List.all_eq_true.1 List.all_takeWhile x (List.mem_reverse.1 hx)

/-- Nothing is dropped of what stands before the run and does not have the property. -/
theorem dropTrailing_append_of_forall {p : α → Bool} {xs : List α} (h : ∀ x ∈ xs, p x = false)
    (ys : List α) : dropTrailing p (xs ++ ys) = xs ++ dropTrailing p ys := by
  have hkept : xs.reverse.dropWhile p = xs.reverse := by
    cases hr : xs.reverse with
    | nil => rfl
    | cons x more =>
      have hx : x ∈ xs := List.mem_reverse.1 (hr ▸ List.mem_cons_self)
      rw [List.dropWhile_cons_of_neg (by simp [h x hx])]
  rw [dropTrailing, dropTrailing, List.reverse_append, List.dropWhile_append, hkept]
  split
  · next hall =>
    rw [List.isEmpty_iff.1 hall, List.reverse_reverse, List.reverse_nil, List.append_nil]
  · rw [List.reverse_append, List.reverse_reverse]

/-- What is left does not end in something with the property. -/
theorem getLast?_dropTrailing (p : α → Bool) (xs : List α) (x : α)
    (h : (dropTrailing p xs).getLast? = some x) : p x = false := by
  rw [dropTrailing, List.getLast?_reverse] at h
  have := List.head?_dropWhile_not p xs.reverse
  rw [h] at this
  simpa using this

/-- What is left starts as the text does. -/
theorem head?_of_head?_dropTrailing {p : α → Bool} {xs : List α} {x : α}
    (h : (dropTrailing p xs).head? = some x) : xs.head? = some x := by
  obtain ⟨tail, htail, -⟩ := dropTrailing_append p xs
  rw [← htail, List.head?_append, h, Option.some_or]

/-- A text without such an end stays as it is. -/
theorem dropTrailing_of_getLast? {p : α → Bool} {xs : List α}
    (h : ∀ x, xs.getLast? = some x → p x = false) : dropTrailing p xs = xs := by
  rw [dropTrailing]
  cases hr : xs.reverse with
  | nil => simpa using (List.reverse_eq_nil_iff.1 hr).symm
  | cons y ys =>
    have hy : p y = false := by
      apply h
      rw [← List.head?_reverse, hr]
      rfl
    rw [List.dropWhile_cons_of_neg (by simp [hy]), ← hr, List.reverse_reverse]

/-- A run ends where what follows does not go on with it. -/
theorem takeWhile_append_of_head? {p : α → Bool} {xs rest : List α}
    (hxs : ∀ x ∈ xs, p x = true) (hrest : ∀ x ∈ rest.head?, p x = false) :
    (xs ++ rest).takeWhile p = xs := by
  rw [List.takeWhile_append_of_pos hxs]
  cases rest with
  | nil => exact List.append_nil xs
  | cons x more => rw [List.takeWhile_cons_of_neg (by simp [hrest x rfl]), List.append_nil]

/-- Small letters do not change which dots stand at the end. -/
theorem dropTrailing_map_lowerChar (cs : List Char) :
    dropTrailing (· == '.') (cs.map lowerChar) = (dropTrailing (· == '.') cs).map lowerChar := by
  have hdot : ((· == '.') ∘ lowerChar) = fun c : Char => c == '.' := by
    funext c
    rw [Bool.eq_iff_iff]
    simp [lowerChar_eq_iff_of_lt (d := '.') (by decide)]
  rw [dropTrailing, dropTrailing, ← List.map_reverse, List.dropWhile_map, hdot, List.map_reverse]

end Ends

section Blanks

/-- The case of letters does not make a blank. -/
theorem isBlank_lowerChar (c : Char) : isBlank (lowerChar c) = isBlank c := by
  have hlower := toNat_lowerChar c
  split at hlower
  · rw [Bool.eq_iff_iff, isBlank, isBlank, hlower]
    simp
    omega
  · rw [Char.toNat_inj.1 hlower]

/-- A blank is no letter. -/
theorem lowerChar_of_isBlank {c : Char} (h : isBlank c = true) : lowerChar c = c := by
  rw [← Char.toNat_inj, toNat_lowerChar, if_neg]
  intro hcapital
  simp only [isBlank, Bool.or_eq_true, Bool.and_eq_true, decide_eq_true_eq, beq_iff_eq] at h
  omega

/-- Trimming only takes away. -/
theorem trimChars_sublist (cs : List Char) : (trimChars cs).Sublist cs := by
  obtain ⟨tail, htail, -⟩ := dropTrailing_append isBlank (cs.dropWhile isBlank)
  have hfront := (List.prefix_append (trimChars cs) tail).sublist
  rw [trimChars, htail] at hfront
  exact hfront.trans (List.dropWhile_sublist isBlank)

/-- What is left does not start with a blank. -/
theorem head?_trimChars {cs : List Char} {c : Char} (h : (trimChars cs).head? = some c) :
    isBlank c = false := by
  have hfront := head?_of_head?_dropTrailing h
  have := List.head?_dropWhile_not isBlank cs
  rw [hfront] at this
  simpa using this

/-- What is left does not end in a blank. -/
theorem getLast?_trimChars {cs : List Char} {c : Char} (h : (trimChars cs).getLast? = some c) :
    isBlank c = false :=
  getLast?_dropTrailing isBlank _ c h

/-- A text without a blank at its two ends is not trimmed. -/
theorem trimChars_of_ends {cs : List Char} (hhead : ∀ c, cs.head? = some c → isBlank c = false)
    (hlast : ∀ c, cs.getLast? = some c → isBlank c = false) : trimChars cs = cs := by
  have hfront : cs.dropWhile isBlank = cs := by
    cases cs with
    | nil => rfl
    | cons c more => rw [List.dropWhile_cons_of_neg (by simp [hhead c rfl])]
  rw [trimChars, hfront]
  exact dropTrailing_of_getLast? hlast

/-- A text without blanks is not trimmed. -/
theorem trimChars_eq_self {cs : List Char} (h : ∀ c ∈ cs, isBlank c = false) :
    trimChars cs = cs :=
  trimChars_of_ends (fun c hc => h c (List.mem_of_head? hc))
    fun c hc => h c (List.mem_of_getLast? hc)

end Blanks

end Text
end RequestGuard
