import RequestGuard.Host.Address
import RequestGuard.Url.Parser

/-!
# Written numbers, and pieces between separators

* `foldl_toDigits`: reading the digits of a number gives the number, for every base up to
  sixteen.
* `decimal_toDigits` and `group?_toDigits` are its cases for the readers of ports and of
  version 6 addresses.
* `fields_join`: pieces without the separator are found again between separators.
-/

namespace RequestGuard
namespace Text

section Lists

/-- What holds of the characters of a list is decided along the list, also where it could be
decided for all characters there are. -/
instance (priority := 2000) decidableForallMem {p : Char → Prop} [DecidablePred p]
    (l : List Char) : Decidable (∀ c ∈ l, p c) :=
  List.decidableBAll p l

end Lists

section Digits

theorem le_iff_toNat_le (c d : Char) : c ≤ d ↔ c.toNat ≤ d.toNat := by
  rw [Char.le_def, UInt32.le_iff_toNat_le]
  rfl

theorem isDigit_iff (c : Char) : isDigit c = true ↔ 48 ≤ c.toNat ∧ c.toNat ≤ 57 := by
  simp [isDigit, le_iff_toNat_le]

/-- The decimal digits in their order. -/
def digits : List Char :=
  "0123456789".toList

theorem mem_digits {d : Char} (h : isDigit d = true) : d ∈ digits := by
  have hrange := (isDigit_iff d).1 h
  have hall : ∀ n < 58, 48 ≤ n → Char.ofNat n ∈ digits := by decide
  have hmem := hall d.toNat (by omega) hrange.1
  rwa [Char.ofNat_toNat] at hmem

theorem hexValue?_digitChar {d : Nat} (h : d < 16) : hexValue? d.digitChar = some d := by
  have hall : ∀ d < 16, hexValue? (Nat.digitChar d) = some d := by decide
  exact hall d h

/-- The values of the digits of a number come to the number. -/
theorem foldl_toDigits {b : Nat} (hb : 1 < b) (hb16 : b ≤ 16) (n : Nat) :
    ∃ vs, (b.toDigits n).mapM hexValue? = some vs ∧ vs.foldl (fun n v => b * n + v) 0 = n := by
  induction n using Nat.strongRecOn with
  | ind n ih =>
      rw [Nat.toDigits_eq_if hb]
      split
      · next hlt => exact ⟨[n], by simp [hexValue?_digitChar (by omega : n < 16)], by simp⟩
      · next hge =>
          obtain ⟨vs, hvs, hfold⟩ := ih (n / b) (Nat.div_lt_self (by omega) hb)
          have hmod : n % b < b := Nat.mod_lt _ (by omega)
          refine ⟨vs ++ [n % b], ?_, ?_⟩
          · simp [hvs, hexValue?_digitChar (by omega : n % b < 16)]
          · rw [List.foldl_append, hfold]
            exact Nat.div_add_mod n b

theorem decimal_toDigits (n : Nat) : decimal (Nat.toDigits 10 n) = n :=
  Nat.ofDigitChars_ten_toDigits

theorem isDigit_of_mem_toDigits {n : Nat} {c : Char} (h : c ∈ Nat.toDigits 10 n) :
    isDigit c = true := by
  have hdigit := Nat.isDigit_of_mem_toDigits (by decide) (by decide) h
  simpa [Char.isDigit, isDigit, Char.le_def] using hdigit

theorem toNat_of_mem_toDigits {n : Nat} {c : Char} (h : c ∈ Nat.toDigits 16 n) :
    (48 ≤ c.toNat ∧ c.toNat ≤ 57) ∨ (97 ≤ c.toNat ∧ c.toNat ≤ 102) := by
  have hall : ∀ d < 16, (48 ≤ (Nat.digitChar d).toNat ∧ (Nat.digitChar d).toNat ≤ 57) ∨
      (97 ≤ (Nat.digitChar d).toNat ∧ (Nat.digitChar d).toNat ≤ 102) := by decide
  induction n using Nat.strongRecOn with
  | ind n ih =>
      rw [Nat.toDigits_eq_if (by decide)] at h
      split at h
      · next hlt => rw [List.mem_singleton.1 h]; exact hall n hlt
      · next hge =>
          rcases List.mem_append.1 h with h | h
          · exact ih (n / 16) (Nat.div_lt_self (by omega) (by decide)) h
          · rw [List.mem_singleton.1 h]
            exact hall _ (Nat.mod_lt _ (by decide))

end Digits

section Readings

variable {α β : Type} {f : α → Option β} {xs : List α} {ys : List β}

theorem mapM_eq_some_map {g : α → β} (h : ∀ x ∈ xs, f x = some (g x)) :
    xs.mapM f = some (xs.map g) := by
  induction xs with
  | nil => rfl
  | cons x more ih =>
      rw [List.mapM_cons, h x List.mem_cons_self,
        ih fun y hy => h y (List.mem_cons_of_mem _ hy)]
      rfl

/-- What was written piece by piece is read piece by piece. -/
theorem mapM_map_eq_some {write : β → α} (h : ∀ y ∈ ys, f (write y) = some y) :
    (ys.map write).mapM f = some ys := by
  rw [List.mapM_map]
  exact (mapM_eq_some_map h).trans (congrArg some (List.map_id ys))

theorem length_of_mapM (h : xs.mapM f = some ys) : ys.length = xs.length := by
  induction xs generalizing ys with
  | nil =>
      obtain rfl : [] = ys := by simpa using h
      rfl
  | cons x more ih =>
      simp only [List.mapM_cons, bind, Option.bind_eq_some_iff, pure, Option.some.injEq] at h
      obtain ⟨y, -, ys', hmore, rfl⟩ := h
      rw [List.length_cons, ih hmore, List.length_cons]

theorem exists_of_mapM (h : xs.mapM f = some ys) {x : α} (hx : x ∈ xs) : ∃ y, f x = some y := by
  induction xs generalizing ys with
  | nil => cases hx
  | cons first more ih =>
      rw [List.mapM_cons] at h
      obtain ⟨y, hy, h⟩ := Option.bind_eq_some_iff.1 h
      obtain ⟨rest, hrest, -⟩ := Option.bind_eq_some_iff.1 h
      rcases List.mem_cons.1 hx with rfl | hx
      · exact ⟨y, hy⟩
      · exact ih hrest hx

theorem mem_of_mapM (h : xs.mapM f = some ys) {y : β} (hy : y ∈ ys) : ∃ x ∈ xs, f x = some y := by
  induction xs generalizing ys with
  | nil =>
      obtain rfl : [] = ys := by simpa using h
      cases hy
  | cons x more ih =>
      simp only [List.mapM_cons, bind, Option.bind_eq_some_iff, pure, Option.some.injEq] at h
      obtain ⟨z, hz, zs, hmore, rfl⟩ := h
      rcases List.mem_cons.1 hy with rfl | hy
      · exact ⟨x, List.mem_cons_self, hz⟩
      · obtain ⟨x', hx', hfx⟩ := ih hmore hy
        exact ⟨x', List.mem_cons_of_mem _ hx', hfx⟩

theorem map_of_mapM (h : xs.mapM f = some ys) {g : β → α}
    (hg : ∀ x y, x ∈ xs → f x = some y → g y = x) : ys.map g = xs := by
  induction xs generalizing ys with
  | nil =>
      obtain rfl : [] = ys := by simpa using h
      rfl
  | cons x more ih =>
      simp only [List.mapM_cons, bind, Option.bind_eq_some_iff, pure, Option.some.injEq] at h
      obtain ⟨y, hy, ys', hmore, rfl⟩ := h
      rw [List.map_cons, hg x y List.mem_cons_self hy,
        ih hmore fun x' y' hx' => hg x' y' (List.mem_cons_of_mem _ hx')]

end Readings

section Fields

variable {sep : Char}

theorem mem_of_mem_fields {cs piece : List Char} {c : Char} (h : piece ∈ fields sep cs)
    (hc : c ∈ piece) : c ∈ cs := by
  induction cs generalizing piece with
  | nil =>
      rw [fields, List.mem_singleton] at h
      exact h ▸ hc
  | cons d rest ih =>
      rw [fields] at h
      split at h
      · rcases List.mem_cons.1 h with rfl | h
        · cases hc
        · exact List.mem_cons_of_mem _ (ih h hc)
      · split at h
        · obtain rfl := List.mem_singleton.1 h
          exact List.mem_singleton.1 hc ▸ List.mem_cons_self
        · next first more hfields =>
            rcases List.mem_cons.1 h with rfl | h
            · rcases List.mem_cons.1 hc with rfl | hc
              · exact List.mem_cons_self
              · exact List.mem_cons_of_mem _ (ih (hfields ▸ List.mem_cons_self) hc)
            · exact List.mem_cons_of_mem _ (ih (hfields ▸ List.mem_cons_of_mem _ h) hc)

/-- No piece has the separator in it. -/
theorem not_mem_of_mem_fields {cs piece : List Char} (h : piece ∈ fields sep cs) :
    sep ∉ piece := by
  induction cs generalizing piece with
  | nil =>
      rw [fields, List.mem_singleton] at h
      exact h ▸ List.not_mem_nil
  | cons d rest ih =>
      rw [fields] at h
      split at h
      · rcases List.mem_cons.1 h with rfl | h
        · exact List.not_mem_nil
        · exact ih h
      · next hd =>
          split at h
          · obtain rfl := List.mem_singleton.1 h
            exact fun hsep => hd (List.mem_singleton.1 hsep).symm
          · next first more hfields =>
              rcases List.mem_cons.1 h with rfl | h
              · intro hsep
                rcases List.mem_cons.1 hsep with rfl | hsep
                · exact hd rfl
                · exact ih (hfields ▸ List.mem_cons_self) hsep
              · exact ih (hfields ▸ List.mem_cons_of_mem _ h)

theorem fields_of_not_mem {cs : List Char} (h : sep ∉ cs) : fields sep cs = [cs] := by
  induction cs with
  | nil => rfl
  | cons c rest ih =>
      obtain ⟨hc, hrest⟩ : sep ≠ c ∧ sep ∉ rest := by simpa using h
      rw [fields, if_neg hc.symm, ih hrest]

/-- A text is cut into the pieces in front of a separator and those behind it. -/
theorem fields_append_fields (cs rest : List Char) :
    fields sep (cs ++ sep :: rest) = fields sep cs ++ fields sep rest := by
  induction cs with
  | nil => simp [fields]
  | cons c more ih =>
      rw [List.cons_append, fields, fields, ih]
      split
      · rfl
      · cases hmore : fields sep more with
        | nil => exact absurd hmore (fields_ne_nil sep more)
        | cons piece others => rfl

theorem fields_append {cs : List Char} (h : sep ∉ cs) (rest : List Char) :
    fields sep (cs ++ sep :: rest) = cs :: fields sep rest := by
  rw [fields_append_fields, fields_of_not_mem h, List.singleton_append]

/-- Behind the last separator stands the last piece. -/
theorem fields_append_of_not_mem {last : List Char} (h : sep ∉ last) (cs : List Char) :
    fields sep (cs ++ sep :: last) = fields sep cs ++ [last] := by
  rw [fields_append_fields, fields_of_not_mem h]

/-- A separator at the end leaves an empty piece behind it. -/
theorem fields_concat (cs : List Char) : fields sep (cs ++ [sep]) = fields sep cs ++ [[]] :=
  fields_append_of_not_mem List.not_mem_nil cs

/-- Pieces without the separator are found again. -/
theorem fields_join {pieces : List (List Char)} (hne : pieces ≠ [])
    (h : ∀ piece ∈ pieces, sep ∉ piece) : fields sep (join sep pieces) = pieces := by
  induction pieces with
  | nil => exact absurd rfl hne
  | cons piece more ih =>
      have hpiece : sep ∉ piece := h piece List.mem_cons_self
      cases more with
      | nil => exact fields_of_not_mem hpiece
      | cons next rest =>
          rw [join, fields_append hpiece, ih (by simp) fun p hp => h p (List.mem_cons_of_mem _ hp)]
          simp

/-- Pieces in two parts are joined part by part. -/
theorem join_append {xs ys : List (List Char)} (hxs : xs ≠ []) (hys : ys ≠ []) :
    join sep (xs ++ ys) = join sep xs ++ sep :: join sep ys := by
  induction xs with
  | nil => exact absurd rfl hxs
  | cons x more ih =>
      cases more with
      | nil =>
          obtain ⟨y, rest, rfl⟩ := List.exists_cons_of_ne_nil hys
          rfl
      | cons next rest =>
          have hmore := ih (List.cons_ne_nil next rest)
          simp only [List.cons_append] at hmore
          simp only [List.cons_append, join, hmore, List.append_assoc]

theorem mem_join {pieces : List (List Char)} {c : Char} (h : c ∈ join sep pieces) :
    c = sep ∨ ∃ piece ∈ pieces, c ∈ piece := by
  induction pieces with
  | nil => cases h
  | cons piece more ih =>
      cases more with
      | nil => exact Or.inr ⟨piece, List.mem_cons_self, h⟩
      | cons next rest =>
          rw [join, List.mem_append, List.mem_cons] at h
          · rcases h with h | rfl | h
            · exact Or.inr ⟨piece, List.mem_cons_self, h⟩
            · exact Or.inl rfl
            · rcases ih h with hsep | ⟨p, hp, hc⟩
              · exact Or.inl hsep
              · exact Or.inr ⟨p, List.mem_cons_of_mem _ hp, hc⟩
          · simp

theorem toList_intercalate (texts : List String) :
    (":".intercalate texts).toList = join ':' (texts.map String.toList) := by
  induction texts with
  | nil => rfl
  | cons text more ih =>
      cases more with
      | nil => simp [join]
      | cons next rest =>
          have hjoin : join ':' ((text :: next :: rest).map String.toList) =
              text.toList ++ ':' :: join ':' ((next :: rest).map String.toList) := by
            simp [join]
          rw [hjoin, ← ih, String.intercalate_cons_cons, String.toList_append,
            String.toList_append, List.append_assoc]
          rfl

end Fields

end Text

namespace Host

open Text

theorem group?_toDigits {n : Nat} (h : n < 65536) : group? (Nat.toDigits 16 n) = some n := by
  obtain ⟨vs, hvs, hfold⟩ := foldl_toDigits (b := 16) (by decide) (by decide) n
  have hlength : (Nat.toDigits 16 n).length ≤ 4 :=
    (Nat.length_toDigits_le_iff (by decide) (by decide)).2 h
  have hshort : ¬((Nat.toDigits 16 n).isEmpty || 4 < (Nat.toDigits 16 n).length) = true := by
    simpa [Nat.toDigits_ne_nil] using hlength
  rw [group?, if_neg hshort, hvs, Option.map_some, hfold]

end Host
end RequestGuard
