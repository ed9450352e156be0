import RequestGuard.Normal.Form
import RequestGuard.Proofs.Text.Tables

/-!
# Texts in normal form

A text is in normal form if its characters stay: none is decomposed, none is an accent, and none
is composed with the one behind it (`form_of_stays`).

* `stays_of_isIdeograph`: the characters of the block of common ideographs stay.
-/

namespace RequestGuard
namespace Normal

open Text

section Stays

/-- A character that the normal form leaves alone in front of any other. -/
structure Stays (c : Char) : Prop where
  decompose : decomposeChar c = [c]
  base : classOf c = 0
  pair : ∀ d, pair? c d = none

variable {cs : List Char}

theorem decompose_of_stays (h : ∀ c ∈ cs, Stays c) : decompose cs = cs := by
  induction cs with
  | nil => rfl
  | cons c more ih =>
      have hmore := ih fun d hd => h d (List.mem_cons_of_mem _ hd)
      rw [decompose] at hmore
      rw [decompose, List.flatMap_cons, (h c List.mem_cons_self).decompose, hmore,
        List.singleton_append]

/-- A run of base characters is taken over one by one. -/
theorem foldl_of_forall_step {α β : Type} {step : List α × List β → α → List α × List β}
    {xs : List α} (h : ∀ x ∈ xs, ∀ done, step (done, []) x = (x :: done, [])) (done : List α) :
    xs.foldl step (done, []) = (xs.reverse ++ done, []) := by
  induction xs generalizing done with
  | nil => rfl
  | cons x more ih =>
      rw [List.foldl_cons, h x List.mem_cons_self,
        ih fun y hy => h y (List.mem_cons_of_mem _ hy), List.reverse_cons, List.append_assoc,
        List.singleton_append]

theorem arrange_of_stays (h : ∀ c ∈ cs, Stays c) : arrange cs = cs := by
  rw [arrange, foldl_of_forall_step fun c hc done => by rw [(h c hc).base]; rfl]
  simp

/-- Every base character is done when the next one comes. -/
theorem foldl_push_of_stays (h : ∀ c ∈ cs, Stays c) {done : List Char} {base : Char}
    (hbase : Stays base) :
    (cs.foldl Partial.push ⟨done, some base, []⟩).flush = cs.reverse ++ base :: done := by
  induction cs generalizing done base with
  | nil => rfl
  | cons c more ih =>
      have hc := h c List.mem_cons_self
      have hpush : Partial.push ⟨done, some base, []⟩ c = ⟨base :: done, some c, []⟩ := by
        simp [Partial.push, hbase.pair c, hc.base, Partial.flush]
      rw [List.foldl_cons, hpush, ih (fun d hd => h d (List.mem_cons_of_mem _ hd)) hc,
        List.reverse_cons, List.append_assoc, List.singleton_append]

theorem compose_of_stays (h : ∀ c ∈ cs, Stays c) : compose cs = cs := by
  cases cs with
  | nil => rfl
  | cons c more =>
      have hc := h c List.mem_cons_self
      have hpush : Partial.push ⟨[], none, []⟩ c = ⟨[], some c, []⟩ := by
        simp [Partial.push, hc.base, Partial.flush]
      rw [compose, List.foldl_cons, hpush,
        foldl_push_of_stays (fun d hd => h d (List.mem_cons_of_mem _ hd)) hc]
      simp

/-- A text of characters that stay is in normal form. -/
theorem form_of_stays (h : ∀ c ∈ cs, Stays c) : form cs = cs := by
  rw [form, decompose_of_stays h, arrange_of_stays h, compose_of_stays h, ite_self]

end Stays

section Ideographs

/-- A character of the block of common ideographs. -/
structure IsIdeograph (c : Char) : Prop where
  low : 0x4E00 ≤ c.toNat
  high : c.toNat < 0xA000

/-- A code point outside of the block. -/
def isOutside (n : Nat) : Bool :=
  n < 0x4E00 || 0xA000 ≤ n

variable {c : Char}

theorem IsIdeograph.ne_of_isOutside (hc : IsIdeograph c) {n : Nat} (hn : isOutside n = true) :
    n ≠ c.toNat := by
  rintro rfl
  rw [isOutside, Bool.or_eq_true, decide_eq_true_eq, decide_eq_true_eq] at hn
  rcases hn with hlt | hle
  · exact absurd hc.low (Nat.not_le_of_lt hlt)
  · exact absurd hc.high (Nat.not_lt_of_le hle)

theorem IsIdeograph.ne (hc : IsIdeograph c) {d : Char} (hd : isOutside d.toNat = true) :
    c ≠ d := by
  rintro rfl
  exact hc.ne_of_isOutside hd rfl

theorem getElem?_foldl_insert {κ ν ω : Type} [BEq κ] [Hashable κ] [LawfulBEq κ]
    [LawfulHashable κ] {key : ω → κ} {value : ω → ν} {ws : List ω} {k : κ}
    (h : ∀ w ∈ ws, key w ≠ k) (m : Std.HashMap κ ν) :
    (ws.foldl (fun m w => m.insert (key w) (value w)) m)[k]? = m[k]? := by
  induction ws generalizing m with
  | nil => rfl
  | cons w more ih =>
      rw [List.foldl_cons, ih (fun w hw => h w (List.mem_cons_of_mem _ hw)),
        Std.HashMap.getElem?_insert, if_neg (by simpa using h w List.mem_cons_self)]

set_option maxRecDepth 1000000 in
theorem outside_decompositionsPart1 : (words Table.decompositionsPart1).all
    (fun w => isOutside (hexNumber (cutWord '=' w).1)) = true := by
  rw [Table.decompositionsPart1]
  with_reducible refine all_words_ofList ?_
  decide +kernel

set_option maxRecDepth 1000000 in
theorem outside_decompositionsPart2 : (words Table.decompositionsPart2).all
    (fun w => isOutside (hexNumber (cutWord '=' w).1)) = true := by
  rw [Table.decompositionsPart2]
  with_reducible refine all_words_ofList ?_
  decide +kernel

set_option maxRecDepth 1000000 in
theorem outside_compositions : (allWords Table.compositions).all
    (fun w => isOutside (hexNumber (cutWord '.' (cutWord '=' w).1).1)) = true := by
  rw [allWords, Table.compositions, List.flatMap_cons, List.flatMap_nil, List.append_nil]
  with_reducible refine all_words_ofList ?_
  decide +kernel

set_option maxRecDepth 1000000 in
theorem oneRow_classes : OneRow 0x4E00 0xA000 (· == 0) classes.rows.toList := by
  rw [classes, Table.classes]
  with_reducible refine Steps.oneRow_ofWords ?_
  decide +kernel

/-- Common ideographs stay. -/
theorem stays_of_isIdeograph (hc : IsIdeograph c) : Stays c := by
  have hlow := hc.low
  have hhigh := hc.high
  have hdecompositions : decompositions[c.toNat]? = none := by
    refine (getElem?_foldl_insert (fun w hw => hc.ne_of_isOutside ?_) ∅).trans
      Std.HashMap.getElem?_empty
    rw [allWords, Table.decompositions] at hw
    simp only [List.flatMap_cons, List.flatMap_nil, List.append_nil, List.mem_append] at hw
    rcases hw with hw | hw
    · exact List.all_eq_true.1 outside_decompositionsPart1 w hw
    · exact List.all_eq_true.1 outside_decompositionsPart2 w hw
  have hparts : syllableParts? c.toNat = none := by
    rw [syllableParts?, syllableBase, if_neg (by omega)]
  obtain ⟨k, hk, hzero⟩ := Steps.exists_find? oneRow_classes hlow hhigh
  refine ⟨?_, ?_, fun d => ?_⟩
  · rw [decomposeChar, hparts]
    simp [hdecompositions]
  · rw [classOf, hk, Option.getD_some, beq_iff_eq.1 hzero]
  · have hsyllable : syllable? c.toNat d.toNat = none := by
      rw [syllable?, syllableBase, if_neg (by omega), if_neg (by omega)]
    have hcompositions : compositions[(c.toNat, d.toNat)]? = none := by
      refine (getElem?_foldl_insert (fun w hw heq => ?_) ∅).trans Std.HashMap.getElem?_empty
      have houtside := List.all_eq_true.1 outside_compositions w hw
      exact hc.ne_of_isOutside houtside (Prod.mk.inj heq).1
    rw [pair?, hsyllable, hcompositions]
    rfl

end Ideographs

end Normal
end RequestGuard
