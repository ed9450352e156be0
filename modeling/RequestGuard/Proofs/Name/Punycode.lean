import RequestGuard.Proofs.Name.Ascii

/-!
# Encoded labels are read again

The decoder takes the steps of the encoder, number by number.

* `foldlM_writeNumber`: the digits of a number lead the counter on by that number.
* `Tracks` is what holds between a writer and the reader that has read what it wrote: the steps
  that are not yet written lead from the place of the reader to the place of the writer.
  `Tracks.visit_eq` is the only step at which something is written.
* `exists_tracks_writeAll` follows a writer over all characters of a label.
* `decode?_encode`: the encoding of a label is read as that label.
* `le_length_encode`: where the characters of a label lie apart, nearly every one of them takes
  three digits.
-/

namespace RequestGuard
namespace Name
namespace Punycode

section Numbers

variable {r : Reader} {c : Char} {d : Nat}

theorem value?_digit {n : Nat} (h : n < 36) : value? (digit n) = some n := by
  have hall : ∀ n < 36, value? (digit n) = some n := by decide
  exact hall n h

/-- The reader after a number that leads its counter to `index`: there is a character more. -/
def Reader.insert? (r : Reader) (index : Nat) : Option Reader :=
  let count := r.label.length + 1
  let point := r.point + index / count
  if isScalar point then
    some
      { point := point
        index := index % count + 1
        start := index % count + 1
        weight := 1
        place := 36
        bias := adapt (index - r.start) count (r.start == 0)
        label := r.label.take (index % count) ++ Char.ofNat point ::
          r.label.drop (index % count) }
  else none

/-- The last digit of a number inserts a character. -/
theorem push_last (hvalue : value? c = some d) (hlt : d < threshold r.place r.bias) :
    r.push c = r.insert? (r.index + d * r.weight) := by
  rw [Reader.push, hvalue]
  simp only [Option.bind_eq_bind, Option.bind_some, if_pos hlt, Reader.insert?]
  cases isScalar (r.point + (r.index + d * r.weight) / (r.label.length + 1)) <;> rfl

/-- Any other digit counts with its weight, and the next one has a higher weight. -/
theorem push_more (hvalue : value? c = some d) (hge : ¬ d < threshold r.place r.bias) :
    r.push c = some { r with
      index := r.index + d * r.weight
      weight := r.weight * (36 - threshold r.place r.bias)
      place := r.place + 36 } := by
  rw [Reader.push, hvalue]
  simp only [Option.bind_eq_bind, Option.bind_some, if_neg hge]

/-- Reading the digits of a number leads the counter on by the number, times the weight of its
first digit. -/
theorem foldlM_writeNumber {bias place n : Nat} (r : Reader) (hbias : r.bias = bias)
    (hplace : r.place = place) :
    (writeNumber bias place n).foldlM Reader.push r = r.insert? (r.index + n * r.weight) := by
  fun_induction writeNumber bias place n generalizing r with
  | case1 place n t hlt =>
      have hle := threshold_le place bias
      have hpush : r.push (digit n) = r.insert? (r.index + n * r.weight) :=
        push_last (value?_digit (by omega)) (by rwa [hplace, hbias])
      rw [List.foldlM_cons, hpush]
      cases r.insert? (r.index + n * r.weight) <;> rfl
  | case2 place n t hge ih =>
      have hpos := threshold_pos place bias
      have hle := threshold_le place bias
      have hmod : (n - t) % (36 - t) < 36 - t := Nat.mod_lt _ (by omega)
      have hpush := @push_more r _ _ (value?_digit (n := t + (n - t) % (36 - t)) (by omega))
        (by rw [hplace, hbias]; exact Nat.not_lt_of_le (Nat.le_add_right _ _))
      -- the digit and what is left of the number make up the number
      have hdigits : t + (n - t) % (36 - t) + (n - t) / (36 - t) * (36 - t) = n := by
        have hdiv := Nat.mod_add_div' (n - t) (36 - t)
        omega
      have hindex : r.index + (t + (n - t) % (36 - t)) * r.weight +
          (n - t) / (36 - t) * (r.weight * (36 - t)) = r.index + n * r.weight := by
        rw [Nat.mul_comm r.weight, ← Nat.mul_assoc, Nat.add_assoc, ← Nat.add_mul, hdigits]
      rw [List.foldlM_cons, hpush]
      have hrest := ih { r with
        index := r.index + (t + (n - t) % (36 - t)) * r.weight
        weight := r.weight * (36 - t)
        place := r.place + 36 } hbias (congrArg (· + 36) hplace)
      rw [hplace, hbias, Option.bind_eq_bind, Option.bind_some]
      rw [hplace, hbias] at hrest
      exact hrest.trans (congrArg r.insert? hindex)

end Numbers

section Tracks

/-- What holds between a writer whose counter is at the place `index` for the character `n`, when
the characters `shown` are written, and the reader that has read what is written. -/
structure Tracks (fresh : Reader) (basics n index : Nat) (shown : List Char) (w : Writer)
    (r : Reader) : Prop where
  read : w.out.foldlM Reader.push fresh = some r
  label : r.label = shown
  count : w.count = shown.length
  bias : r.bias = w.bias
  weight : r.weight = 1
  place : r.place = 36
  start : r.start = r.index
  basics_le : basics ≤ w.count
  /-- Both know whether a number is the first one. -/
  first : r.start = 0 ↔ w.count = basics
  /-- The steps that are not written lead from the place of the reader to that of the writer. -/
  steps : r.point * (w.count + 1) + r.index + w.delta = n * (w.count + 1) + index

variable {fresh r : Reader} {basics n index : Nat} {shown : List Char} {w : Writer} {c : Char}

/-- Over a smaller character the counter goes on. -/
theorem Tracks.visit_lt (h : Tracks fresh basics n index shown w r) (hc : c.toNat < n) :
    Tracks fresh basics n (index + 1) shown (w.visit basics n c) r := by
  rw [Writer.visit, if_pos hc]
  exact { h with steps := by rw [← Nat.add_assoc, ← Nat.add_assoc, h.steps] }

/-- A greater character is not there yet. -/
theorem visit_gt (hc : n < c.toNat) : w.visit basics n c = w := by
  rw [Writer.visit, if_neg (by omega), if_neg (by omega)]

theorem isScalar_toNat (c : Char) : isScalar c.toNat = true := by
  have hvalid : c.toNat.isValidChar := c.valid
  rw [isScalar]
  rcases hvalid with hlow | ⟨hhigh, hmax⟩
  · simp [hlow]
  · have hle : c.toNat ≤ 0x10FFFF := by omega
    simp [hhigh, hle]

/-- Where the steps lead from one place to another, they are so many rounds and so many
places. -/
theorem rounds_of_steps {point k steps n index : Nat} (hindex : index < k)
    (h : point * k + steps = n * k + index) : point + steps / k = n ∧ steps % k = index := by
  have hle : point ≤ n := by
    have hlt : point * k < (n + 1) * k := by
      rw [Nat.add_mul]
      omega
    exact Nat.lt_succ_iff.1 (Nat.lt_of_mul_lt_mul_right hlt)
  obtain ⟨m, rfl⟩ := Nat.exists_eq_add_of_le hle
  have hsteps : steps = index + m * k := by
    rw [Nat.add_mul] at h
    omega
  have hk : 0 < k := by omega
  rw [hsteps, Nat.add_mul_div_right _ _ hk, Nat.div_eq_of_lt hindex, Nat.add_mul_mod_self_right,
    Nat.mod_eq_of_lt hindex, Nat.zero_add]
  exact ⟨rfl, rfl⟩

/-- The character itself is written, and the reader inserts it at the same place. -/
theorem Tracks.visit_eq (h : Tracks fresh basics c.toNat index shown w r)
    (hindex : index ≤ shown.length) :
    ∃ r', Tracks fresh basics c.toNat (index + 1) (shown.take index ++ c :: shown.drop index)
      (w.visit basics c.toNat c) r' := by
  have hsteps := h.steps
  rw [Nat.add_assoc, h.count] at hsteps
  obtain ⟨hpoint, hplace⟩ := rounds_of_steps (Nat.lt_succ_of_le hindex) hsteps
  have hread : (w.out ++ writeNumber w.bias 36 w.delta).foldlM Reader.push fresh =
      r.insert? (r.index + w.delta) := by
    rw [List.foldlM_append, h.read, Option.bind_eq_bind, Option.bind_some,
      foldlM_writeNumber r h.bias h.place, h.weight, Nat.mul_one]
  have hfirst : (r.start == 0) = (w.count == basics) := by
    rw [Bool.eq_iff_iff, beq_iff_eq, beq_iff_eq]
    exact h.first
  have hdelta : r.index + w.delta - r.start = w.delta := by
    rw [h.start, Nat.add_sub_cancel_left]
  rw [Reader.insert?] at hread
  simp only [h.label, hpoint, hplace, isScalar_toNat, if_true, Char.ofNat_toNat, hfirst, hdelta]
    at hread
  have hbasics := h.basics_le
  rw [Writer.visit, if_neg (Nat.lt_irrefl _), if_pos rfl]
  exact ⟨_,
    { read := hread
      label := rfl
      count := by
        show w.count + 1 = _
        rw [List.length_append, List.length_cons, List.length_take, List.length_drop, h.count]
        omega
      bias := by rw [h.count]
      weight := rfl
      place := rfl
      start := rfl
      basics_le := Nat.le_succ_of_le hbasics
      first := by
        show index + 1 = 0 ↔ w.count + 1 = basics
        omega
      steps := by
        show c.toNat * _ + (index + 1) + 0 = _
        rw [Nat.add_zero] }⟩

/-- One pass over a label writes all occurrences of a character at their places. -/
theorem Tracks.foldl_visit (before rest : List Char)
    (h : Tracks fresh basics n (before.filter (·.toNat ≤ n)).length
      (before.filter (·.toNat ≤ n) ++ rest.filter (·.toNat < n)) w r) :
    ∃ r', Tracks fresh basics n ((before ++ rest).filter (·.toNat ≤ n)).length
      ((before ++ rest).filter (·.toNat ≤ n)) (rest.foldl (Writer.visit basics n) w) r' := by
  induction rest generalizing before w r with
  | nil =>
      rw [List.filter_nil, List.append_nil] at h
      rw [List.append_nil]
      exact ⟨r, h⟩
  | cons c rest ih =>
      have hsplit : before ++ c :: rest = before ++ [c] ++ rest := by
        rw [List.append_assoc, List.singleton_append]
      rw [hsplit, List.foldl_cons]
      rcases Nat.lt_trichotomy c.toNat n with hlt | rfl | hgt
      · have hfilter : (before ++ [c]).filter (·.toNat ≤ n) =
            before.filter (·.toNat ≤ n) ++ [c] := by simp [Nat.le_of_lt hlt]
        refine @ih r _ (before ++ [c]) ?_
        rw [hfilter, List.length_append, List.append_assoc, List.singleton_append]
        rw [List.filter_cons_of_pos (by simpa using hlt)] at h
        exact h.visit_lt hlt
      · have hfilter : (before ++ [c]).filter (·.toNat ≤ c.toNat) =
            before.filter (·.toNat ≤ c.toNat) ++ [c] := by simp
        rw [List.filter_cons_of_neg (by simp)] at h
        obtain ⟨r', hr'⟩ := h.visit_eq (by simp)
        rw [List.take_left, List.drop_left] at hr'
        refine @ih r' _ (before ++ [c]) ?_
        rw [hfilter, List.length_append, List.append_assoc, List.singleton_append]
        exact hr'
      · have hfilter : (before ++ [c]).filter (·.toNat ≤ n) = before.filter (·.toNat ≤ n) := by
          simp [hgt]
        rw [List.filter_cons_of_neg (by simpa using Nat.le_of_lt hgt)] at h
        rw [visit_gt hgt]
        refine @ih r _ (before ++ [c]) ?_
        rw [hfilter]
        exact h

/-- Behind the last place the counter comes to the next character. -/
theorem Tracks.next (h : Tracks fresh basics n shown.length shown w r) :
    Tracks fresh basics (n + 1) 0 shown { w with delta := w.delta + 1 } r :=
  { h with
    steps := by
      rw [← Nat.add_assoc, h.steps, h.count, Nat.add_mul]
      omega }

/-- A round that inserts nothing passes all places. -/
theorem Tracks.advance {last : Nat} (h : Tracks fresh basics last 0 shown w r) (hle : last ≤ n) :
    Tracks fresh basics n 0 shown
      { w with delta := w.delta + (n - last) * (w.count + 1) } r :=
  { h with
    steps := by
      rw [← Nat.add_assoc, h.steps, Nat.add_zero, ← Nat.add_mul, Nat.add_sub_cancel' hle]
      rfl }

/-- When all characters are written, the reader has the label. -/
theorem exists_tracks_writeAll {label : List Char} {points : List Nat} {last : Nat}
    (h : Tracks fresh basics last 0 (label.filter (·.toNat < last)) w r)
    (hsorted : points.Pairwise (· < ·)) (hlast : ∀ n ∈ points, last ≤ n)
    (hall : ∀ c ∈ label, last ≤ c.toNat → c.toNat ∈ points) :
    ∃ n r', Tracks fresh basics n 0 label (writeAll label basics points last w) r' := by
  induction points generalizing last w r with
  | nil =>
      have hfilter : label.filter (·.toNat < last) = label := by
        rw [List.filter_eq_self]
        intro c hc
        exact decide_eq_true (Nat.lt_of_not_le fun hle => List.not_mem_nil (hall c hc hle))
      rw [hfilter] at h
      exact ⟨last, r, h⟩
  | cons n rest ih =>
      obtain ⟨hleast, hrest⟩ := List.pairwise_cons.1 hsorted
      -- between two characters of the list there is none in the label
      have hgap : ∀ c ∈ label, c.toNat < last ↔ c.toNat < n := by
        intro c hc
        have hle := hlast n List.mem_cons_self
        constructor
        · omega
        · intro hlt
          refine Nat.lt_of_not_le fun hge => ?_
          rcases List.mem_cons.1 (hall c hc hge) with heq | hmem
          · omega
          · have hbound := hleast _ hmem
            omega
      have hshown : label.filter (·.toNat < last) = label.filter (·.toNat < n) :=
        List.filter_congr fun c hc => decide_eq_decide.2 (hgap c hc)
      have hround := h.advance (hlast n List.mem_cons_self)
      rw [hshown] at hround
      obtain ⟨r', hr'⟩ := Tracks.foldl_visit [] label hround
      have hnext := hr'.next
      have hshown' : label.filter (·.toNat ≤ n) = label.filter (·.toNat < n + 1) :=
        List.filter_congr fun c _ => decide_eq_decide.2 Nat.lt_succ_iff.symm
      rw [List.nil_append, hshown'] at hnext
      rw [writeAll]
      refine ih hnext hrest hleast fun c hc hge => ?_
      rcases List.mem_cons.1 (hall c hc (by have := hlast n List.mem_cons_self; omega))
        with heq | hmem
      · omega
      · exact hmem

end Tracks

section Extended

theorem mem_insertNew {m n : Nat} {ns : List Nat} : m ∈ insertNew n ns ↔ m = n ∨ m ∈ ns := by
  induction ns with
  | nil => simp [insertNew]
  | cons k rest ih =>
      rw [insertNew]
      split
      · simp
      · split
        · next heq => simp [heq]
        · simp [ih, or_left_comm]

theorem pairwise_insertNew {n : Nat} {ns : List Nat} (h : ns.Pairwise (· < ·)) :
    (insertNew n ns).Pairwise (· < ·) := by
  induction ns with
  | nil => simp [insertNew]
  | cons k rest ih =>
      obtain ⟨hleast, hrest⟩ := List.pairwise_cons.1 h
      rw [insertNew]
      split
      · next hlt =>
          refine List.pairwise_cons.2 ⟨fun m hm => ?_, h⟩
          rcases List.mem_cons.1 hm with rfl | hm
          · exact hlt
          · exact Nat.lt_trans hlt (hleast m hm)
      · split
        · exact h
        · refine List.pairwise_cons.2 ⟨fun m hm => ?_, ih hrest⟩
          rcases mem_insertNew.1 hm with rfl | hm
          · omega
          · exact hleast m hm

theorem mem_extended {label : List Char} {n : Nat} :
    n ∈ extended label ↔ 128 ≤ n ∧ ∃ c ∈ label, c.toNat = n := by
  have hfold : ∀ ns : List Nat, n ∈ ns.foldr insertNew [] ↔ n ∈ ns := by
    intro ns
    induction ns with
    | nil => rfl
    | cons m rest ih => rw [List.foldr_cons, mem_insertNew, ih, List.mem_cons]
  rw [extended, hfold, List.mem_filter, List.mem_map, decide_eq_true_eq, and_comm]

theorem pairwise_extended (label : List Char) : (extended label).Pairwise (· < ·) := by
  rw [extended]
  generalize (label.map Char.toNat).filter (128 ≤ ·) = ns
  induction ns with
  | nil => exact List.Pairwise.nil
  | cons m rest ih => exact pairwise_insertNew ih

end Extended

section Decode

/-- The characters below 128 of an encoding end at its last hyphen. -/
theorem cutBasic_append {basic digits : List Char} (hdigits : '-' ∉ digits) :
    cutBasic ((if basic.isEmpty then [] else basic ++ ['-']) ++ digits) = (basic, digits) := by
  have hrun : ∀ c ∈ digits.reverse, (c != '-') = true := by
    intro c hc
    rw [bne_iff_ne]
    rintro rfl
    exact hdigits (List.mem_reverse.1 hc)
  have htail : ((if basic.isEmpty then [] else basic ++ ['-']) ++ digits).reverse.takeWhile
      (· != '-') = digits.reverse := by
    rw [List.reverse_append, List.takeWhile_append_of_pos hrun]
    cases basic <;> simp
  rw [cutBasic, htail, List.reverse_reverse]
  cases basic with
  | nil => exact if_pos (Nat.le_succ _)
  | cons c more =>
      have hwhole : (if (c :: more).isEmpty then [] else (c :: more) ++ ['-']) ++ digits =
          (c :: more) ++ '-' :: digits := List.append_assoc _ _ _
      have hlength : ((c :: more) ++ '-' :: digits).length = digits.length + (more.length + 2) := by
        rw [List.length_append, List.length_cons, List.length_cons]
        omega
      rw [hwhole, hlength, if_neg (by omega)]
      refine Prod.ext (List.take_left' ?_) rfl
      rw [List.length_cons]
      omega

/-- The encoding of a label is read as that label. -/
theorem decode?_encode (label : List Char) : decode? (encode label) = some label := by
  let fresh : Reader := ⟨128, 0, 0, 1, 36, 72, label.filter (·.toNat < 128)⟩
  have hfresh : Tracks fresh (label.filter (·.toNat < 128)).length 128 0
      (label.filter (·.toNat < 128)) ⟨0, 72, (label.filter (·.toNat < 128)).length, []⟩ fresh :=
    ⟨rfl, rfl, rfl, rfl, rfl, rfl, rfl, Nat.le_refl _, by simp [fresh], rfl⟩
  obtain ⟨n, r, hr⟩ := exists_tracks_writeAll hfresh (pairwise_extended label)
    (fun n hn => (mem_extended.1 hn).1) (fun c hc hge => mem_extended.2 ⟨hge, c, hc, rfl⟩)
  have hdigits : '-' ∉ (writeAll label (label.filter (·.toNat < 128)).length (extended label) 128
      ⟨0, 72, (label.filter (·.toNat < 128)).length, []⟩).out := by
    intro hmem
    obtain ⟨m, hm, heq⟩ := writeAll_out (List.forall_mem_nil _) '-' hmem
    have hall : ∀ m < 36, '-' ≠ digit m := by decide
    exact hall m hm heq
  rw [decode?, encode, cutBasic_append hdigits]
  show (List.foldlM Reader.push fresh _).bind _ = _
  rw [hr.read]
  simp only [Option.bind_some, hr.place, hr.weight, hr.label, and_self, if_true]

end Decode

section Lengths

theorem length_writeNumber_pos (bias place n : Nat) : 1 ≤ (writeNumber bias place n).length := by
  rw [writeNumber]
  split <;> simp

/-- Two digits write no more than 910, whatever the bias is. -/
theorem three_le_length_writeNumber {n : Nat} (bias place : Nat) (h : 911 ≤ n) :
    3 ≤ (writeNumber bias place n).length := by
  have hpos := threshold_pos place bias
  have hle := threshold_le place bias
  have hle' := threshold_le (place + 36) bias
  have hrest : 26 ≤ (n - threshold place bias) / (36 - threshold place bias) := by
    rw [Nat.le_div_iff_mul_le (by omega)]
    omega
  have hlast := length_writeNumber_pos bias (place + 36 + 36)
    (((n - threshold place bias) / (36 - threshold place bias) - threshold (place + 36) bias) /
      (36 - threshold (place + 36) bias))
  rw [writeNumber, if_neg (by omega), writeNumber, if_neg (by omega), List.length_cons,
    List.length_cons]
  omega

variable {basics n : Nat} {cs label : List Char} {w : Writer}

/-- Nothing that is written is taken back. -/
theorem le_foldl_visit (cs : List Char) (w : Writer) :
    w.count ≤ (cs.foldl (Writer.visit basics n) w).count ∧
      w.out.length ≤ (cs.foldl (Writer.visit basics n) w).out.length := by
  induction cs generalizing w with
  | nil => exact ⟨Nat.le_refl _, Nat.le_refl _⟩
  | cons c more ih =>
      obtain ⟨hcount, hout⟩ := ih (w.visit basics n c)
      have hstep : w.count ≤ (w.visit basics n c).count ∧
          w.out.length ≤ (w.visit basics n c).out.length := by
        rw [Writer.visit]
        split
        · exact ⟨Nat.le_refl _, Nat.le_refl _⟩
        · split
          · exact ⟨Nat.le_succ _, by rw [List.length_append]; exact Nat.le_add_right _ _⟩
          · exact ⟨Nat.le_refl _, Nat.le_refl _⟩
      exact ⟨Nat.le_trans hstep.1 hcount, Nat.le_trans hstep.2 hout⟩

/-- A character of the label is written, with three digits if there were many steps before. -/
theorem foldl_visit_of_mem (hmem : n ∈ cs.map Char.toNat) :
    w.count + 1 ≤ (cs.foldl (Writer.visit basics n) w).count ∧
      (911 ≤ w.delta →
        w.out.length + 3 ≤ (cs.foldl (Writer.visit basics n) w).out.length) := by
  induction cs generalizing w with
  | nil => cases hmem
  | cons c more ih =>
      rw [List.foldl_cons]
      by_cases hc : c.toNat = n
      · obtain ⟨hcount, hout⟩ := @le_foldl_visit basics n more (w.visit basics n c)
        have hvisit : w.visit basics n c =
            ⟨0, adapt w.delta (w.count + 1) (w.count == basics), w.count + 1,
              w.out ++ writeNumber w.bias 36 w.delta⟩ := by
          rw [Writer.visit, if_neg (by omega), if_pos hc]
        rw [hvisit] at hcount hout ⊢
        refine ⟨hcount, fun hdelta => Nat.le_trans ?_ hout⟩
        rw [List.length_append]
        exact Nat.add_le_add_left (three_le_length_writeNumber _ _ hdelta) _
      · have hmore : n ∈ more.map Char.toNat := by
          rw [List.map_cons, List.mem_cons] at hmem
          exact hmem.resolve_left (Ne.symm hc)
        obtain ⟨hcount, hout⟩ := @ih (w.visit basics n c) hmore
        have hvisit : w.count ≤ (w.visit basics n c).count ∧
            w.out.length ≤ (w.visit basics n c).out.length ∧
            w.delta ≤ (w.visit basics n c).delta := by
          rw [Writer.visit]
          split
          · exact ⟨Nat.le_refl _, Nat.le_refl _, Nat.le_succ _⟩
          · exact ⟨Nat.le_refl _, Nat.le_refl _, Nat.le_refl _⟩
        exact ⟨by omega, fun hdelta => by have := hout (by omega); omega⟩

/-- Once there are 36 characters, 25 code points between one character and the next make a number
of three digits. -/
theorem length_writeAll {points : List Nat} {last : Nat} (hlast : ∀ n ∈ points, last + 25 ≤ n)
    (hgaps : points.Pairwise (fun m n => m + 26 ≤ n))
    (hmem : ∀ n ∈ points, n ∈ label.map Char.toNat) :
    w.out.length + 3 * points.length ≤
      (writeAll label basics points last w).out.length + 3 * (36 - w.count) := by
  induction points generalizing last w with
  | nil => exact Nat.le_add_right _ _
  | cons n rest ih =>
      obtain ⟨hnext, hrest⟩ := List.pairwise_cons.1 hgaps
      have hgap := hlast n List.mem_cons_self
      let before : Writer := { w with delta := w.delta + (n - last) * (w.count + 1) }
      let after := label.foldl (Writer.visit basics n) before
      have hmono : w.out.length ≤ after.out.length := (le_foldl_visit label before).2
      obtain ⟨hcount, hout⟩ : w.count + 1 ≤ after.count ∧
          (911 ≤ before.delta → w.out.length + 3 ≤ after.out.length) :=
        @foldl_visit_of_mem basics n label before (hmem n List.mem_cons_self)
      have hsteps : 36 ≤ w.count → 911 ≤ before.delta := by
        intro hmany
        have hmul : 25 * 37 ≤ (n - last) * (w.count + 1) :=
          Nat.mul_le_mul (by omega) (by omega)
        show 911 ≤ w.delta + (n - last) * (w.count + 1)
        omega
      have hrest' := @ih { after with delta := after.delta + 1 } (n + 1)
        (fun m hm => by have := hnext m hm; omega) hrest
        (fun m hm => hmem m (List.mem_cons_of_mem _ hm))
      have hwrite : writeAll label basics (n :: rest) last w =
          writeAll label basics rest (n + 1) { after with delta := after.delta + 1 } := rfl
      rw [hwrite, List.length_cons]
      simp only at hrest'
      omega

/-- If the characters of a label lie apart, its encoding has three digits for each, up to the
first ones. -/
theorem le_length_encode (hgaps : (extended label).Pairwise (fun m n => m + 26 ≤ n))
    (hfirst : ∀ n ∈ extended label, 153 ≤ n) :
    3 * (extended label).length ≤ (encode label).length + 108 := by
  have hmem : ∀ n ∈ extended label, n ∈ label.map Char.toNat := by
    intro n hn
    obtain ⟨-, c, hc, rfl⟩ := mem_extended.1 hn
    exact List.mem_map_of_mem hc
  have hwritten := @length_writeAll (label.filter (·.toNat < 128)).length label
    ⟨0, 72, (label.filter (·.toNat < 128)).length, []⟩ _ 128 hfirst hgaps hmem
  rw [encode, List.length_append]
  simp only [List.length_nil] at hwritten
  omega

/-- The characters of a label that grow are already in order. -/
theorem extended_of_pairwise (h : (label.map Char.toNat).Pairwise (· < ·))
    (hhigh : ∀ c ∈ label, 128 ≤ c.toNat) : extended label = label.map Char.toNat := by
  have hfilter : (label.map Char.toNat).filter (128 ≤ ·) = label.map Char.toNat := by
    rw [List.filter_eq_self]
    intro n hn
    obtain ⟨c, hc, rfl⟩ := List.mem_map.1 hn
    exact decide_eq_true (hhigh c hc)
  rw [extended, hfilter]
  generalize label.map Char.toNat = ns at h
  induction ns with
  | nil => rfl
  | cons n more ih =>
      obtain ⟨hleast, hmore⟩ := List.pairwise_cons.1 h
      rw [List.foldr_cons, ih hmore]
      cases more with
      | nil => rfl
      | cons m rest => rw [insertNew, if_pos (hleast m List.mem_cons_self)]

end Lengths

end Punycode
end Name
end RequestGuard
