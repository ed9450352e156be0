import RequestGuard.Proofs.Json.Reading

/-!
# Reading and passing numbers

* `reads_number` and `reads_number_negative`: an integer of 64 bits is read from its usual
  digits.
* `reads_passNumber`: any number that may be written is passed.
-/

namespace RequestGuard
namespace Json
namespace Reader

open Text

section Digits

theorem of_isDigit {d : Char} (h : Text.isDigit d = true) :
    d.toNat < 128 ∧ isDigit (byte d) = true ∧ (byte d).toNat = d.toNat := by
  have hrange := (isDigit_iff d).1 h
  have hlt : d.toNat < 128 := by omega
  refine ⟨hlt, ?_, toNat_byte hlt⟩
  have hall : ∀ n < 58, 48 ≤ n → isDigit (UInt8.ofNat n) = true := by decide
  exact hall d.toNat (by omega) hrange.1

/-- Digits are read to the last one. -/
theorem reads_digits {ds rest : List Char} (hds : ∀ d ∈ ds, Text.isDigit d = true)
    (hrest : ∀ c, rest.head? = some c → c.toNat < 128 ∧ isDigit (byte c) = false) :
    Reads (run isDigit) (ds ++ rest) (ds.map byte) rest :=
  reads_run (fun d hd => ⟨(of_isDigit (hds d hd)).1, (of_isDigit (hds d hd)).2.1⟩) hrest

/-- The number that digits write, going on from `n`. -/
def valueFrom (n : Nat) (ds : List Char) : Nat :=
  ds.foldl (fun n d => 10 * n + (d.toNat - 48)) n

theorem le_valueFrom (n : Nat) (ds : List Char) : n ≤ valueFrom n ds := by
  induction ds generalizing n with
  | nil => exact Nat.le_refl n
  | cons d more ih => exact Nat.le_trans (by omega) (ih (10 * n + (d.toNat - 48)))

/-- Digits whose number stays within the limit are all counted. -/
theorem leading_eq {ds : List Char} (hds : ∀ d ∈ ds, Text.isDigit d = true) {n : Nat}
    (hle : valueFrom n ds ≤ naturalLimit) : leading n (ds.map byte) = (valueFrom n ds, 0) := by
  induction ds generalizing n with
  | nil => rfl
  | cons d more ih =>
      have hvalue : valueFrom n (d :: more) = valueFrom (10 * n + (d.toNat - 48)) more := rfl
      have hdigit := (of_isDigit (hds d List.mem_cons_self)).2.2
      have hstep := le_valueFrom (10 * n + (d.toNat - 48)) more
      rw [hvalue] at hle ⊢
      rw [List.map_cons, leading, hdigit, if_pos (by omega)]
      exact ih (fun e he => hds e (List.mem_cons_of_mem _ he)) hle

theorem valueFrom_toDigits (n : Nat) : valueFrom 0 (Nat.toDigits 10 n) = n :=
  decimal_toDigits n

end Digits

section Reading

variable {rest : List Char}

theorem reads_afterInteger (hrest : Stops rest) {positive : Bool} {n : Nat} {x : Number}
    (hx : (positive = true ∧ x = .natural n) ∨
      (positive = false ∧ 0 < n ∧ n ≤ 0x8000000000000000 ∧ x = .negative n)) :
    Reads (afterInteger positive n 0) rest x rest := by
  rw [afterInteger]
  refine Reads.bind (hrest.reads_nextIs (by decide)) ?_
  simp only [Bool.false_eq_true, if_false]
  refine Reads.bind (hrest.reads_nextIs (by decide)) ?_
  simp only [Bool.false_eq_true, if_false, ne_eq, not_true]
  rcases hx with ⟨rfl, rfl⟩ | ⟨rfl, hpos, hle, rfl⟩
  · exact reads_pure _ rest
  · rw [if_neg (by decide), if_neg (by omega)]
    exact reads_pure _ rest

/-- A number of the usual digits is read as far as it is one of 64 bits. -/
theorem reads_number_of {n : Nat} (hn : n ≤ naturalLimit) (hrest : Stops rest)
    {positive : Bool} {x : Number} (hafter : Reads (afterInteger positive n 0) rest x rest) :
    Reads (number positive) (Nat.toDigits 10 n ++ rest) x rest := by
  have hvalue := valueFrom_toDigits n
  rcases isWhole_toDigits n with hzero | ⟨⟨hne, hds⟩, hhead⟩
  · rw [hzero] at hvalue ⊢
    obtain rfl : 0 = n := hvalue
    refine Reads.bind (reads_next (by decide)) ?_
    simp only [if_true]
    refine Reads.bind (hrest.reads_nextIs (by decide)) ?_
    simp only [Bool.false_eq_true, if_false]
    exact hafter
  · obtain ⟨d, ds, hcons⟩ := List.exists_cons_of_ne_nil hne
    rw [hcons] at hvalue hds hhead ⊢
    have hstart : valueFrom (d.toNat - 48) ds = n := by simpa [valueFrom] using hvalue
    obtain ⟨hlt, hdigit, hback⟩ := of_isDigit (hds d List.mem_cons_self)
    have hmore := fun e he => hds e (List.mem_cons_of_mem d he)
    have hzero : byte d ≠ byte '0' := by
      rw [ne_eq, byte_eq_iff hlt (by decide)]
      rintro rfl
      exact hhead rfl
    refine Reads.bind (reads_next hlt) ?_
    simp only [if_neg hzero, if_pos hdigit]
    refine Reads.bind (reads_digits hmore (hrest.not (by decide))) ?_
    simp only [hback, leading_eq hmore (hstart ▸ hn), hstart]
    exact hafter

/-- A natural number of 64 bits is read from its usual digits. -/
theorem reads_number {n : Nat} (hn : n ≤ naturalLimit) (hrest : Stops rest) :
    Reads (number true) (Nat.toDigits 10 n ++ rest) (.natural n) rest :=
  reads_number_of hn hrest (reads_afterInteger hrest (Or.inl ⟨rfl, rfl⟩))

/-- A negative integer of 64 bits is read after its sign. -/
theorem reads_number_negative {n : Nat} (hpos : 0 < n) (hn : n ≤ 0x8000000000000000)
    (hrest : Stops rest) :
    Reads (number false) (Nat.toDigits 10 n ++ rest) (.negative n) rest :=
  reads_number_of (Nat.le_trans hn (by decide)) hrest
    (reads_afterInteger hrest (Or.inr ⟨rfl, hpos, hn, rfl⟩))

end Reading

section Passing

variable {rest : List Char}

/-- What a digit may be followed by in the part of a number where it stands. -/
theorem not_digit_of_head {t : List Char} (ht : t = [] ∨ ∃ c more, t = c :: more ∧
    (c = '.' ∨ c = 'e' ∨ c = 'E')) (hrest : Stops rest) (c : Char)
    (hc : (t ++ rest).head? = some c) : c.toNat < 128 ∧ isDigit (byte c) = false := by
  rcases ht with rfl | ⟨d, more, rfl, hd⟩
  · exact hrest.not (by decide) c hc
  · obtain rfl : d = c := Option.some.inj hc
    rcases hd with rfl | rfl | rfl
    · decide
    · decide
    · decide

/-- Passes the digits of an exponent. -/
def passExponentDigits : Reader Unit := do
  match ← next with
  | none => failHere .numberInvalid
  | some d =>
    if isDigit d then
      let _ ← run isDigit
    else failHere .numberInvalid

theorem reads_passExponentIfAny {t : List Char} (h : IsExponent t) (hrest : Stops rest) :
    Reads passExponentIfAny (t ++ rest) () rest := by
  rcases h with rfl | ⟨mark, sign, ds, hmark, hsign, ⟨hne, hds⟩, rfl⟩
  · refine Reads.bind (hrest.reads_nextIs (by decide)) ?_
    simp only [Bool.false_eq_true, if_false]
    exact reads_pure () rest
  · have hlt : mark.toNat < 128 ∧ (byte mark == byte 'e' || byte mark == byte 'E') = true := by
      rcases hmark with rfl | rfl
      · decide
      · decide
    obtain ⟨d, more, rfl⟩ := List.exists_cons_of_ne_nil hne
    obtain ⟨hd, hdigit, -⟩ := of_isDigit (hds d List.mem_cons_self)
    have hmore := fun e he => hds e (List.mem_cons_of_mem d he)
    have hdigits : Reads passExponentDigits (d :: (more ++ rest)) () rest := by
      refine Reads.bind (reads_next hd) ?_
      simp only [if_pos hdigit]
      exact Reads.bind (reads_digits hmore (hrest.not (by decide))) (reads_pure () rest)
    have hplain : (byte d == byte '+' || byte d == byte '-') = false := by
      have hrange := (isDigit_iff d).1 (hds d List.mem_cons_self)
      have hall : ∀ n < 58, 48 ≤ n → (UInt8.ofNat n == byte '+' || UInt8.ofNat n == byte '-') =
          false := by decide
      exact hall d.toNat (by omega) hrange.1
    refine Reads.bind (reads_nextIs _ hlt.1) ?_
    simp only [hlt.2, if_true]
    refine Reads.bind (reads_skip hlt.1) ?_
    rcases hsign with rfl | rfl | rfl
    · refine Reads.bind (reads_nextIs _ hd) ?_
      simp only [hplain, Bool.false_eq_true, if_false]
      exact hdigits
    · refine Reads.bind (reads_nextIs _ (by decide)) ?_
      exact Reads.bind (reads_skip (by decide)) hdigits
    · refine Reads.bind (reads_nextIs _ (by decide)) ?_
      exact Reads.bind (reads_skip (by decide)) hdigits

/-- Passes what follows the digits of an integer. -/
def passBehindWhole : Reader Unit := do
  if ← nextIs (· == byte '.') then
    skip
    let ds ← run isDigit
    if ds.isEmpty then failNext .numberInvalid else passExponentIfAny
  else passExponentIfAny

theorem head_of_isExponent {t : List Char} (h : IsExponent t) :
    t = [] ∨ ∃ c more, t = c :: more ∧ (c = '.' ∨ c = 'e' ∨ c = 'E') := by
  rcases h with rfl | ⟨mark, sign, ds, hmark, -, -, rfl⟩
  · exact Or.inl rfl
  · exact Or.inr ⟨mark, _, rfl, Or.inr hmark⟩

theorem head_of_isFraction {t t' : List Char} (h : IsFraction t) (h' : IsExponent t') :
    t ++ t' = [] ∨ ∃ c more, t ++ t' = c :: more ∧ (c = '.' ∨ c = 'e' ∨ c = 'E') := by
  rcases h with rfl | ⟨ds, -, rfl⟩
  · exact head_of_isExponent h'
  · exact Or.inr ⟨'.', _, rfl, Or.inl rfl⟩

theorem reads_passBehindWhole {fraction exponent : List Char} (hfraction : IsFraction fraction)
    (hexponent : IsExponent exponent) (hrest : Stops rest) :
    Reads passBehindWhole (fraction ++ (exponent ++ rest)) () rest := by
  have hbehind := reads_passExponentIfAny hexponent hrest
  rcases hfraction with rfl | ⟨ds, ⟨hne, hds⟩, rfl⟩
  · have hnext : Reads (nextIs (· == byte '.')) (exponent ++ rest) false (exponent ++ rest) := by
      rcases hexponent with rfl | ⟨mark, sign, ds, hmark, -, -, rfl⟩
      · exact hrest.reads_nextIs (by decide)
      · rcases hmark with rfl | rfl
        · exact reads_nextIs _ (by decide)
        · exact reads_nextIs _ (by decide)
    refine Reads.bind hnext ?_
    simp only [Bool.false_eq_true, if_false]
    exact hbehind
  · have hdigits : Reads (run isDigit) (ds ++ (exponent ++ rest)) (ds.map byte)
        (exponent ++ rest) :=
      reads_digits hds (not_digit_of_head (head_of_isExponent hexponent) hrest)
    refine Reads.bind (reads_nextIs _ (by decide)) ?_
    refine Reads.bind (reads_skip (by decide)) (Reads.bind hdigits ?_)
    have hsome : (ds.map byte).isEmpty = false := by simpa using hne
    simp only [hsome, Bool.false_eq_true, if_false]
    exact hbehind

/-- A number after its sign is passed. -/
theorem reads_passNumber {whole fraction exponent : List Char} (hwhole : IsWhole whole)
    (hfraction : IsFraction fraction) (hexponent : IsExponent exponent) (hrest : Stops rest) :
    Reads passNumber (whole ++ (fraction ++ (exponent ++ rest))) () rest := by
  have hbehind := reads_passBehindWhole hfraction hexponent hrest
  have hnot : ∀ c, (fraction ++ (exponent ++ rest)).head? = some c →
      c.toNat < 128 ∧ isDigit (byte c) = false := by
    rw [← List.append_assoc]
    exact not_digit_of_head (head_of_isFraction hfraction hexponent) hrest
  rcases hwhole with rfl | ⟨⟨hne, hds⟩, hhead⟩
  · have hnext : Reads (nextIs isDigit) (fraction ++ (exponent ++ rest)) false
        (fraction ++ (exponent ++ rest)) := by
      cases hbehindZero : fraction ++ (exponent ++ rest) with
      | nil => exact fun n => ⟨n, rfl⟩
      | cons c more =>
          obtain ⟨hlt, hc⟩ := hnot c (by rw [hbehindZero]; rfl)
          rw [← hc]
          exact reads_nextIs _ hlt
    refine Reads.bind (reads_next (by decide)) ?_
    refine Reads.bind hnext ?_
    exact hbehind
  · obtain ⟨d, ds, rfl⟩ := List.exists_cons_of_ne_nil hne
    obtain ⟨hlt, hdigit, -⟩ := of_isDigit (hds d List.mem_cons_self)
    have hmore := fun e he => hds e (List.mem_cons_of_mem d he)
    have hzero : byte d ≠ byte '0' := by
      rw [ne_eq, byte_eq_iff hlt (by decide)]
      rintro rfl
      exact hhead rfl
    refine Reads.bind (reads_next hlt) ?_
    simp only [if_neg hzero, if_pos hdigit]
    exact Reads.bind (reads_digits hmore hnot) hbehind

end Passing

end Reader
end Json
end RequestGuard
