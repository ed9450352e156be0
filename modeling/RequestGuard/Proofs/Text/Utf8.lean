import RequestGuard.Text.Utf8

/-!
# Reading what was written in bytes

* `next_encodeChar`: the bytes of a character are read as that character, whatever follows.
* `decode_encode`: so the bytes of a text are read as that text.
* `high_of_mem_encodeChar`: no byte of a character beyond the basic ones could be a basic one.
* `encode_suffix_iff`: so bytes that start with a basic one end a text as characters do.
-/

namespace RequestGuard
namespace Text
namespace Utf8

section Bytes

theorem toNat_ofNat {n : Nat} (h : n < 256) : (UInt8.ofNat n).toNat = n := by
  rw [UInt8.toNat_ofNat']
  exact Nat.mod_eq_of_lt h

theorem isTail_ofNat {n : Nat} (h : n < 64) : isTail (UInt8.ofNat (0x80 + n)) = true := by
  have hall : ∀ n < 64, isTail (UInt8.ofNat (0x80 + n)) = true := by decide
  exact hall n h

/-- Numbers of characters leave a gap. -/
theorem valid_toNat (c : Char) : c.toNat < 0xD800 ∨ (0xDFFF < c.toNat ∧ c.toNat < 0x110000) :=
  c.valid

end Bytes

section Char

variable {c : Char}

theorem encodeChar_of_lt (h : c.toNat < 0x80) : encodeChar c = [UInt8.ofNat c.toNat] :=
  if_pos h

/-- A basic byte is a character. -/
theorem next_of_lt {b : UInt8} (h : b < 0x80) (start : Nat) (rest : List UInt8) :
    next start (b :: rest) = .ok (Char.ofNat b.toNat, 1, rest) := by
  rw [next.eq_def]
  exact if_pos h

theorem next_one {n : Nat} (h : n < 0x80) (start : Nat) (rest : List UInt8) :
    next start (UInt8.ofNat n :: rest) = .ok (Char.ofNat n, 1, rest) := by
  have hall : ∀ n < 0x80, UInt8.ofNat n < 0x80 := by decide
  rw [next_of_lt (hall n h), toNat_ofNat (show n < 256 by omega)]

theorem next_two {n : Nat} (hlow : 0x80 ≤ n) (hhigh : n < 0x800) (start : Nat)
    (rest : List UInt8) :
    next start (UInt8.ofNat (0xC0 + n / 64) :: UInt8.ofNat (0x80 + n % 64) :: rest) =
      .ok (Char.ofNat n, 2, rest) := by
  have hall : ∀ m < 32, 2 ≤ m → ¬ UInt8.ofNat (0xC0 + m) < 0x80 ∧
      (0xC2 ≤ UInt8.ofNat (0xC0 + m) ∧ UInt8.ofNat (0xC0 + m) ≤ 0xDF) := by decide
  obtain ⟨hbasic, hfirst⟩ := hall (n / 64) (by omega) (by omega)
  have hvalue : 64 * (0xC0 + n / 64 - 0xC0) + (0x80 + n % 64 - 0x80) = n := by omega
  rw [next.eq_def]
  simp only [if_neg hbasic, if_pos hfirst, isTail_ofNat (show n % 64 < 64 by omega), if_true,
    charOf, List.foldl, toNat_ofNat (show 0xC0 + n / 64 < 256 by omega),
    toNat_ofNat (show 0x80 + n % 64 < 256 by omega), hvalue]

theorem secondOfThree_ofNat {n : Nat} (hlow : 0x800 ≤ n) (hhigh : n < 0x10000)
    (hgap : n < 0xD800 ∨ 0xDFFF < n) :
    secondOfThree (UInt8.ofNat (0xE0 + n / 4096)) (UInt8.ofNat (0x80 + n / 64 % 64)) = true := by
  have hall : ∀ m < 16, ∀ k < 64, (m = 0 → 32 ≤ k) → (m = 13 → k < 32) →
      secondOfThree (UInt8.ofNat (0xE0 + m)) (UInt8.ofNat (0x80 + k)) = true := by decide +kernel
  exact hall (n / 4096) (by omega) (n / 64 % 64) (by omega) (by omega) (by omega)

theorem next_three {n : Nat} (hlow : 0x800 ≤ n) (hhigh : n < 0x10000)
    (hgap : n < 0xD800 ∨ 0xDFFF < n) (start : Nat) (rest : List UInt8) :
    next start (UInt8.ofNat (0xE0 + n / 4096) :: UInt8.ofNat (0x80 + n / 64 % 64) ::
      UInt8.ofNat (0x80 + n % 64) :: rest) = .ok (Char.ofNat n, 3, rest) := by
  have hall : ∀ m < 16, ¬ UInt8.ofNat (0xE0 + m) < 0x80 ∧
      ¬ (0xC2 ≤ UInt8.ofNat (0xE0 + m) ∧ UInt8.ofNat (0xE0 + m) ≤ 0xDF) ∧
      (0xE0 ≤ UInt8.ofNat (0xE0 + m) ∧ UInt8.ofNat (0xE0 + m) ≤ 0xEF) := by decide
  obtain ⟨hbasic, htwo, hfirst⟩ := hall (n / 4096) (by omega)
  have hvalue : 64 * (64 * (0xE0 + n / 4096 - 0xE0) + (0x80 + n / 64 % 64 - 0x80)) +
      (0x80 + n % 64 - 0x80) = n := by omega
  rw [next.eq_def]
  simp only [if_neg hbasic, if_neg htwo, if_pos hfirst, secondOfThree_ofNat hlow hhigh hgap,
    Bool.not_true, Bool.false_eq_true, if_false, isTail_ofNat (show n % 64 < 64 by omega),
    if_true, charOf, List.foldl, toNat_ofNat (show 0xE0 + n / 4096 < 256 by omega),
    toNat_ofNat (show 0x80 + n / 64 % 64 < 256 by omega),
    toNat_ofNat (show 0x80 + n % 64 < 256 by omega), hvalue]

theorem secondOfFour_ofNat {n : Nat} (hlow : 0x10000 ≤ n) (hhigh : n < 0x110000) :
    secondOfFour (UInt8.ofNat (0xF0 + n / 262144)) (UInt8.ofNat (0x80 + n / 4096 % 64)) =
      true := by
  have hall : ∀ m < 5, ∀ k < 64, (m = 0 → 16 ≤ k) → (m = 4 → k < 16) →
      secondOfFour (UInt8.ofNat (0xF0 + m)) (UInt8.ofNat (0x80 + k)) = true := by decide +kernel
  exact hall (n / 262144) (by omega) (n / 4096 % 64) (by omega) (by omega) (by omega)

theorem next_four {n : Nat} (hlow : 0x10000 ≤ n) (hhigh : n < 0x110000) (start : Nat)
    (rest : List UInt8) :
    next start (UInt8.ofNat (0xF0 + n / 262144) :: UInt8.ofNat (0x80 + n / 4096 % 64) ::
      UInt8.ofNat (0x80 + n / 64 % 64) :: UInt8.ofNat (0x80 + n % 64) :: rest) =
      .ok (Char.ofNat n, 4, rest) := by
  have hall : ∀ m < 5, ¬ UInt8.ofNat (0xF0 + m) < 0x80 ∧
      ¬ (0xC2 ≤ UInt8.ofNat (0xF0 + m) ∧ UInt8.ofNat (0xF0 + m) ≤ 0xDF) ∧
      ¬ (0xE0 ≤ UInt8.ofNat (0xF0 + m) ∧ UInt8.ofNat (0xF0 + m) ≤ 0xEF) ∧
      (0xF0 ≤ UInt8.ofNat (0xF0 + m) ∧ UInt8.ofNat (0xF0 + m) ≤ 0xF4) := by decide
  obtain ⟨hbasic, htwo, hthree, hfirst⟩ := hall (n / 262144) (by omega)
  have hvalue : 64 * (64 * (64 * (0xF0 + n / 262144 - 0xF0) + (0x80 + n / 4096 % 64 - 0x80)) +
      (0x80 + n / 64 % 64 - 0x80)) + (0x80 + n % 64 - 0x80) = n := by omega
  rw [next.eq_def]
  simp only [if_neg hbasic, if_neg htwo, if_neg hthree, if_pos hfirst,
    secondOfFour_ofNat hlow hhigh, Bool.not_true, Bool.false_eq_true, if_false,
    isTail_ofNat (show n / 64 % 64 < 64 by omega), isTail_ofNat (show n % 64 < 64 by omega),
    if_true, charOf, List.foldl, toNat_ofNat (show 0xF0 + n / 262144 < 256 by omega),
    toNat_ofNat (show 0x80 + n / 4096 % 64 < 256 by omega),
    toNat_ofNat (show 0x80 + n / 64 % 64 < 256 by omega),
    toNat_ofNat (show 0x80 + n % 64 < 256 by omega), hvalue]

/-- The bytes of the character that is read are counted. -/
theorem length_of_next {start n : Nat} {bs rest : List UInt8}
    (h : next start bs = .ok (c, n, rest)) : bs.length = n + rest.length := by
  unfold next at h
  repeat' split at h
  all_goals first
    | (simp only [reduceCtorEq] at h)
    | (simp only [Except.ok.injEq, Prod.mk.injEq] at h
       obtain ⟨-, rfl, rfl⟩ := h
       simp only [List.length_cons]
       omega)

/-- The bytes of a character are read as that character. -/
theorem next_encodeChar (c : Char) (start : Nat) (rest : List UInt8) :
    ∃ n, next start (encodeChar c ++ rest) = .ok (c, n, rest) := by
  have hvalid := valid_toNat c
  simp only [encodeChar]
  split
  · next h => exact ⟨1, (next_one h start rest).trans (by rw [Char.ofNat_toNat])⟩
  · split
    · next hlow hhigh =>
        exact ⟨2, (next_two (by omega) hhigh start rest).trans (by rw [Char.ofNat_toNat])⟩
    · split
      · next hlow hhigh =>
          refine ⟨3, (next_three (by omega) hhigh (by omega) start rest).trans ?_⟩
          rw [Char.ofNat_toNat]
      · next hlow =>
          refine ⟨4, (next_four (by omega) (by omega) start rest).trans ?_⟩
          rw [Char.ofNat_toNat]

theorem encodeChar_ne_nil (c : Char) : encodeChar c ≠ [] := by
  simp only [encodeChar]
  split
  · simp
  · split
    · simp
    · split <;> simp

/-- The bytes after the first one go on the character. -/
theorem isTail_of_mem_tail {b : UInt8} (hb : b ∈ (encodeChar c).tail) : isTail b = true := by
  simp only [encodeChar] at hb
  split at hb
  · cases hb
  · split at hb
    · simp only [List.tail_cons, List.mem_cons, List.not_mem_nil, or_false] at hb
      subst hb
      exact isTail_ofNat (by omega)
    · split at hb
      · simp only [List.tail_cons, List.mem_cons, List.not_mem_nil, or_false] at hb
        rcases hb with rfl | rfl
        · exact isTail_ofNat (by omega)
        · exact isTail_ofNat (by omega)
      · simp only [List.tail_cons, List.mem_cons, List.not_mem_nil, or_false] at hb
        rcases hb with rfl | rfl | rfl
        · exact isTail_ofNat (by omega)
        · exact isTail_ofNat (by omega)
        · exact isTail_ofNat (by omega)

/-- A character that is not basic has no basic byte. -/
theorem high_of_mem_encodeChar (h : 0x80 ≤ c.toNat) {b : UInt8} (hb : b ∈ encodeChar c) :
    0x80 ≤ b := by
  have hall : ∀ n < 256, 0x80 ≤ n → 0x80 ≤ UInt8.ofNat n := by decide +kernel
  have hvalid := valid_toNat c
  simp only [encodeChar, if_neg (show ¬ c.toNat < 0x80 by omega)] at hb
  split at hb
  · simp only [List.mem_cons, List.not_mem_nil, or_false] at hb
    rcases hb with rfl | rfl
    · exact hall _ (by omega) (by omega)
    · exact hall _ (by omega) (by omega)
  · split at hb
    · simp only [List.mem_cons, List.not_mem_nil, or_false] at hb
      rcases hb with rfl | rfl | rfl
      · exact hall _ (by omega) (by omega)
      · exact hall _ (by omega) (by omega)
      · exact hall _ (by omega) (by omega)
    · simp only [List.mem_cons, List.not_mem_nil, or_false] at hb
      rcases hb with rfl | rfl | rfl | rfl
      · exact hall _ (by omega) (by omega)
      · exact hall _ (by omega) (by omega)
      · exact hall _ (by omega) (by omega)
      · exact hall _ (by omega) (by omega)

end Char

section Text

@[simp] theorem encode_nil : encode [] = [] := rfl

theorem encode_cons (c : Char) (cs : List Char) : encode (c :: cs) = encodeChar c ++ encode cs :=
  List.flatMap_cons

theorem encode_append (cs ds : List Char) : encode (cs ++ ds) = encode cs ++ encode ds :=
  List.flatMap_append

/-- A text has at least as many bytes as characters. -/
theorem length_le_length_encode (cs : List Char) : cs.length ≤ (encode cs).length := by
  induction cs with
  | nil => exact Nat.le_refl 0
  | cons c more ih =>
      have hpos := List.length_pos_iff.2 (encodeChar_ne_nil c)
      rw [encode_cons, List.length_append, List.length_cons]
      omega

theorem decodeFrom_encode (cs : List Char) (start : Nat) :
    decodeFrom start (encode cs) = .ok cs := by
  induction cs generalizing start with
  | nil => rw [encode_nil, decodeFrom]; rfl
  | cons c more ih =>
      have hne : (encodeChar c ++ encode more).isEmpty = false := by
        simp [encodeChar_ne_nil]
      obtain ⟨n, hnext⟩ := next_encodeChar c start (encode more)
      rw [encode_cons, decodeFrom, hne]
      simp only [Bool.false_eq_true, if_false]
      split
      · next fault hfault =>
          rw [hnext] at hfault
          cases hfault
      · next c' n' rest' hread =>
          rw [hnext] at hread
          cases hread
          rw [ih]

/-- What is read from the bytes of a text is that text. -/
theorem decode_encode (cs : List Char) : decode (encode cs) = .ok cs :=
  decodeFrom_encode cs 0

/-- Texts of the same bytes are the same. -/
theorem encode_inj {cs ds : List Char} : encode cs = encode ds ↔ cs = ds := by
  refine ⟨fun h => ?_, congrArg encode⟩
  have hdecoded := congrArg decode h
  rw [decode_encode, decode_encode] at hdecoded
  exact Except.ok.inj hdecoded

/-- The bytes of a text that starts with a basic character end those of another text only
where the text ends that one: a basic byte is not part of another character. -/
theorem encode_suffix_iff {c : Char} (hc : c.toNat < 0x80) {ds cs : List Char} :
    encode (c :: ds) <:+ encode cs ↔ (c :: ds) <:+ cs := by
  constructor
  · intro h
    induction cs with
    | nil =>
        have hnil := List.eq_nil_of_suffix_nil h
        rw [encode_cons, encodeChar_of_lt hc] at hnil
        cases hnil
    | cons d rest ih =>
        obtain ⟨front, hfront⟩ := h
        rw [encode_cons d] at hfront
        rcases List.append_eq_append_iff.1 hfront with ⟨as, hd, has⟩ | ⟨bs, -, hbs⟩
        · cases as with
          | nil => exact encode_inj.1 has ▸ List.suffix_cons d rest
          | cons b as =>
              -- the basic byte is one of `d`, so it is all of `d`
              rw [encode_cons, encodeChar_of_lt hc, List.singleton_append] at has
              have hb : b = UInt8.ofNat c.toNat := (List.cons.inj has).1.symm
              have hbasic : d.toNat < 0x80 := by
                refine Nat.lt_of_not_le fun hhigh => ?_
                have hmem : b ∈ encodeChar d := hd ▸ List.mem_append_right front List.mem_cons_self
                have hall : ∀ n < 0x80, ¬ 0x80 ≤ UInt8.ofNat n := by decide
                exact hall c.toNat hc (hb ▸ high_of_mem_encodeChar hhigh hmem)
              have hempty : front = [] := by
                have hlength := congrArg List.length hd
                rw [encodeChar_of_lt hbasic, List.length_append] at hlength
                simp only [List.length_cons, List.length_nil] at hlength
                exact List.length_eq_zero_iff.1 (by omega)
              rw [hempty, List.nil_append, ← encode_cons d] at hfront
              exact encode_inj.1 hfront ▸ List.suffix_refl _
        · exact (ih ⟨bs, hbs.symm⟩).trans (List.suffix_cons d rest)
  · rintro ⟨front, rfl⟩
    rw [encode_append]
    exact List.suffix_append _ _

end Text

end Utf8
end Text
end RequestGuard
