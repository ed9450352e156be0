import RequestGuard.Proofs.Json.Reading

/-!
# Reading and passing texts

* `reads_text`: from any of its spellings a text is read as itself.
* `reads_passText`: any text that may be written is passed.
-/

namespace RequestGuard
namespace Json
namespace Reader

open Text

section Escapes

theorem toNat_of_isSome_hexValue? {d : Char} (h : (hexValue? d).isSome = true) :
    d.toNat < 128 := by
  rw [hexValue?] at h
  split at h
  · next hd =>
      have := (isDigit_iff d).1 hd
      omega
  · split at h
    · next hd =>
        have hle : d.toNat ≤ 102 := (le_iff_toNat_le d 'f').1 hd.2
        omega
    · split at h
      · next hd =>
          have hle : d.toNat ≤ 70 := (le_iff_toNat_le d 'F').1 hd.2
          omega
      · cases h

theorem reads_fourDigits {ds : List Char} (h : FourDigits ds) (rest : List Char) :
    Reads fourDigits (ds ++ rest) (hexNumber ds) rest := by
  obtain ⟨a, b, c, d, rfl⟩ := h.exists_four
  have hdigit : ∀ x ∈ [a, b, c, d], x.toNat < 128 ∧ Char.ofNat (byte x).toNat = x := by
    intro x hx
    have hlt := toNat_of_isSome_hexValue? (h.digit x hx)
    exact ⟨hlt, by rw [toNat_byte hlt, Char.ofNat_toNat]⟩
  obtain ⟨ha, ha'⟩ := hdigit a (by simp)
  obtain ⟨hb, hb'⟩ := hdigit b (by simp)
  obtain ⟨hc, hc'⟩ := hdigit c (by simp)
  obtain ⟨hd, hd'⟩ := hdigit d (by simp)
  have hall : ([a, b, c, d].map hexValue?).all Option.isSome = true := by
    simpa using h.digit
  have hbytes : Utf8.encode ([a, b, c, d] ++ rest) =
      byte a :: byte b :: byte c :: byte d :: Utf8.encode rest := by
    simp only [List.cons_append, List.nil_append, encode_cons_of_lt ha, encode_cons_of_lt hb,
      encode_cons_of_lt hc, encode_cons_of_lt hd]
  intro n
  refine ⟨n + 1 + 1 + 1 + 1, ?_⟩
  simp only [List.map] at hall
  simp only [hbytes, fourDigits, skip, next, Bind.bind, pure, List.map, ha', hb', hc', hd', hall]
  rfl

/-- What a letter after a backslash stands for. -/
theorem of_mem_shortEscapes {letter c : Char} (h : (letter, c) ∈ shortEscapes) :
    letter.toNat < 128 ∧ byte letter ≠ byte 'u' ∧ plainEscape? (byte letter) = some c := by
  have hall : ∀ e ∈ shortEscapes, e.1.toNat < 128 ∧ byte e.1 ≠ byte 'u' ∧
      plainEscape? (byte e.1) = some e.2 := by decide
  exact hall (letter, c) h

theorem reads_pairByte {c : Char} (h : c.toNat < 128) (cs : List Char) :
    Reads (pairByte c) (c :: cs) () cs := by
  refine Reads.bind (reads_peek h) (Reads.bind (reads_skip h) ?_)
  show Ends (if byte c = byte c then pure () else failHere .escapeUnfinished) _ _ _
  rw [if_pos rfl]
  exact reads_pure () cs

theorem reads_numberedChar {c : Char} {ds : List Char} (h : FourDigits ds)
    (hvalue : hexNumber ds = c.toNat) (rest : List Char) :
    Reads numberedChar (ds ++ rest) c rest := by
  have hvalid := Utf8.valid_toNat c
  refine Reads.bind (reads_fourDigits h rest) ?_
  simp only [hvalue]
  rw [if_neg (by omega), if_pos (by omega), Char.ofNat_toNat]
  exact reads_pure c rest

theorem reads_numberedChar_pair {c : Char} {high low : List Char} (hc : 0x10000 ≤ c.toNat)
    (hhigh : FourDigits high) (hlow : FourDigits low)
    (hvalue : hexNumber high = 0xD800 + (c.toNat - 0x10000) / 0x400)
    (hvalue' : hexNumber low = 0xDC00 + (c.toNat - 0x10000) % 0x400) (rest : List Char) :
    Reads numberedChar (high ++ '\\' :: 'u' :: (low ++ rest)) c rest := by
  have hvalid := Utf8.valid_toNat c
  refine Reads.bind (reads_fourDigits hhigh _) ?_
  simp only [hvalue]
  rw [if_neg (by omega), if_neg (by omega)]
  refine Reads.bind (reads_pairByte (by decide) _) ?_
  refine Reads.bind (reads_pairByte (by decide) _) ?_
  refine Reads.bind (reads_fourDigits hlow rest) ?_
  simp only [hvalue']
  have hback : (0xD800 + (c.toNat - 0x10000) / 0x400 - 0xD800) * 0x400 +
      (0xDC00 + (c.toNat - 0x10000) % 0x400 - 0xDC00) + 0x10000 = c.toNat := by omega
  rw [if_neg (by omega), hback, Char.ofNat_toNat]
  exact reads_pure c rest

theorem reads_escape_short {letter c : Char} (h : (letter, c) ∈ shortEscapes)
    (rest : List Char) : Reads escape (letter :: rest) c rest := by
  obtain ⟨hlt, hne, hescape⟩ := of_mem_shortEscapes h
  refine Reads.bind (reads_next hlt) ?_
  simp only [if_neg hne, hescape]
  exact reads_pure c rest

/-- An escape of four digits or of two times four is read after its letter. -/
theorem reads_escape_numbered {c : Char} {ds rest : List Char}
    (h : Reads numberedChar ds c rest) : Reads escape ('u' :: ds) c rest := by
  refine Reads.bind (reads_next (by decide)) ?_
  simp only [if_true]
  exact h

theorem reads_passEscape {piece : List Char} (h : ValidPiece ('\\' :: piece))
    (rest : List Char) : Reads passEscape (piece ++ rest) () rest := by
  generalize hwhole : '\\' :: piece = t at h
  cases h with
  | plain h =>
      obtain ⟨rfl, -⟩ := List.cons.inj hwhole
      exact absurd rfl h.2.2
  | short h =>
      obtain ⟨-, rfl⟩ := List.cons.inj hwhole
      obtain ⟨hlt, hne, hescape⟩ := of_mem_shortEscapes h
      refine Reads.bind (reads_next hlt) ?_
      simp only [if_neg hne, hescape, Option.isSome_some, if_true]
      exact reads_pure () rest
  | numbered h =>
      obtain ⟨-, rfl⟩ := List.cons.inj hwhole
      refine Reads.bind (reads_next (by decide)) ?_
      simp only [if_true]
      exact Reads.bind (reads_fourDigits h rest) (reads_pure () rest)

end Escapes

section Plain

theorem isPlain_of_mem_encodeChar {c : Char} (h : IsPlainChar c) {b : UInt8}
    (hb : b ∈ Utf8.encodeChar c) : isPlain b = true := by
  by_cases hlt : c.toNat < 128
  · rw [Utf8.encodeChar_of_lt hlt] at hb
    obtain rfl : b = byte c := List.mem_singleton.1 hb
    have hquote : byte c ≠ byte '"' := fun e => h.2.1 ((byte_eq_iff hlt (by decide)).1 e)
    have hslash : byte c ≠ byte '\\' := fun e => h.2.2 ((byte_eq_iff hlt (by decide)).1 e)
    have hle : 32 ≤ byte c := by
      rw [UInt8.le_iff_toNat_le, toNat_byte hlt]
      exact h.1
    simp [isPlain, hle, hquote, hslash]
  · have hall : ∀ n < 256, 128 ≤ n → isPlain (UInt8.ofNat n) = true := by decide +kernel
    have hhigh := Utf8.high_of_mem_encodeChar (by omega) hb
    have hback := hall b.toNat (UInt8.toNat_lt b) (UInt8.le_iff_toNat_le.1 hhigh)
    rwa [UInt8.ofNat_toNat] at hback

theorem takeWhile_plain {c : Char} (h : IsPlainChar c) (bs : List UInt8) :
    (Utf8.encodeChar c ++ bs).takeWhile isPlain = Utf8.encodeChar c ++ bs.takeWhile isPlain :=
  List.takeWhile_append_of_pos fun _ hb => isPlain_of_mem_encodeChar h hb

theorem dropWhile_plain {c : Char} (h : IsPlainChar c) (bs : List UInt8) :
    (Utf8.encodeChar c ++ bs).dropWhile isPlain = bs.dropWhile isPlain :=
  List.dropWhile_append_of_pos fun _ hb => isPlain_of_mem_encodeChar h hb

/-- A quote or a backslash does not stand for itself. -/
theorem reads_run_isPlain {c : Char} (h : c.toNat < 128) (hplain : isPlain (byte c) = false)
    (cs : List Char) : Reads (run isPlain) (c :: cs) [] (c :: cs) := by
  have hnone : ∀ d ∈ ([] : List Char), d.toNat < 128 ∧ isPlain (byte d) = true :=
    List.forall_mem_nil _
  refine reads_run hnone fun d hd => ?_
  obtain rfl := Option.some.inj hd
  exact ⟨h, hplain⟩

end Plain

section Reading

/-- The bytes behind those that stand for themselves. -/
def behindPlain (fuel : Nat) : Reader (List UInt8) := do
  match ← peek with
  | none => failHere .stringUnclosed
  | some b =>
    if b = byte '"' then pure []
    else if b = byte '\\' then
      skip
      let c ← escape
      let more ← textBytes fuel
      pure (Utf8.encodeChar c ++ more)
    else
      skip
      failHere .controlCharacter

/-- Bytes that stand for themselves are only put in front of those behind them. -/
theorem textBytes_succ (fuel : Nat) :
    textBytes (fuel + 1) =
      run isPlain >>= fun plain => behindPlain fuel >>= fun bs => pure (plain ++ bs) := by
  rw [textBytes]
  refine bind_congr fun plain => ?_
  rw [behindPlain, bind_assoc]
  refine bind_congr fun b? => ?_
  cases b? with
  | none => rfl
  | some b =>
      by_cases hquote : b = byte '"'
      · simp [hquote]
      · by_cases hslash : b = byte '\\'
        · simp [hslash, show byte '\\' ≠ byte '"' by decide]
        · simp [hquote, hslash, map_failHere]

theorem reads_textBytes_plain {c : Char} (h : IsPlainChar c) {fuel : Nat} {cs rest : List Char}
    {bs : List UInt8} (hmore : Reads (textBytes (fuel + 1)) cs bs rest) :
    Reads (textBytes (fuel + 1)) (c :: cs) (Utf8.encodeChar c ++ bs) rest := by
  intro n
  rw [textBytes_succ] at hmore ⊢
  obtain ⟨m, hm⟩ := hmore (n + (Utf8.encodeChar c).length)
  refine ⟨m, ?_⟩
  simp only [Bind.bind, run, Utf8.encode_cons, takeWhile_plain h, dropWhile_plain h,
    List.length_append, ← Nat.add_assoc] at hm ⊢
  cases hb : behindPlain fuel _ with
  | fail fault stop => simp [hb] at hm
  | ok more stop =>
      simp only [hb, pure, Outcome.ok.injEq] at hm ⊢
      rw [List.append_assoc, hm.1]
      exact ⟨rfl, hm.2⟩

theorem reads_textBytes_escape {c : Char} {fuel : Nat} {t mid rest : List Char}
    {bs : List UInt8} (h : Reads escape t c mid) (hmore : Reads (textBytes fuel) mid bs rest) :
    Reads (textBytes (fuel + 1)) ('\\' :: t) (Utf8.encodeChar c ++ bs) rest := by
  have hbehind : Reads (behindPlain fuel) ('\\' :: t) (Utf8.encodeChar c ++ bs) rest := by
    refine Reads.bind (reads_peek (by decide)) ?_
    show Ends (if byte '\\' = byte '"' then _ else if byte '\\' = byte '\\' then _ else _) _ _ _
    rw [if_neg (by decide), if_pos rfl]
    refine Reads.bind (reads_skip (by decide)) (Reads.bind h (Reads.bind hmore ?_))
    exact reads_pure _ rest
  rw [textBytes_succ]
  refine Reads.bind (reads_run_isPlain (by decide) (by decide) t) (Reads.bind hbehind ?_)
  exact reads_pure _ rest

theorem reads_textBytes_quote (fuel : Nat) (rest : List Char) :
    Reads (textBytes (fuel + 1)) ('"' :: rest) [] ('"' :: rest) := by
  have hbehind : Reads (behindPlain fuel) ('"' :: rest) [] ('"' :: rest) :=
    Reads.bind (reads_peek (by decide)) (reads_pure _ _)
  rw [textBytes_succ]
  refine Reads.bind (reads_run_isPlain (by decide) (by decide) rest) (Reads.bind hbehind ?_)
  exact reads_pure _ _

/-- The bytes of a text are read up to its closing quote.  Fuel is taken by escapes only. -/
theorem reads_textBytes {cs body : List Char} (h : SpellsChars cs body) (rest : List Char)
    {fuel : Nat} (hfuel : body.length < fuel) :
    Reads (textBytes fuel) (body ++ '"' :: rest) (Utf8.encode cs) ('"' :: rest) := by
  induction h generalizing fuel with
  | nil =>
      obtain ⟨fuel, rfl⟩ := Nat.exists_eq_add_of_lt hfuel
      exact reads_textBytes_quote _ rest
  | @cons c cs t ts h hmore ih =>
      obtain ⟨fuel, rfl⟩ : ∃ k, fuel = k + 1 := ⟨fuel - 1, by omega⟩
      rw [List.length_append] at hfuel
      rw [List.append_assoc, Utf8.encode_cons]
      cases h with
      | plain h => exact reads_textBytes_plain h (ih (by omega))
      | short h =>
          refine reads_textBytes_escape (reads_escape_short h _) (ih ?_)
          simp only [List.length_cons] at hfuel
          omega
      | numbered h hvalue =>
          refine reads_textBytes_escape (reads_escape_numbered ?_) (ih ?_)
          · exact reads_numberedChar h hvalue _
          · simp only [List.length_cons] at hfuel
            omega
      | pair hc hhigh hlow hvalue hvalue' =>
          have hpair := reads_numberedChar_pair hc hhigh hlow hvalue hvalue' (ts ++ '"' :: rest)
          refine reads_textBytes_escape (reads_escape_numbered ?_) (ih ?_)
          · simpa using hpair
          · simp only [List.length_cons] at hfuel
            omega

/-- A text whose bytes are counted by fuel. -/
def textWithin (fuel : Nat) : Reader String := do
  let bytes ← textBytes fuel
  match Utf8.decode bytes with
  | .error _ => failHere .characterInvalid
  | .ok cs =>
    skip
    pure (String.ofList cs)

/-- From any of its spellings a text is read as itself. -/
theorem reads_text {s : String} {body : List Char} (h : SpellsChars s.toList body)
    (rest : List Char) : Reads text (body ++ '"' :: rest) s rest := by
  have hlength : body.length < (Utf8.encode (body ++ '"' :: rest)).length + 1 := by
    have := Utf8.length_le_length_encode (body ++ '"' :: rest)
    rw [List.length_append] at this
    omega
  show Reads (fun c => textWithin (c.rest.length + 1) c) _ _ _
  refine ends_sized (g := (· + 1)) ?_
  rw [textWithin]
  refine Reads.bind (reads_textBytes h rest hlength) ?_
  rw [Utf8.decode_encode]
  refine Reads.bind (reads_skip (by decide)) ?_
  rw [String.ofList_toList]
  exact reads_pure s rest

end Reading

section Passing

theorem reads_passTextFrom_plain {c : Char} (h : IsPlainChar c) {fuel : Nat}
    {cs rest : List Char} (hmore : Reads (passTextFrom (fuel + 1)) cs () rest) :
    Reads (passTextFrom (fuel + 1)) (c :: cs) () rest := by
  intro n
  rw [passTextFrom] at hmore ⊢
  obtain ⟨m, hm⟩ := hmore (n + (Utf8.encodeChar c).length)
  refine ⟨m, ?_⟩
  simp only [Bind.bind, run, Utf8.encode_cons, takeWhile_plain h, dropWhile_plain h,
    List.length_append, ← Nat.add_assoc] at hm ⊢
  exact hm

theorem reads_passTextFrom_escape {fuel : Nat} {t mid rest : List Char}
    (h : Reads passEscape t () mid) (hmore : Reads (passTextFrom fuel) mid () rest) :
    Reads (passTextFrom (fuel + 1)) ('\\' :: t) () rest := by
  rw [passTextFrom]
  refine Reads.bind (reads_run_isPlain (by decide) (by decide) t) ?_
  refine Reads.bind (reads_peek (by decide)) ?_
  simp only [show byte '\\' ≠ byte '"' by decide, if_false, if_true]
  exact Reads.bind (reads_skip (by decide)) (Reads.bind h hmore)

theorem reads_passTextFrom_quote (fuel : Nat) (rest : List Char) :
    Reads (passTextFrom (fuel + 1)) ('"' :: rest) () rest := by
  rw [passTextFrom]
  refine Reads.bind (reads_run_isPlain (by decide) (by decide) rest) ?_
  refine Reads.bind (reads_peek (by decide)) ?_
  simp only [if_true]
  exact reads_skip (by decide)

theorem reads_passTextFrom {pieces : List (List Char)} (h : ∀ p ∈ pieces, ValidPiece p)
    (rest : List Char) {fuel : Nat} (hfuel : pieces.length < fuel) :
    Reads (passTextFrom fuel) (pieces.flatten ++ '"' :: rest) () rest := by
  induction pieces generalizing fuel with
  | nil =>
      obtain ⟨fuel, rfl⟩ := Nat.exists_eq_add_of_lt hfuel
      exact reads_passTextFrom_quote _ rest
  | cons piece more ih =>
      obtain ⟨fuel, rfl⟩ : ∃ k, fuel = k + 1 := ⟨fuel - 1, by omega⟩
      have hmore := fun q hq => h q (List.mem_cons_of_mem _ hq)
      have hpiece := h piece List.mem_cons_self
      rw [List.length_cons] at hfuel
      rw [List.flatten_cons, List.append_assoc]
      cases hpiece with
      | plain hc => exact reads_passTextFrom_plain hc (ih hmore (by omega))
      | short hc =>
          exact reads_passTextFrom_escape (reads_passEscape (.short hc) _) (ih hmore (by omega))
      | numbered hc =>
          exact reads_passTextFrom_escape (reads_passEscape (.numbered hc) _)
            (ih hmore (by omega))

theorem length_le_length_flatten {pieces : List (List Char)}
    (h : ∀ p ∈ pieces, ValidPiece p) : pieces.length ≤ pieces.flatten.length := by
  induction pieces with
  | nil => exact Nat.le_refl 0
  | cons piece more ih =>
      have hpos : 0 < piece.length := by
        cases h piece List.mem_cons_self <;> simp
      have hmore := ih fun q hq => h q (List.mem_cons_of_mem _ hq)
      rw [List.flatten_cons, List.length_append, List.length_cons]
      omega

/-- Any text that may be written is passed. -/
theorem reads_passText {t : List Char} (h : ValidText t) :
    ∃ body, t = '"' :: body ∧ ∀ rest, Reads passText (body ++ rest) () rest := by
  obtain ⟨pieces, hpieces, rfl⟩ := h
  refine ⟨pieces.flatten ++ ['"'], rfl, fun rest => ?_⟩
  rw [List.append_assoc, List.singleton_append]
  have hlength := length_le_length_flatten hpieces
  have hbytes := Utf8.length_le_length_encode (pieces.flatten ++ '"' :: rest)
  rw [List.length_append] at hbytes
  exact ends_sized (r := passTextFrom) (g := (· + 1))
    (reads_passTextFrom hpieces rest (by omega))

end Passing

end Reader
end Json
end RequestGuard
