import RequestGuard.Json.Record
import RequestGuard.Proofs.Json.Spelling
import RequestGuard.Proofs.Text.Utf8

/-!
# Readers on texts

What a reader does with a text, wherever the text stands.

* `Ends r cs o rest`: on the characters `cs` the reader answers `o` and leaves `rest`, or
  it answers a fault if `o` is none.  `Reads` and `Fails` are the one case and the other.
* Readers one after the other: `Reads.bind`, `Ends.bind`, `Fails.bind`.
* `Takes r t o`: the reader ends alike on the text `t` of a value, whatever blanks stand
  before it and whatever may follow a value behind it.
* `ofText_of_takes`: so it does on a whole text; `ofText_eq_ok_of_takes` and
  `exists_ofText_eq_error_of_takes` are the one case and the other.
-/

namespace RequestGuard
namespace Json
namespace Reader

open Text

variable {α β γ : Type}

section Laws

instance : LawfulMonad Reader :=
  LawfulMonad.mk' Reader
    (fun r => by
      funext c
      show (match r c with | .ok a c => Outcome.ok a c | .fail fault c => .fail fault c) = r c
      cases r c <;> rfl)
    (fun _ _ => rfl)
    (fun r f g => by
      funext c
      simp only [Bind.bind]
      cases r c <;> rfl)

theorem map_failHere (cause : Cause) (f : α → β) : f <$> failHere cause = failHere cause :=
  rfl

end Laws

section Runs

/-- On the characters `cs` the reader answers `o` and leaves `rest`, or it answers a fault if
`o` is none. -/
def Ends (r : Reader α) (cs : List Char) (o : Option α) (rest : List Char) : Prop :=
  match o with
  | some a => ∀ n, ∃ m, r ⟨Utf8.encode cs, n⟩ = .ok a ⟨Utf8.encode rest, m⟩
  | none => ∀ n, ∃ fault stop, r ⟨Utf8.encode cs, n⟩ = .fail fault stop

/-- On the characters `cs` the reader answers `a` and leaves `rest`. -/
abbrev Reads (r : Reader α) (cs : List Char) (a : α) (rest : List Char) : Prop :=
  Ends r cs (some a) rest

/-- On the characters `cs` the reader answers a fault. -/
abbrev Fails (r : Reader α) (cs : List Char) : Prop :=
  Ends r cs none []

variable {r : Reader α} {f : α → Reader β} {cs mid rest : List Char} {a : α} {o : Option α}

theorem reads_pure (a : α) (cs : List Char) : Reads (pure a) cs a cs :=
  fun n => ⟨n, rfl⟩

theorem fails_failHere (cause : Cause) (cs rest : List Char) :
    Ends (failHere cause : Reader α) cs none rest :=
  fun _ => ⟨_, _, rfl⟩

theorem fails_failNext (cause : Cause) (cs rest : List Char) :
    Ends (failNext cause : Reader α) cs none rest :=
  fun _ => ⟨_, _, rfl⟩

theorem fails_failWithin (cause : Cause) (cs rest : List Char) :
    Ends (failWithin cause : Reader α) cs none rest :=
  fun _ => ⟨_, _, rfl⟩

/-- After a reader that answers, the next one decides. -/
theorem Reads.bind (h : Reads r cs a mid) {o : Option β} (h' : Ends (f a) mid o rest) :
    Ends (r >>= f) cs o rest := by
  have hstep : ∀ n, ∃ m, (r >>= f) ⟨Utf8.encode cs, n⟩ = f a ⟨Utf8.encode mid, m⟩ := by
    intro n
    obtain ⟨m, hm⟩ := h n
    refine ⟨m, ?_⟩
    simp only [Bind.bind, hm]
  cases o with
  | some b =>
      intro n
      obtain ⟨m, hm⟩ := hstep n
      obtain ⟨k, hk⟩ := h' m
      exact ⟨k, hm.trans hk⟩
  | none =>
      intro n
      obtain ⟨m, hm⟩ := hstep n
      obtain ⟨fault, stop, hk⟩ := h' m
      exact ⟨fault, stop, hm.trans hk⟩

/-- A fault ends the reading. -/
theorem Fails.bind (h : Fails r cs) : Ends (r >>= f) cs none rest := by
  intro n
  obtain ⟨fault, stop, hfail⟩ := h n
  refine ⟨fault, stop, ?_⟩
  simp only [Bind.bind, hfail]

theorem Ends.bind (h : Ends r cs o mid) {g : α → Option β}
    (h' : ∀ a, o = some a → Ends (f a) mid (g a) rest) : Ends (r >>= f) cs (o.bind g) rest := by
  cases o with
  | some a => exact Reads.bind h (h' a rfl)
  | none => exact Fails.bind h

theorem Ends.map (h : Ends r cs o rest) (g : α → β) :
    Ends (r >>= fun a => pure (g a)) cs (o.map g) rest := by
  cases o with
  | some a => exact Reads.bind h (reads_pure (g a) rest)
  | none => exact Fails.bind h

/-- A reader whose fuel is counted from the bytes to come. -/
theorem ends_sized {r : Nat → Reader α} {g : Nat → Nat} {o : Option α}
    (h : Ends (r (g (Utf8.encode cs).length)) cs o rest) :
    Ends (fun c => r (g c.rest.length) c) cs o rest := by
  cases o with
  | some a => exact h
  | none => exact h

/-- Whatever is read before, a reader that always fails fails. -/
theorem fails_bind (h : ∀ a c, ∃ fault stop, f a c = .fail fault stop) :
    Ends (r >>= f) cs none rest := by
  intro n
  simp only [Bind.bind]
  cases hr : r ⟨Utf8.encode cs, n⟩ with
  | ok a c => exact h a c
  | fail fault c => exact ⟨fault, c, rfl⟩

end Runs

section Closing

variable {body : Reader α} {finish : Reader Unit} {cs mid rest : List Char} {o : Option α}

/-- A fault stays one when it is given a place. -/
theorem fails_placed {r : Reader α} (h : Fails r cs) : Fails (placed r) cs := by
  intro n
  obtain ⟨fault, stop, hfail⟩ := h n
  exact ⟨_, _, by simp only [placed, hfail]; rfl⟩

theorem reads_placed {r : Reader α} {a : α} (h : Reads r cs a rest) :
    Reads (placed r) cs a rest := by
  intro n
  obtain ⟨m, hm⟩ := h n
  exact ⟨m, by simp only [placed, hm]⟩

theorem ends_placed {r : Reader α} (h : Ends r cs o rest) : Ends (placed r) cs o rest := by
  cases o with
  | some a => exact reads_placed h
  | none => exact fails_placed h

/-- A body and its end: a fault of either is one of the whole. -/
theorem ends_closedBy (h : Ends body cs o mid) (h' : Reads finish mid () rest) :
    Ends (closedBy body finish) cs o rest := by
  refine ends_placed ?_
  cases o with
  | some a =>
      intro n
      obtain ⟨m, hm⟩ := h n
      obtain ⟨k, hk⟩ := h' m
      refine ⟨k, ?_⟩
      simp only [hm, Bind.bind, hk]
      rfl
  | none =>
      intro n
      obtain ⟨fault, stop, hfail⟩ := h n
      simp only [hfail]
      cases hf : finish stop with
      | ok u c => exact ⟨fault, c, rfl⟩
      | fail fault' c => exact ⟨fault, c, rfl⟩

/-- A body that leaves something before the end of the whole makes a fault. -/
theorem fails_closedBy {a : α} (h : Reads body cs a mid) (h' : Fails finish mid) :
    Fails (closedBy body finish) cs := by
  refine fails_placed ?_
  intro n
  obtain ⟨m, hm⟩ := h n
  obtain ⟨fault, stop, hfail⟩ := h' m
  refine ⟨fault, stop, ?_⟩
  simp only [hm, Bind.bind, hfail]

end Closing

section Bytes

variable {c : Char} {cs : List Char}

theorem encode_cons_of_lt (h : c.toNat < 128) :
    Utf8.encode (c :: cs) = byte c :: Utf8.encode cs := by
  rw [Utf8.encode_cons, Utf8.encodeChar_of_lt h]
  rfl

theorem toNat_byte (h : c.toNat < 128) : (byte c).toNat = c.toNat :=
  Utf8.toNat_ofNat (by omega)

theorem byte_eq_iff {d : Char} (hc : c.toNat < 128) (hd : d.toNat < 128) :
    byte c = byte d ↔ c = d := by
  rw [← UInt8.toNat_inj, toNat_byte hc, toNat_byte hd, Char.toNat_inj]

theorem reads_peek (h : c.toNat < 128) : Reads peek (c :: cs) (some (byte c)) (c :: cs) := by
  intro n
  refine ⟨n, ?_⟩
  rw [peek, encode_cons_of_lt h]
  rfl

theorem reads_peek_nil : Reads peek [] none [] :=
  fun n => ⟨n, rfl⟩

theorem reads_next (h : c.toNat < 128) : Reads next (c :: cs) (some (byte c)) cs := by
  intro n
  refine ⟨n + 1, ?_⟩
  rw [next, encode_cons_of_lt h]

theorem reads_skip (h : c.toNat < 128) : Reads skip (c :: cs) () cs :=
  (reads_next h).bind (reads_pure () cs)

theorem reads_nextIs (p : UInt8 → Bool) (h : c.toNat < 128) :
    Reads (nextIs p) (c :: cs) (p (byte c)) (c :: cs) := by
  intro n
  refine ⟨n, ?_⟩
  rw [nextIs, encode_cons_of_lt h]
  rfl

/-- The bytes of a property end where the next character does not have it. -/
theorem reads_run {p : UInt8 → Bool} {ds rest : List Char}
    (hds : ∀ d ∈ ds, d.toNat < 128 ∧ p (byte d) = true)
    (hrest : ∀ c, rest.head? = some c → c.toNat < 128 ∧ p (byte c) = false) :
    Reads (run p) (ds ++ rest) (ds.map byte) rest := by
  have hbytes : Utf8.encode ds = ds.map byte := by
    induction ds with
    | nil => rfl
    | cons d more ih =>
        rw [encode_cons_of_lt (hds d List.mem_cons_self).1,
          ih fun e he => hds e (List.mem_cons_of_mem _ he)]
        rfl
  have hall : ∀ b ∈ ds.map byte, p b = true := by
    intro b hb
    obtain ⟨d, hd, rfl⟩ := List.mem_map.1 hb
    exact (hds d hd).2
  have hhead : ∀ b, (Utf8.encode rest).head? = some b → p b = false := by
    intro b hb
    cases rest with
    | nil => cases hb
    | cons c more =>
        obtain ⟨hlt, hc⟩ := hrest c rfl
        rw [encode_cons_of_lt hlt] at hb
        obtain rfl := Option.some.inj hb
        exact hc
  have htake : (Utf8.encode rest).takeWhile p = [] := by
    cases h : Utf8.encode rest with
    | nil => rfl
    | cons b more =>
        rw [List.takeWhile_cons_of_neg]
        rw [hhead b (by rw [h]; rfl)]
        simp
  have hdrop : (Utf8.encode rest).dropWhile p = Utf8.encode rest := by
    cases h : Utf8.encode rest with
    | nil => rfl
    | cons b more =>
        rw [List.dropWhile_cons_of_neg]
        rw [hhead b (by rw [h]; rfl)]
        simp
  intro n
  refine ⟨n + (ds.map byte).length, ?_⟩
  simp only [run, Utf8.encode_append, hbytes, List.takeWhile_append_of_pos hall,
    List.dropWhile_append_of_pos hall, htake, hdrop, List.append_nil]

end Bytes

section Blank

theorem blank_of_isBlankChar {c : Char} (h : isBlankChar c = true) :
    c.toNat < 128 ∧ isBlank (byte c) = true := by
  have hall : ∀ c ∈ [' ', '\n', '\t', '\r'], c.toNat < 128 ∧ isBlank (byte c) = true := by decide
  exact hall c (by simpa [isBlankChar] using h)

/-- A character that is one byte and no blank. -/
def IsSign (c : Char) : Prop :=
  c.toNat < 128 ∧ isBlank (byte c) = false

instance (c : Char) : Decidable (IsSign c) :=
  inferInstanceAs (Decidable (_ ∧ _))

variable {c : Char} {cs : List Char}

theorem reads_afterBlanks (ws : Blanks) (h : IsSign c) :
    Reads afterBlanks (ws.chars ++ c :: cs) (some (byte c)) (c :: cs) := by
  refine Reads.bind (reads_run (fun d hd => blank_of_isBlankChar (ws.blank d hd)) ?_)
    (reads_peek h.1)
  intro d hd
  obtain rfl := Option.some.inj hd
  exact h

theorem reads_afterBlanks_nil (ws : Blanks) : Reads afterBlanks ws.chars none [] := by
  have hrun : Reads (run isBlank) (ws.chars ++ []) (ws.chars.map byte) [] :=
    reads_run (fun d hd => blank_of_isBlankChar (ws.blank d hd)) fun d hd => (nomatch hd)
  rw [List.append_nil] at hrun
  exact hrun.bind reads_peek_nil

/-- A value is told by its first character. -/
theorem ends_byFirst (ws : Blanks) (h : IsSign c) {read : UInt8 → Reader α} {o : Option α}
    {rest : List Char} (hread : Ends (read (byte c)) (c :: cs) o rest) :
    Ends (byFirst read) (ws.chars ++ c :: cs) o rest :=
  (reads_afterBlanks ws h).bind hread

theorem reads_colon (ws : Blanks) (cs : List Char) :
    Reads colon (ws.chars ++ ':' :: cs) () cs :=
  (reads_afterBlanks ws (by decide)).bind (reads_skip (by decide))

end Blank

section Words

theorem reads_word {letters : List Char} (h : ∀ c ∈ letters, c.toNat < 128) (rest : List Char) :
    Reads (word letters) (letters ++ rest) () rest := by
  induction letters with
  | nil => exact reads_pure () rest
  | cons c more ih =>
      refine (reads_next (h c List.mem_cons_self)).bind ?_
      show Ends (if byte c = byte c then word more else failHere .wordExpected) _ (some ()) _
      rw [if_pos rfl]
      exact ih fun d hd => h d (List.mem_cons_of_mem _ hd)

end Words

section Values

/-- The characters that may follow a value. -/
def stops : List Char :=
  [' ', '\n', '\t', '\r', ',', ']', '\x7d']

/-- What may follow a value. -/
def Stops (rest : List Char) : Prop :=
  ∀ c, rest.head? = some c → c ∈ stops

theorem stops_nil : Stops [] :=
  fun _ h => nomatch h

theorem stops_cons {c : Char} (h : c ∈ stops) (cs : List Char) : Stops (c :: cs) :=
  fun _ hc => Option.some.inj hc ▸ h

/-- Blanks may follow a value, and behind them what may follow it. -/
theorem stops_blanks (ws : Blanks) {cs : List Char} (h : Stops cs) : Stops (ws.chars ++ cs) := by
  intro c hc
  cases hws : ws.chars with
  | nil =>
      rw [hws] at hc
      exact h c hc
  | cons d more =>
      rw [hws] at hc
      obtain rfl : d = c := Option.some.inj hc
      have hblank := ws.blank d (by rw [hws]; exact List.mem_cons_self)
      have hall : ∀ c ∈ [' ', '\n', '\t', '\r'], c ∈ stops := by decide
      exact hall d (by simpa [isBlankChar] using hblank)

/-- What may follow a value has no property that none of these characters has. -/
theorem Stops.not {p : UInt8 → Bool} (hp : ∀ c ∈ stops, p (byte c) = false) {rest : List Char}
    (h : Stops rest) (c : Char) (hc : rest.head? = some c) :
    c.toNat < 128 ∧ p (byte c) = false := by
  have hall : ∀ c ∈ stops, c.toNat < 128 := by decide
  exact ⟨hall c (h c hc), hp c (h c hc)⟩

theorem Stops.reads_nextIs {p : UInt8 → Bool} (hp : ∀ c ∈ stops, p (byte c) = false)
    {rest : List Char} (h : Stops rest) : Reads (nextIs p) rest false rest := by
  cases rest with
  | nil => exact fun n => ⟨n, rfl⟩
  | cons c more =>
      obtain ⟨hlt, hc⟩ := h.not hp c rfl
      rw [← hc]
      exact Reader.reads_nextIs p hlt

/-- The reader ends with `o` on the text `t` of a value, whatever blanks stand before it and
whatever may follow a value behind it. -/
def Takes (r : Reader α) (t : List Char) (o : Option α) : Prop :=
  ∀ (ws : Blanks) (rest : List Char), Stops rest → Ends r (ws.chars ++ (t ++ rest)) o rest

theorem Takes.map {r : Reader α} {t : List Char} {o : Option α} (h : Takes r t o) (g : α → β) :
    Takes (r >>= fun a => pure (g a)) t (o.map g) :=
  fun ws rest hrest => (h ws rest hrest).map g

theorem takes_byFirst {c : Char} (hc : IsSign c) {t : List Char} {read : UInt8 → Reader α}
    {o : Option α} (h : ∀ rest, Stops rest → Ends (read (byte c)) (c :: (t ++ rest)) o rest) :
    Takes (byFirst read) (c :: t) o :=
  fun ws rest hrest => ends_byFirst ws hc (h rest hrest)

/-- A value with nothing behind it. -/
def whole (r : Reader α) : Reader α := do
  let a ← r
  match ← afterBlanks with
  | none => pure a
  | some _ => failNext .textTrailing

theorem ofText_eq (r : Reader α) (text : List UInt8) :
    r.ofText text =
      match whole r ⟨text, 0⟩ with
      | .ok a _ => .ok a
      | .fail fault _ => .error fault :=
  rfl

/-- On a text that is nothing but a value between blanks the reader ends alike. -/
theorem ofText_of_takes {r : Reader α} {t : List Char} {o : Option α} (h : Takes r t o)
    (ws ws' : Blanks) :
    (r.ofText (Utf8.encode (ws.chars ++ (t ++ ws'.chars)))).toOption = o := by
  have hstops : Stops ws'.chars := by
    have := stops_blanks ws' stops_nil
    rwa [List.append_nil] at this
  have hvalue := h ws ws'.chars hstops
  rw [ofText_eq]
  cases o with
  | none =>
      have hends : Fails (whole r) (ws.chars ++ (t ++ ws'.chars)) := Fails.bind hvalue
      obtain ⟨fault, stop, hfail⟩ := hends 0
      rw [hfail]
      rfl
  | some a =>
      have hends : Reads (whole r) (ws.chars ++ (t ++ ws'.chars)) a [] := by
        refine Reads.bind hvalue (Reads.bind (reads_afterBlanks_nil ws') ?_)
        exact reads_pure a []
      obtain ⟨m, hm⟩ := hends 0
      rw [hm]
      rfl

theorem ofText_eq_ok_of_takes {r : Reader α} {t : List Char} {a : α} (h : Takes r t (some a))
    (ws ws' : Blanks) : r.ofText (Utf8.encode (ws.chars ++ (t ++ ws'.chars))) = .ok a := by
  have hread := ofText_of_takes h ws ws'
  cases hr : r.ofText (Utf8.encode (ws.chars ++ (t ++ ws'.chars))) with
  | error fault =>
      rw [hr] at hread
      cases hread
  | ok b =>
      rw [hr] at hread
      cases hread
      rfl

theorem exists_ofText_eq_error_of_takes {r : Reader α} {t : List Char} (h : Takes r t none)
    (ws ws' : Blanks) :
    ∃ fault, r.ofText (Utf8.encode (ws.chars ++ (t ++ ws'.chars))) = .error fault := by
  have hread := ofText_of_takes h ws ws'
  cases hr : r.ofText (Utf8.encode (ws.chars ++ (t ++ ws'.chars))) with
  | error fault => exact ⟨fault, rfl⟩
  | ok a =>
      rw [hr] at hread
      cases hread

end Values

end Reader
end Json
end RequestGuard
