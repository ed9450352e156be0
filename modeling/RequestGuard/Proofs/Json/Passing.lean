import RequestGuard.Proofs.Json.Containers

/-!
# Passing values

`takes_anything`: a value of any kind is passed, whatever it holds.
-/

namespace RequestGuard
namespace Json
namespace Reader

open Text

section Values

/-- Passes a value that starts with a given byte. -/
def passFrom (fuel : Nat) (b : UInt8) : Reader Unit :=
  if b = byte 'n' then do
    skip
    word "ull".toList
  else if b = byte 't' then do
    skip
    word "rue".toList
  else if b = byte 'f' then do
    skip
    word "alse".toList
  else if b = byte '-' then do
    skip
    passNumber
  else if isDigit b then passNumber
  else if b = byte '"' then do
    skip
    passText
  else if b = byte '[' then do
    skip
    passItems fuel true
  else if b = byte '\x7b' then do
    skip
    passMembers fuel true
  else failNext .valueExpected

/-- A value is told by its first character, after any blanks. -/
theorem reads_passValue_first (ws : Blanks) {c : Char} {cs rest : List Char} {fuel : Nat}
    (hc : IsSign c) (h : Reads (passFrom fuel (byte c)) (c :: cs) () rest) :
    Reads (passValue (fuel + 1)) (ws.chars ++ c :: cs) () rest := by
  rw [passValue]
  exact Reads.bind (reads_afterBlanks ws hc) h

theorem reads_passValue_word (ws : Blanks) {t : List Char} (h : t ∈ words) (rest : List Char)
    (fuel : Nat) : Reads (passValue (fuel + 1)) (ws.chars ++ (t ++ rest)) () rest := by
  simp only [words, List.mem_cons, List.not_mem_nil, or_false] at h
  rcases h with rfl | rfl | rfl
  · refine reads_passValue_first ws (c := 'n') (by decide) ?_
    rw [passFrom, if_pos rfl]
    exact Reads.bind (reads_skip (by decide)) (reads_word (by decide) rest)
  · refine reads_passValue_first ws (c := 't') (by decide) ?_
    rw [passFrom, if_neg (by decide), if_pos rfl]
    exact Reads.bind (reads_skip (by decide)) (reads_word (by decide) rest)
  · refine reads_passValue_first ws (c := 'f') (by decide) ?_
    rw [passFrom, if_neg (by decide), if_neg (by decide), if_pos rfl]
    exact Reads.bind (reads_skip (by decide)) (reads_word (by decide) rest)

theorem reads_passValue_number (ws : Blanks) {t rest : List Char} (h : ValidNumber t)
    (hrest : Stops rest) (fuel : Nat) :
    Reads (passValue (fuel + 1)) (ws.chars ++ (t ++ rest)) () rest := by
  obtain ⟨sign, whole, fraction, exponent, hsign, hwhole, hfraction, hexponent, rfl⟩ := h
  have hpass := reads_passNumber hwhole hfraction hexponent hrest
  simp only [List.append_assoc]
  rcases hsign with rfl | rfl
  · obtain ⟨d, ds, hcons, hd⟩ : ∃ d ds, whole = d :: ds ∧ Text.isDigit d = true := by
      rcases hwhole with rfl | ⟨⟨hne, hds⟩, -⟩
      · exact ⟨'0', [], rfl, by decide⟩
      · obtain ⟨d, ds, rfl⟩ := List.exists_cons_of_ne_nil hne
        exact ⟨d, ds, rfl, hds d List.mem_cons_self⟩
    rw [hcons] at hpass ⊢
    obtain ⟨hlt, hdigit, -⟩ := of_isDigit hd
    have hsign := (isSign_of_mem_starters (mem_starters_of_isDigit hd)).1
    have hrange := (isDigit_iff d).1 hd
    have hne : ∀ c : Char, c.toNat < 128 → (c.toNat < 48 ∨ 57 < c.toNat) → byte d ≠ byte c := by
      intro c hc hout heq
      obtain rfl := (byte_eq_iff hlt hc).1 heq
      omega
    refine reads_passValue_first ws hsign ?_
    rw [passFrom, if_neg (hne 'n' (by decide) (by decide)),
      if_neg (hne 't' (by decide) (by decide)), if_neg (hne 'f' (by decide) (by decide)),
      if_neg (hne '-' (by decide) (by decide)), if_pos hdigit]
    exact hpass
  · refine reads_passValue_first ws (c := '-') (by decide) ?_
    rw [passFrom, if_neg (by decide), if_neg (by decide), if_neg (by decide), if_pos rfl]
    exact Reads.bind (reads_skip (by decide)) hpass

theorem reads_passValue_text (ws : Blanks) {t : List Char} (h : ValidText t) (rest : List Char)
    (fuel : Nat) : Reads (passValue (fuel + 1)) (ws.chars ++ (t ++ rest)) () rest := by
  obtain ⟨body, rfl, hpass⟩ := reads_passText h
  refine reads_passValue_first ws (c := '"') (by decide) ?_
  show Ends (skip >>= fun _ => passText) _ _ _
  exact Reads.bind (reads_skip (by decide)) (hpass rest)

end Values

section Lists

variable {α : Type}

theorem reads_passItems_end (ws : Blanks) (first : Bool) (rest : List Char) (fuel : Nat) :
    Reads (passItems (fuel + 1) first) (ws.chars ++ ']' :: rest) () rest := by
  rw [passItems]
  refine Reads.bind (reads_afterBlanks ws (by decide)) ?_
  simp only [if_true]
  exact reads_skip (by decide)

theorem reads_passItems_first (ws : Blanks) {c : Char} {cs mid rest : List Char} {fuel : Nat}
    (hc : c ∈ starters) (hvalue : Reads (passValue fuel) (c :: cs) () mid)
    (hmore : Reads (passItems fuel false) mid () rest) :
    Reads (passItems (fuel + 1) true) (ws.chars ++ c :: cs) () rest := by
  obtain ⟨hsign, hclose, -, -⟩ := isSign_of_mem_starters hc
  rw [passItems]
  refine Reads.bind (reads_afterBlanks ws hsign) ?_
  simp only [if_neg hclose, if_true]
  exact Reads.bind hvalue hmore

theorem reads_passItems_next (ws : Blanks) {cs mid rest : List Char} {fuel : Nat}
    (hvalue : Reads (passValue fuel) cs () mid)
    (hmore : Reads (passItems fuel false) mid () rest) :
    Reads (passItems (fuel + 1) false) (ws.chars ++ ',' :: cs) () rest := by
  rw [passItems]
  refine Reads.bind (reads_afterBlanks ws (by decide)) ?_
  simp only [show byte ',' ≠ byte ']' by decide, if_false, Bool.false_eq_true, if_true]
  exact Reads.bind (reads_skip (by decide)) (Reads.bind hvalue hmore)

/-- What passes the text of a value with fuel for each of its characters twice. -/
def Passes (t : List Char) : Prop :=
  ∀ (ws : Blanks) (rest : List Char) (fuel : Nat), 2 * t.length ≤ fuel → Stops rest →
    Reads (passValue fuel) (ws.chars ++ (t ++ rest)) () rest

theorem reads_passItems {items : List (Item α)} (h : ∀ i ∈ items, Passes i.text) (ws : Blanks)
    (rest : List Char) (fuel : Nat)
    (hfuel : 2 * (behindCommas (items.map Item.chars)).length + 2 ≤ fuel) :
    Reads (passItems fuel false)
      (ws.chars ++ (behindCommas (items.map Item.chars) ++ ']' :: rest)) () rest := by
  induction items generalizing ws fuel with
  | nil =>
      obtain ⟨fuel, rfl⟩ : ∃ k, fuel = k + 1 := ⟨fuel - 1, by omega⟩
      exact reads_passItems_end ws false rest fuel
  | cons i more ih =>
      obtain ⟨fuel, rfl⟩ : ∃ k, fuel = k + 1 := ⟨fuel - 1, by omega⟩
      simp only [List.map_cons, behindCommas, Item.chars, List.length_cons,
        List.length_append] at hfuel
      have hvalue := h i List.mem_cons_self i.before _ fuel (by omega) (stops_blanks i.behind
        (stops_behindCommas (more.map Item.chars) ']' (by decide) rest))
      have hmore := ih (fun j hj => h j (List.mem_cons_of_mem i hj)) i.behind
        fuel (by omega)
      have hchars : ws.chars ++ (behindCommas ((i :: more).map Item.chars) ++ ']' :: rest) =
          ws.chars ++ ',' :: (i.before.chars ++ (i.text ++ (i.behind.chars ++
            (behindCommas (more.map Item.chars) ++ ']' :: rest)))) := by
        simp [behindCommas, Item.chars]
      rw [hchars]
      exact reads_passItems_next ws hvalue hmore

theorem passes_list (inner : Blanks) {items : List (Item α)} (hvalid : ∀ i ∈ items, Valid i.text)
    (h : ∀ i ∈ items, Passes i.text) : Passes (listChars inner items) := by
  intro ws rest fuel hfuel hrest
  simp only [listChars, List.length_cons, List.length_append] at hfuel
  obtain ⟨fuel, rfl⟩ : ∃ k, fuel = k + 2 := ⟨fuel - 2, by omega⟩
  have hbody : Reads (passItems (fuel + 1) true)
      (layout inner (items.map Item.chars) ++ ']' :: rest) () rest := by
    cases items with
    | nil => exact reads_passItems_end inner true rest fuel
    | cons i more =>
        simp only [List.map_cons, layout, Item.chars, List.length_append] at hfuel
        obtain ⟨c, cs, htext, hc⟩ := (hvalid i List.mem_cons_self).exists_starter
        have hvalue := h i List.mem_cons_self .none _ fuel (by omega) (stops_blanks i.behind
          (stops_behindCommas (more.map Item.chars) ']' (by decide) rest))
        have hmore := reads_passItems (fun j hj => h j (List.mem_cons_of_mem i hj)) i.behind rest
          fuel (by rw [htext, List.length_cons] at hfuel; omega)
        have hchars : layout inner ((i :: more).map Item.chars) ++ ']' :: rest =
            i.before.chars ++ c :: (cs ++ (i.behind.chars ++
              (behindCommas (more.map Item.chars) ++ ']' :: rest))) := by
          simp [layout, Item.chars, htext]
        rw [htext] at hvalue
        rw [hchars]
        exact reads_passItems_first i.before hc hvalue hmore
  have hchars : listChars inner items ++ rest =
      '[' :: (layout inner (items.map Item.chars) ++ ']' :: rest) := by
    simp [listChars]
  rw [hchars]
  refine reads_passValue_first ws (c := '[') (by decide) ?_
  show Ends (skip >>= fun _ => passItems (fuel + 1) true) _ _ _
  exact Reads.bind (reads_skip (by decide)) hbody

end Lists

section Objects

variable {κ α : Type}

theorem reads_passMember (ws : Blanks) {e : Entry κ α} (hkey : ValidText e.keyText)
    (h : Passes e.item.text) {rest : List Char} (hrest : Stops rest) (fuel : Nat)
    (hfuel : 2 * e.item.text.length < fuel) :
    Reads (passMember fuel) (ws.chars ++ (e.keyText ++ (e.tail ++ rest))) () rest := by
  obtain ⟨fuel, rfl⟩ : ∃ k, fuel = k + 1 := ⟨fuel - 1, by omega⟩
  obtain ⟨body, hbody, hpass⟩ := reads_passText hkey
  rw [hbody, passMember]
  refine Reads.bind (reads_afterBlanks ws (by decide)) ?_
  simp only [if_true]
  refine Reads.bind (reads_skip (by decide)) (Reads.bind (hpass _) ?_)
  have hchars : e.tail ++ rest =
      e.behind.chars ++ ':' :: (e.item.before.chars ++ (e.item.text ++ rest)) := by
    simp [Entry.tail]
  rw [hchars]
  exact Reads.bind (reads_colon e.behind _) (h e.item.before rest fuel (by omega) hrest)

theorem reads_passMembers_end (ws : Blanks) (first : Bool) (rest : List Char) (fuel : Nat) :
    Reads (passMembers (fuel + 1) first) (ws.chars ++ '\x7d' :: rest) () rest := by
  rw [passMembers]
  refine Reads.bind (reads_afterBlanks ws (by decide)) ?_
  simp only [if_true]
  exact reads_skip (by decide)

theorem reads_passMembers_first (ws : Blanks) {cs mid rest : List Char} {fuel : Nat}
    (hmember : Reads (passMember fuel) ('"' :: cs) () mid)
    (hmore : Reads (passMembers fuel false) mid () rest) :
    Reads (passMembers (fuel + 1) true) (ws.chars ++ '"' :: cs) () rest := by
  rw [passMembers]
  refine Reads.bind (reads_afterBlanks ws (by decide)) ?_
  simp only [show byte '"' ≠ byte '\x7d' by decide, if_false, if_true]
  exact Reads.bind hmember hmore

theorem reads_passMembers_next (ws : Blanks) {cs mid rest : List Char} {fuel : Nat}
    (hmember : Reads (passMember fuel) cs () mid)
    (hmore : Reads (passMembers fuel false) mid () rest) :
    Reads (passMembers (fuel + 1) false) (ws.chars ++ ',' :: cs) () rest := by
  rw [passMembers]
  refine Reads.bind (reads_afterBlanks ws (by decide)) ?_
  simp only [show byte ',' ≠ byte '\x7d' by decide, if_false, Bool.false_eq_true, if_true]
  exact Reads.bind (reads_skip (by decide)) (Reads.bind hmember hmore)

theorem reads_passMembers {entries : List (Entry κ α)} (hkeys : ∀ e ∈ entries, ValidText e.keyText)
    (h : ∀ e ∈ entries, Passes e.item.text) (ws : Blanks) (rest : List Char) (fuel : Nat)
    (hfuel : 2 * (behindCommas (entries.map Entry.chars)).length + 2 ≤ fuel) :
    Reads (passMembers fuel false)
      (ws.chars ++ (behindCommas (entries.map Entry.chars) ++ '\x7d' :: rest)) () rest := by
  induction entries generalizing ws fuel with
  | nil =>
      obtain ⟨fuel, rfl⟩ : ∃ k, fuel = k + 1 := ⟨fuel - 1, by omega⟩
      exact reads_passMembers_end ws false rest fuel
  | cons e more ih =>
      obtain ⟨fuel, rfl⟩ : ∃ k, fuel = k + 1 := ⟨fuel - 1, by omega⟩
      simp only [List.map_cons, behindCommas, Entry.chars, Item.chars, List.length_cons,
        List.length_append] at hfuel
      have hmember := reads_passMember e.before (hkeys e List.mem_cons_self)
        (h e List.mem_cons_self) (stops_blanks e.item.behind
          (stops_behindCommas (more.map Entry.chars) '\x7d' (by decide) rest)) fuel (by omega)
      have hmore := ih (fun d hd => hkeys d (List.mem_cons_of_mem e hd))
        (fun d hd => h d (List.mem_cons_of_mem e hd)) e.item.behind fuel (by omega)
      have hchars : ws.chars ++ (behindCommas ((e :: more).map Entry.chars) ++ '\x7d' :: rest) =
          ws.chars ++ ',' :: (e.before.chars ++ (e.keyText ++ (e.tail ++ (e.item.behind.chars ++
            (behindCommas (more.map Entry.chars) ++ '\x7d' :: rest))))) := by
        simp [behindCommas, Entry.chars, Entry.tail, Item.chars]
      rw [hchars]
      exact reads_passMembers_next ws hmember hmore

theorem passes_object (inner : Blanks) {entries : List (Entry κ α)}
    (hkeys : ∀ e ∈ entries, ValidText e.keyText) (h : ∀ e ∈ entries, Passes e.item.text) :
    Passes (objectChars inner entries) := by
  intro ws rest fuel hfuel hrest
  simp only [objectChars, List.length_cons, List.length_append] at hfuel
  obtain ⟨fuel, rfl⟩ : ∃ k, fuel = k + 2 := ⟨fuel - 2, by omega⟩
  have hbody : Reads (passMembers (fuel + 1) true)
      (layout inner (entries.map Entry.chars) ++ '\x7d' :: rest) () rest := by
    cases entries with
    | nil => exact reads_passMembers_end inner true rest fuel
    | cons e more =>
        simp only [List.map_cons, layout, Entry.chars, Item.chars, List.length_append,
          List.length_cons] at hfuel
        have hkey := hkeys e List.mem_cons_self
        have hpos := hkey.length_pos
        have hmember := reads_passMember .none hkey
          (h e List.mem_cons_self) (stops_blanks e.item.behind
            (stops_behindCommas (more.map Entry.chars) '\x7d' (by decide) rest)) fuel
          (by omega)
        have hmore := reads_passMembers (fun d hd => hkeys d (List.mem_cons_of_mem e hd))
          (fun d hd => h d (List.mem_cons_of_mem e hd)) e.item.behind rest fuel
          (by omega)
        obtain ⟨pieces, -, hquote⟩ := hkey
        have hchars : layout inner ((e :: more).map Entry.chars) ++ '\x7d' :: rest =
            e.before.chars ++ (e.keyText ++ (e.tail ++ (e.item.behind.chars ++
              (behindCommas (more.map Entry.chars) ++ '\x7d' :: rest)))) := by
          simp [layout, Entry.chars, Entry.tail, Item.chars]
        rw [hquote] at hmember
        rw [hchars, hquote]
        exact reads_passMembers_first e.before hmember hmore
  have hchars : objectChars inner entries ++ rest =
      '\x7b' :: (layout inner (entries.map Entry.chars) ++ '\x7d' :: rest) := by
    simp [objectChars]
  rw [hchars]
  refine reads_passValue_first ws (c := '\x7b') (by decide) ?_
  show Ends (skip >>= fun _ => passMembers (fuel + 1) true) _ _ _
  exact Reads.bind (reads_skip (by decide)) hbody

end Objects

section Anything

/-- The text of a value is passed with fuel for each of its characters twice. -/
theorem passes_of_valid {t : List Char} (h : Valid t) : Passes t := by
  induction h with
  | @word t h =>
      intro ws rest fuel hfuel _
      have hpos := (Valid.word h).length_pos
      obtain ⟨fuel, rfl⟩ : ∃ k, fuel = k + 1 := ⟨fuel - 1, by omega⟩
      exact reads_passValue_word ws h rest fuel
  | @number t h =>
      intro ws rest fuel hfuel hrest
      have hpos := (Valid.number h).length_pos
      obtain ⟨fuel, rfl⟩ : ∃ k, fuel = k + 1 := ⟨fuel - 1, by omega⟩
      exact reads_passValue_number ws h hrest fuel
  | @text t h =>
      intro ws rest fuel hfuel _
      have hpos := (Valid.text h).length_pos
      obtain ⟨fuel, rfl⟩ : ∃ k, fuel = k + 1 := ⟨fuel - 1, by omega⟩
      exact reads_passValue_text ws h rest fuel
  | list inner items hvalid ih => exact passes_list inner hvalid ih
  | object inner entries hkeys _ ih => exact passes_object inner hkeys ih

/-- A value of any kind is passed. -/
theorem takes_anything {t : List Char} (h : Valid t) : Takes anything t (some ()) := by
  intro ws rest hrest
  have hbytes := Utf8.length_le_length_encode (ws.chars ++ (t ++ rest))
  simp only [List.length_append] at hbytes
  exact ends_sized (r := passValue) (g := fun n => 2 * n + 2)
    (passes_of_valid h ws rest _ (by omega) hrest)

end Anything

end Reader
end Json
end RequestGuard
