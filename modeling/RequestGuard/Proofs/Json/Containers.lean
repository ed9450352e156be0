import RequestGuard.Proofs.Json.Numbers
import RequestGuard.Proofs.Json.Texts

/-!
# Reading lists and objects

What readers of items make of a list, and readers of members of an object.

* `takes_list`: the items of a list are read in their order; a fault of one is a fault of
  the list.
* `ends_members`: the members of an object are folded into a value in the order in which
  they are written.
* `ends_inObject_members` is this with what is made of the value at the end.
-/

namespace RequestGuard
namespace Json

open Text

section Starters

/-- The characters that a value may start with. -/
def starters : List Char :=
  "\"[\x7b-0123456789ntf".toList

theorem mem_starters_of_isDigit {d : Char} (h : isDigit d = true) : d ∈ starters := by
  have hall : ∀ d ∈ digits, d ∈ starters := by decide
  exact hall d (mem_digits h)

theorem ValidNumber.exists_starter {t : List Char} (h : ValidNumber t) :
    ∃ c more, t = c :: more ∧ c ∈ starters := by
  obtain ⟨sign, whole, fraction, exponent, hsign, hwhole, -, -, rfl⟩ := h
  rcases hsign with rfl | rfl
  · rcases hwhole with rfl | ⟨⟨hne, hds⟩, -⟩
    · exact ⟨'0', _, rfl, by decide⟩
    · obtain ⟨d, ds, rfl⟩ := List.exists_cons_of_ne_nil hne
      exact ⟨d, _, rfl, mem_starters_of_isDigit (hds d List.mem_cons_self)⟩
  · exact ⟨'-', _, rfl, by decide⟩

theorem Valid.exists_starter {t : List Char} (h : Valid t) :
    ∃ c more, t = c :: more ∧ c ∈ starters := by
  cases h with
  | word h =>
      have hall : ∀ w ∈ words, ∃ c more, w = c :: more ∧ c ∈ starters := by
        intro w hw
        simp only [words, List.mem_cons, List.not_mem_nil, or_false] at hw
        rcases hw with rfl | rfl | rfl
        · exact ⟨'n', _, rfl, by decide⟩
        · exact ⟨'t', _, rfl, by decide⟩
        · exact ⟨'f', _, rfl, by decide⟩
      exact hall t h
  | number h => exact h.exists_starter
  | text h =>
      obtain ⟨pieces, -, rfl⟩ := h
      exact ⟨'"', _, rfl, by decide⟩
  | list => exact ⟨'[', _, rfl, by decide⟩
  | object => exact ⟨'\x7b', _, rfl, by decide⟩

theorem Valid.length_pos {t : List Char} (h : Valid t) : 0 < t.length := by
  obtain ⟨c, more, rfl, -⟩ := h.exists_starter
  exact Nat.succ_pos _

theorem ValidText.length_pos {t : List Char} (h : ValidText t) : 0 < t.length := by
  obtain ⟨pieces, -, rfl⟩ := h
  simp

end Starters

section Keys

/-- What follows the text of a key, up to the text of the value. -/
def Entry.tail {κ α : Type} (e : Entry κ α) : List Char :=
  e.behind.chars ++ ':' :: (e.item.before.chars ++ e.item.text)

/-- The text of a key is read up to what follows it. -/
theorem SpellsText.reads {s : String} {t : List Char} (h : SpellsText s t) :
    ∃ body, t = '"' :: body ∧ ∀ rest, Reader.Reads Reader.text (body ++ rest) s rest := by
  obtain ⟨body, hbody, rfl⟩ := h
  refine ⟨body ++ ['"'], rfl, fun rest => ?_⟩
  rw [List.append_assoc]
  exact Reader.reads_text hbody rest

end Keys

namespace Reader

variable {α β σ : Type}

theorem isSign_of_mem_starters {c : Char} (h : c ∈ starters) :
    IsSign c ∧ byte c ≠ byte ']' ∧ byte c ≠ byte '\x7d' ∧ byte c ≠ byte ',' := by
  have hall : ∀ c ∈ starters, IsSign c ∧ byte c ≠ byte ']' ∧ byte c ≠ byte '\x7d' ∧
      byte c ≠ byte ',' := by decide
  exact hall c h

section Lists

variable {c : Char} {cs : List Char}

theorem reads_anotherItem_first (ws : Blanks) (h : c ∈ starters) :
    Reads (anotherItem true) (ws.chars ++ c :: cs) true (c :: cs) := by
  obtain ⟨hsign, hclose, -, -⟩ := isSign_of_mem_starters h
  refine Reads.bind (reads_afterBlanks ws hsign) ?_
  simp only [if_neg hclose, if_true]
  exact reads_pure true _

theorem reads_anotherItem_next (ws ws' : Blanks) (h : c ∈ starters) :
    Reads (anotherItem false) (ws.chars ++ ',' :: (ws'.chars ++ c :: cs)) true (c :: cs) := by
  obtain ⟨hsign, hclose, -, -⟩ := isSign_of_mem_starters h
  refine Reads.bind (reads_afterBlanks ws (by decide)) ?_
  simp only [show byte ',' ≠ byte ']' by decide, if_false, Bool.false_eq_true, if_true]
  refine Reads.bind (reads_skip (by decide)) (Reads.bind (reads_afterBlanks ws' hsign) ?_)
  simp only [if_neg hclose]
  exact reads_pure true _

theorem reads_anotherItem_end (ws : Blanks) (first : Bool) (cs : List Char) :
    Reads (anotherItem first) (ws.chars ++ ']' :: cs) false (']' :: cs) :=
  Reads.bind (reads_afterBlanks ws (by decide)) (reads_pure false _)

theorem reads_listEnd (ws : Blanks) (cs : List Char) :
    Reads listEnd (ws.chars ++ ']' :: cs) () cs := by
  refine Reads.bind (reads_afterBlanks ws (by decide)) ?_
  simp only [if_true]
  exact reads_skip (by decide)

/-- What stands behind an item may follow a value. -/
theorem stops_behindCommas (pieces : List (List Char)) (close : Char) (hclose : close ∈ stops)
    (rest : List Char) : Stops (behindCommas pieces ++ close :: rest) := by
  cases pieces with
  | nil => exact stops_cons hclose rest
  | cons piece more => exact stops_cons (by decide) _

/-- An item whose text is that of a value, which a reader takes. -/
def TakesItem (item : Reader β) (i : Item α) (o : Option β) : Prop :=
  Valid i.text ∧ Takes item i.text o

theorem TakesItem.ends {item : Reader β} {i : Item α} {o : Option β} (h : TakesItem item i o)
    {rest : List Char} (hrest : Stops rest) : Ends item (i.text ++ rest) o rest :=
  h.2 .none rest hrest

variable {item : Reader β} {out : Item α → Option β}

/-- An item and those behind it. -/
theorem ends_itemsFrom_cons {i : Item α} {more : List (Item α)} {first : Bool} {fuel : Nat}
    {cs mid mid' rest : List Char} (hanother : Reads (anotherItem first) cs true mid)
    (hitem : Ends item mid (out i) mid')
    (hmore : Ends (itemsFrom item fuel false) mid' (more.mapM out) rest) :
    Ends (itemsFrom item (fuel + 1) first) cs ((i :: more).mapM out) rest := by
  rw [List.mapM_cons]
  refine Reads.bind hanother ?_
  simp only [if_true]
  refine Ends.bind hitem fun a _ => ?_
  exact hmore.bind fun as _ => reads_pure (a :: as) _

theorem ends_itemsFrom {items : List (Item α)} (h : ∀ i ∈ items, TakesItem item i (out i))
    (ws : Blanks) (rest : List Char) (fuel : Nat) (hfuel : items.length < fuel) :
    Ends (itemsFrom item fuel false)
      (ws.chars ++ (behindCommas (items.map Item.chars) ++ ']' :: rest))
      (items.mapM out) (']' :: rest) := by
  induction items generalizing ws fuel with
  | nil =>
      obtain ⟨fuel, rfl⟩ := Nat.exists_eq_add_of_lt hfuel
      exact Reads.bind (reads_anotherItem_end ws false rest) (reads_pure [] _)
  | cons i more ih =>
      obtain ⟨fuel, rfl⟩ : ∃ k, fuel = k + 1 := ⟨fuel - 1, by omega⟩
      have hitem := h i List.mem_cons_self
      obtain ⟨c, cs, htext, hc⟩ := hitem.1.exists_starter
      have hends := hitem.ends (stops_blanks i.behind
        (stops_behindCommas (more.map Item.chars) ']' (by decide) rest))
      have hmore := ih (fun j hj => h j (List.mem_cons_of_mem i hj)) i.behind
        fuel (by simpa using hfuel)
      have hchars : ws.chars ++ (behindCommas ((i :: more).map Item.chars) ++ ']' :: rest) =
          ws.chars ++ ',' :: (i.before.chars ++ c :: (cs ++ (i.behind.chars ++
            (behindCommas (more.map Item.chars) ++ ']' :: rest)))) := by
        simp [behindCommas, Item.chars, htext]
      rw [htext] at hends
      rw [hchars]
      exact ends_itemsFrom_cons (reads_anotherItem_next ws i.before hc) hends hmore

theorem length_le_layout (inner : Blanks) (items : List (Item α))
    (h : ∀ i ∈ items, Valid i.text) :
    items.length ≤ (layout inner (items.map Item.chars)).length := by
  have hbehind : ∀ more : List (Item α),
      more.length ≤ (behindCommas (more.map Item.chars)).length := by
    intro more
    induction more with
    | nil => exact Nat.zero_le _
    | cons i more ih =>
        simp only [List.map_cons, behindCommas, List.length_cons, List.length_append]
        omega
  cases items with
  | nil => exact Nat.zero_le _
  | cons i more =>
      obtain ⟨c, cs, htext, -⟩ := (h i List.mem_cons_self).exists_starter
      have := hbehind more
      simp only [List.map_cons, layout, Item.chars, htext, List.length_cons, List.length_append]
      omega

theorem ends_items {items : List (Item α)} (h : ∀ i ∈ items, TakesItem item i (out i))
    (inner : Blanks) (rest : List Char) :
    Ends (Reader.items item) (layout inner (items.map Item.chars) ++ ']' :: rest)
      (items.mapM out) (']' :: rest) := by
  have hlength := length_le_layout inner items fun i hi => (h i hi).1
  have hbytes := Utf8.length_le_length_encode (layout inner (items.map Item.chars) ++ ']' :: rest)
  rw [List.length_append] at hbytes
  refine ends_sized (r := fun fuel => itemsFrom item fuel true) (g := (· + 1)) ?_
  cases items with
  | nil => exact Reads.bind (reads_anotherItem_end inner true rest) (reads_pure [] _)
  | cons i more =>
      have hitem := h i List.mem_cons_self
      obtain ⟨c, cs, htext, hc⟩ := hitem.1.exists_starter
      have hends := hitem.ends (stops_blanks i.behind
        (stops_behindCommas (more.map Item.chars) ']' (by decide) rest))
      have hmore := ends_itemsFrom (fun j hj => h j (List.mem_cons_of_mem i hj)) i.behind rest
        (Utf8.encode (layout inner ((i :: more).map Item.chars) ++ ']' :: rest)).length
        (by rw [List.length_cons] at hlength; omega)
      have hchars : layout inner ((i :: more).map Item.chars) ++ ']' :: rest =
          i.before.chars ++ c :: (cs ++ (i.behind.chars ++
            (behindCommas (more.map Item.chars) ++ ']' :: rest))) := by
        simp [layout, Item.chars, htext]
      rw [htext] at hends
      rw [hchars] at hmore ⊢
      exact ends_itemsFrom_cons (reads_anotherItem_first i.before hc) hends hmore

/-- A body between the brackets of a list. -/
theorem ends_inList {body : Reader β} {t rest : List Char} {o : Option β} (ws : Blanks)
    (h : Ends body t o (ws.chars ++ ']' :: rest)) : Ends (inList body) ('[' :: t) o rest :=
  ends_closedBy (Reads.bind (reads_skip (by decide)) h) (reads_listEnd ws rest)

/-- The items of a list are read in their order. -/
theorem takes_list {items : List (Item α)} (h : ∀ i ∈ items, TakesItem item i (out i))
    (inner : Blanks) : Takes (list item) (listChars inner items) (items.mapM out) := by
  refine takes_byFirst (by decide) fun rest hrest => ?_
  rw [if_pos rfl, List.append_assoc]
  exact ends_inList .none (ends_items h inner rest)

end Lists

section Objects

theorem reads_anotherKey_first (ws : Blanks) (cs : List Char) :
    Reads (anotherKey true) (ws.chars ++ '"' :: cs) true ('"' :: cs) := by
  refine Reads.bind (reads_afterBlanks ws (by decide)) ?_
  simp only [show byte '"' ≠ byte '\x7d' by decide, if_false, if_true]
  exact reads_pure true _

theorem reads_anotherKey_next (ws ws' : Blanks) (cs : List Char) :
    Reads (anotherKey false) (ws.chars ++ ',' :: (ws'.chars ++ '"' :: cs)) true ('"' :: cs) := by
  refine Reads.bind (reads_afterBlanks ws (by decide)) ?_
  simp only [show byte ',' ≠ byte '\x7d' by decide, if_false, Bool.false_eq_true, if_true]
  refine Reads.bind (reads_skip (by decide)) (Reads.bind (reads_afterBlanks ws' (by decide)) ?_)
  simp only [if_true]
  exact reads_pure true _

theorem reads_anotherKey_end (ws : Blanks) (first : Bool) (cs : List Char) :
    Reads (anotherKey first) (ws.chars ++ '\x7d' :: cs) false ('\x7d' :: cs) :=
  Reads.bind (reads_afterBlanks ws (by decide)) (reads_pure false _)

theorem reads_objectEnd (ws : Blanks) (cs : List Char) :
    Reads objectEnd (ws.chars ++ '\x7d' :: cs) () cs := by
  refine Reads.bind (reads_afterBlanks ws (by decide)) ?_
  simp only [if_true]
  exact reads_skip (by decide)

/-- An entry whose key is spelled, and which a reader of members takes. -/
def TakesEntry (member : σ → String → Reader σ) (e : Entry String α) (next : σ → Option σ) :
    Prop :=
  SpellsText e.key e.keyText ∧ ∀ (s : σ) (rest : List Char), Stops rest →
    Ends (member s e.key) (e.tail ++ rest) (next s) rest

variable {member : σ → String → Reader σ} {next : Entry String α → σ → Option σ}

/-- A member and those behind it. -/
theorem ends_membersFrom_cons {e : Entry String α} {more : List (Entry String α)} {first : Bool}
    {fuel : Nat} {cs key mid mid' rest : List Char} {s : σ}
    (hanother : Reads (anotherKey first) cs true ('"' :: key))
    (hkey : Reads text key e.key mid) (hmember : Ends (member s e.key) mid (next e s) mid')
    (hmore : ∀ s, Ends (membersFrom member fuel false s) mid'
      (more.foldlM (fun s e => next e s) s) rest) :
    Ends (membersFrom member (fuel + 1) first s) cs
      ((e :: more).foldlM (fun s e => next e s) s) rest := by
  rw [List.foldlM_cons]
  refine Reads.bind hanother ?_
  simp only [if_true]
  refine Reads.bind (reads_skip (by decide)) (Reads.bind hkey ?_)
  exact Ends.bind hmember fun s' _ => hmore s'

theorem ends_membersFrom {entries : List (Entry String α)}
    (h : ∀ e ∈ entries, TakesEntry member e (next e)) (ws : Blanks) (rest : List Char)
    (fuel : Nat) (hfuel : entries.length < fuel) (s : σ) :
    Ends (membersFrom member fuel false s)
      (ws.chars ++ (behindCommas (entries.map Entry.chars) ++ '\x7d' :: rest))
      (entries.foldlM (fun s e => next e s) s) ('\x7d' :: rest) := by
  induction entries generalizing ws fuel s with
  | nil =>
      obtain ⟨fuel, rfl⟩ := Nat.exists_eq_add_of_lt hfuel
      exact Reads.bind (reads_anotherKey_end ws false rest) (reads_pure s _)
  | cons e more ih =>
      obtain ⟨fuel, rfl⟩ : ∃ k, fuel = k + 1 := ⟨fuel - 1, by omega⟩
      obtain ⟨hkey, hmember⟩ := h e List.mem_cons_self
      obtain ⟨key, hkeyText, hread⟩ := hkey.reads
      have hends := hmember s _ (stops_blanks e.item.behind
        (stops_behindCommas (more.map Entry.chars) '\x7d' (by decide) rest))
      have hmore := ih (fun d hd => h d (List.mem_cons_of_mem e hd)) e.item.behind
        fuel (by simpa using hfuel)
      have hchars : ws.chars ++ (behindCommas ((e :: more).map Entry.chars) ++ '\x7d' :: rest) =
          ws.chars ++ ',' :: (e.before.chars ++ '"' :: (key ++ (e.tail ++
            (e.item.behind.chars ++ (behindCommas (more.map Entry.chars) ++ '\x7d' :: rest))))) := by
        simp [behindCommas, Entry.chars, Entry.tail, Item.chars, hkeyText]
      rw [hchars]
      exact ends_membersFrom_cons (reads_anotherKey_next ws e.before _) (hread _) hends hmore

theorem length_le_layout_entries (inner : Blanks) (entries : List (Entry String α)) :
    entries.length ≤ (layout inner (entries.map Entry.chars)).length := by
  have hbehind : ∀ more : List (Entry String α),
      more.length ≤ (behindCommas (more.map Entry.chars)).length := by
    intro more
    induction more with
    | nil => exact Nat.zero_le _
    | cons e more ih =>
        simp only [List.map_cons, behindCommas, List.length_cons, List.length_append]
        omega
  cases entries with
  | nil => exact Nat.zero_le _
  | cons e more =>
      have := hbehind more
      simp only [List.map_cons, layout, Entry.chars, List.length_cons, List.length_append]
      omega

/-- The members of an object are folded in the order in which they are written. -/
theorem ends_members {entries : List (Entry String α)}
    (h : ∀ e ∈ entries, TakesEntry member e (next e)) (inner : Blanks) (rest : List Char)
    (s : σ) :
    Ends (Reader.members member s)
      (layout inner (entries.map Entry.chars) ++ '\x7d' :: rest)
      (entries.foldlM (fun s e => next e s) s) ('\x7d' :: rest) := by
  have hlength := length_le_layout_entries inner entries
  have hbytes :=
    Utf8.length_le_length_encode (layout inner (entries.map Entry.chars) ++ '\x7d' :: rest)
  rw [List.length_append] at hbytes
  refine ends_sized (r := fun fuel => membersFrom member fuel true s) (g := (· + 1)) ?_
  cases entries with
  | nil => exact Reads.bind (reads_anotherKey_end inner true rest) (reads_pure s _)
  | cons e more =>
      obtain ⟨hkey, hmember⟩ := h e List.mem_cons_self
      obtain ⟨key, hkeyText, hread⟩ := hkey.reads
      have hends := hmember s _ (stops_blanks e.item.behind
        (stops_behindCommas (more.map Entry.chars) '\x7d' (by decide) rest))
      have hmore := ends_membersFrom (fun d hd => h d (List.mem_cons_of_mem e hd))
        e.item.behind rest
        (Utf8.encode (layout inner ((e :: more).map Entry.chars) ++ '\x7d' :: rest)).length
        (by rw [List.length_cons] at hlength; omega)
      have hchars : layout inner ((e :: more).map Entry.chars) ++ '\x7d' :: rest =
          e.before.chars ++ '"' :: (key ++ (e.tail ++
            (e.item.behind.chars ++ (behindCommas (more.map Entry.chars) ++ '\x7d' :: rest)))) := by
        simp [layout, Entry.chars, Entry.tail, Item.chars, hkeyText]
      rw [hchars] at hmore ⊢
      exact ends_membersFrom_cons (reads_anotherKey_first e.before _) (hread _) hends hmore

/-- A body between the brackets of an object. -/
theorem ends_inObject {body : Reader β} {t rest : List Char} {o : Option β} (ws : Blanks)
    (h : Ends body t o (ws.chars ++ '\x7d' :: rest)) :
    Ends (inObject body) ('\x7b' :: t) o rest :=
  ends_closedBy (Reads.bind (reads_skip (by decide)) h) (reads_objectEnd ws rest)

/-- An object whose members are folded and then completed. -/
theorem ends_inObject_members {entries : List (Entry String α)}
    (h : ∀ e ∈ entries, TakesEntry member e (next e)) (inner : Blanks) (rest : List Char) (s : σ)
    {complete : σ → Reader β} {o : σ → Option β}
    (hcomplete : ∀ s cs, Ends (complete s) cs (o s) cs) :
    Ends (inObject (Reader.members member s >>= complete)) (objectChars inner entries ++ rest)
      ((entries.foldlM (fun s e => next e s) s).bind o) rest := by
  have hchars : objectChars inner entries ++ rest =
      '\x7b' :: (layout inner (entries.map Entry.chars) ++ '\x7d' :: rest) := by
    simp [objectChars]
  rw [hchars]
  refine ends_inObject .none ?_
  exact (ends_members h inner rest s).bind fun s' _ => hcomplete s' _

/-- A member whose value one reader reads. -/
theorem takesEntry_colon {value : Reader β} {e : Entry String α} {o : Option β}
    (hkey : SpellsText e.key e.keyText) (h : Takes value e.item.text o) (g : σ → β → σ) :
    TakesEntry (fun s _ => do
      colon
      let b ← value
      pure (g s b)) e fun s => o.map (g s) := by
  refine ⟨hkey, fun s rest hrest => ?_⟩
  have hchars : e.tail ++ rest =
      e.behind.chars ++ ':' :: (e.item.before.chars ++ (e.item.text ++ rest)) := by
    simp [Entry.tail]
  rw [hchars]
  exact Reads.bind (reads_colon e.behind _) ((h e.item.before rest hrest).map (g s))

end Objects

end Reader
end Json
end RequestGuard
