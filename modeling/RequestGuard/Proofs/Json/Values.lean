import RequestGuard.Proofs.Json.Kinds
import RequestGuard.Proofs.Json.Lookup

/-!
# Reading and writing values of any kind

* `Plain.spells_chars`: what is written of a plain value is a text of it.
* `takes_read`: from any text of a plain value the value is read with the members of its
  objects in the order of their keys (`ordered`), unless it is nested too deep (`depth`).
* `takes_readKeyed`: so it is with an object that is read by its keys.
* `lookup_orderedMembers`: the order of members does not matter to what stands under a key.
-/

namespace RequestGuard
namespace Json

open Text

namespace Value

section Writing

/-- The numbers of control characters are written by four digits. -/
theorem fourDigits_of_lt {n : Nat} (h : n < 32) :
    FourDigits ['0', '0', hexDigit (n / 16), hexDigit (n % 16)] ∧
      hexNumber ['0', '0', hexDigit (n / 16), hexDigit (n % 16)] = n := by
  have hall : ∀ n < 32,
      (∀ d ∈ ['0', '0', hexDigit (n / 16), hexDigit (n % 16)], (hexValue? d).isSome = true) ∧
        hexNumber ['0', '0', hexDigit (n / 16), hexDigit (n % 16)] = n := by decide
  exact ⟨⟨rfl, (hall n h).1⟩, (hall n h).2⟩

theorem spellsChar_escapeChar (c : Char) : SpellsChar c (escapeChar c) := by
  rw [escapeChar]
  split
  · next h =>
      subst h
      exact .short (by decide)
  split
  · next h =>
      subst h
      exact .short (by decide)
  split
  · next h =>
      obtain rfl : c = '\x08' := Char.toNat_inj.1 h
      exact .short (by decide)
  split
  · next h =>
      obtain rfl : c = '\x0c' := Char.toNat_inj.1 h
      exact .short (by decide)
  split
  · next h =>
      subst h
      exact .short (by decide)
  split
  · next h =>
      subst h
      exact .short (by decide)
  split
  · next h =>
      subst h
      exact .short (by decide)
  split
  · next h =>
      obtain ⟨hdigits, hvalue⟩ := fourDigits_of_lt h
      exact .numbered hdigits hvalue
  · next hquote hback _ _ _ _ _ hcontrol => exact .plain ⟨by omega, hquote, hback⟩

theorem spellsText_quote (s : String) : SpellsText s (quote s) := by
  refine ⟨s.toList.flatMap escapeChar, ?_, rfl⟩
  induction s.toList with
  | nil => exact .nil
  | cons c cs ih => exact .cons (spellsChar_escapeChar c) ih

theorem toList_toString (n : Nat) : (toString n).toList = Nat.toDigits 10 n := by
  simp [toString]

/-- A value as it is written, without blanks. -/
def item (v : Value) : Item Value :=
  ⟨.none, v, v.chars, .none⟩

/-- A member as it is written, without blanks. -/
def memberEntry (m : String × Value) : Entry String Value :=
  ⟨.none, m.1, quote m.1, .none, m.2.item⟩

theorem chars_item (v : Value) : v.item.chars = v.chars := by
  simp [item, Item.chars, Blanks.none]

theorem chars_memberEntry (m : String × Value) :
    (memberEntry m).chars = quote m.1 ++ ':' :: m.2.chars := by
  simp [memberEntry, Entry.chars, chars_item, Blanks.none]

theorem itemChars_eq (vs : List Value) :
    itemChars vs = layout .none ((vs.map item).map Item.chars) := by
  induction vs with
  | nil => rfl
  | cons v more ih =>
      cases more with
      | nil => simp [itemChars, layout, behindCommas, chars_item]
      | cons w more =>
          rw [itemChars, ih]
          · simp [layout, behindCommas, chars_item]
          · exact List.cons_ne_nil w more

theorem memberChars_eq (ms : List (String × Value)) :
    memberChars ms = layout .none ((ms.map memberEntry).map Entry.chars) := by
  induction ms with
  | nil => rfl
  | cons m more ih =>
      cases more with
      | nil => simp [memberChars, layout, behindCommas, chars_memberEntry]
      | cons d more =>
          rw [memberChars, ih]
          · simp [layout, behindCommas, chars_memberEntry]
          · exact List.cons_ne_nil d more

theorem chars_object (ms : List (String × Value)) :
    (object ms).chars = objectChars .none (ms.map memberEntry) := by
  rw [chars, memberChars_eq]
  rfl

theorem map_member_memberEntry (ms : List (String × Value)) :
    (ms.map memberEntry).map Entry.member = ms := by
  rw [List.map_map]
  exact List.map_id ms

theorem spellsText_memberEntry (ms : List (String × Value)) :
    ∀ e ∈ ms.map memberEntry, SpellsText e.key e.keyText := by
  intro e he
  obtain ⟨m, -, rfl⟩ := List.mem_map.1 he
  exact spellsText_quote m.1

/-- What is written of an object is a text of it if that is so for its values. -/
theorem spells_object_chars {ms : List (String × Value)} (h : ∀ m ∈ ms, m.2.Spells m.2.chars) :
    (object ms).Spells (object ms).chars := by
  have hspells := Spells.object .none (ms.map memberEntry) (spellsText_memberEntry ms)
    fun e he => by
      obtain ⟨m, hm, rfl⟩ := List.mem_map.1 he
      exact h m hm
  rw [map_member_memberEntry] at hspells
  rw [chars_object]
  exact hspells

/-- What is written of a plain value is a text of it. -/
theorem Plain.spells_chars {v : Value} (h : v.Plain) : v.Spells v.chars := by
  induction h with
  | null => exact .null
  | boolean b =>
      cases b with
      | false => exact .false
      | true => exact .true
  | @natural n _ =>
      rw [chars, Number.text, toList_toString]
      exact .natural n
  | @negative n _ _ =>
      have htext : (chars (.number (.negative n))) = '-' :: Nat.toDigits 10 n := by
        rw [chars, Number.text, String.toList_append, toList_toString]
        rfl
      rw [htext]
      exact .negative n
  | string s => exact .string (spellsText_quote s)
  | @list vs _ ih =>
      have hspells := Spells.list .none (vs.map item) fun i hi => by
        obtain ⟨v, hv, rfl⟩ := List.mem_map.1 hi
        exact ih v hv
      have hvalues : (vs.map item).map Item.value = vs := by
        rw [List.map_map]
        exact List.map_id vs
      rw [hvalues] at hspells
      rw [chars, itemChars_eq]
      exact hspells
  | object _ _ ih => exact spells_object_chars ih

end Writing

section Depth

mutual

/-- How many lists and objects stand within each other. -/
def depth : Value → Nat
  | .list items => itemDepth items + 1
  | .object members => memberDepth members + 1
  | _ => 0

/-- The depth of the deepest of some values. -/
def itemDepth : List Value → Nat
  | [] => 0
  | v :: more => max (depth v) (itemDepth more)

/-- The depth of the deepest value of some members. -/
def memberDepth : List (String × Value) → Nat
  | [] => 0
  | (_, v) :: more => max (depth v) (memberDepth more)

end

end Depth

section Order

mutual

/-- A value with the members of its objects in the order of their keys. -/
def ordered : Value → Value
  | .list items => .list (orderedItems items)
  | .object members => .object (orderedMembers members [])
  | v => v

/-- Values with the members of their objects in the order of their keys. -/
def orderedItems : List Value → List Value
  | [] => []
  | v :: more => ordered v :: orderedItems more

/-- Pairs in the order of their keys, with members put among them. -/
def orderedMembers : List (String × Value) → List (String × Value) → List (String × Value)
  | [], pairs => pairs
  | (k, v) :: more, pairs => orderedMembers more (put k (ordered v) pairs)

end

theorem orderedItems_eq (vs : List Value) : orderedItems vs = vs.map ordered := by
  induction vs with
  | nil => rfl
  | cons v more ih => rw [orderedItems, ih, List.map_cons]

/-- A new key is put somewhere among the others. -/
theorem perm_put {α : Type} {key : String} {a : α} {pairs : List (String × α)}
    (h : key ∉ pairs.map Prod.fst) : (put key a pairs).Perm ((key, a) :: pairs) := by
  induction pairs with
  | nil => exact .refl _
  | cons p rest ih =>
      obtain ⟨k, b⟩ := p
      rw [List.map_cons, List.mem_cons, not_or] at h
      rw [put, if_neg h.1]
      split
      · exact .refl _
      · exact ((ih h.2).cons (k, b)).trans (.swap _ _ _)

/-- Members of different keys are all kept. -/
theorem perm_orderedMembers {ms pairs : List (String × Value)}
    (h : ((ms ++ pairs).map Prod.fst).Nodup) :
    (orderedMembers ms pairs).Perm (ms.map (fun m => (m.1, m.2.ordered)) ++ pairs) := by
  induction ms generalizing pairs with
  | nil => exact .refl _
  | cons m more ih =>
      obtain ⟨k, v⟩ := m
      rw [List.cons_append, List.map_cons, List.nodup_cons] at h
      have hk : k ∉ pairs.map Prod.fst := fun hmem => h.1 (by
        rw [List.map_append, List.mem_append]
        exact Or.inr hmem)
      have hput := perm_put (a := v.ordered) hk
      have hkeys : ((more ++ put k v.ordered pairs).map Prod.fst).Perm
          (k :: (more ++ pairs).map Prod.fst) :=
        ((hput.append_left more).trans List.perm_middle).map Prod.fst
      have hmore := ih (hkeys.nodup_iff.2 (List.nodup_cons.2 h))
      rw [orderedMembers]
      exact hmore.trans ((hput.append_left _).trans List.perm_middle)

theorem perm_orderedMembers_nil {ms : List (String × Value)} (h : (ms.map Prod.fst).Nodup) :
    (orderedMembers ms []).Perm (ms.map fun m => (m.1, m.2.ordered)) := by
  have hkeys : ((ms ++ []).map Prod.fst).Nodup := by
    rwa [List.append_nil]
  have hperm := perm_orderedMembers hkeys
  rwa [List.append_nil] at hperm

theorem nodup_orderedMembers {ms : List (String × Value)} (h : (ms.map Prod.fst).Nodup) :
    ((orderedMembers ms []).map Prod.fst).Nodup := by
  rw [((perm_orderedMembers_nil h).map Prod.fst).nodup_iff, List.map_map]
  exact h

/-- What stands under a key does not depend on the order of the members. -/
theorem lookup_orderedMembers {ms : List (String × Value)} (h : (ms.map Prod.fst).Nodup)
    (k : String) : (orderedMembers ms []).lookup k = (ms.lookup k).map ordered := by
  rw [lookup_eq_of_perm (perm_orderedMembers_nil h) (nodup_orderedMembers h), lookup_map]

/-- A plain value stays one. -/
theorem Plain.ordered {v : Value} (h : v.Plain) : v.ordered.Plain := by
  induction h with
  | @list vs _ ih =>
      refine .list fun v hv => ?_
      rw [orderedItems_eq] at hv
      obtain ⟨w, hw, rfl⟩ := List.mem_map.1 hv
      exact ih w hw
  | @object ms hkeys _ ih =>
      refine .object (nodup_orderedMembers hkeys) fun m hm => ?_
      obtain ⟨d, hd, rfl⟩ := List.mem_map.1 ((perm_orderedMembers_nil hkeys).mem_iff.1 hm)
      exact ih d hd
  | null => exact .null
  | boolean b => exact .boolean b
  | natural h => exact .natural h
  | negative hpos h => exact .negative hpos h
  | string s => exact .string s

end Order

section Reading

open Reader

/-- What is read of a value that must not be nested deeper than some levels. -/
def readable? (levels : Nat) (v : Value) : Option Value :=
  if v.depth ≤ levels then some v.ordered else none

/-- What is read of members whose values must not be nested deeper than some levels. -/
def readableMembers? (levels : Nat) (ms : List (String × Value)) :
    Option (List (String × Value)) :=
  if memberDepth ms ≤ levels then some (orderedMembers ms []) else none

theorem mapM_readable? (levels : Nat) (vs : List Value) :
    vs.mapM (readable? levels) =
      if itemDepth vs ≤ levels then some (orderedItems vs) else none := by
  induction vs with
  | nil => simp [itemDepth, orderedItems]
  | cons v more ih =>
      rw [List.mapM_cons, ih, readable?, itemDepth, orderedItems]
      by_cases hv : v.depth ≤ levels
      · by_cases hmore : itemDepth more ≤ levels
        · rw [if_pos hv, if_pos hmore, if_pos (Nat.max_le.2 ⟨hv, hmore⟩)]
          rfl
        · rw [if_pos hv, if_neg hmore, if_neg fun h => hmore (Nat.max_le.1 h).2]
          rfl
      · rw [if_neg hv, if_neg fun h => hv (Nat.max_le.1 h).1]
        rfl

theorem foldlM_readable? (levels : Nat) (ms pairs : List (String × Value)) :
    ms.foldlM (fun pairs m => (m.2.readable? levels).map fun v => put m.1 v pairs) pairs =
      if memberDepth ms ≤ levels then some (orderedMembers ms pairs) else none := by
  induction ms generalizing pairs with
  | nil => simp [memberDepth, orderedMembers]
  | cons m more ih =>
      obtain ⟨k, v⟩ := m
      rw [List.foldlM_cons, readable?, memberDepth, orderedMembers]
      by_cases hv : v.depth ≤ levels
      · rw [if_pos hv]
        show more.foldlM _ (put k v.ordered pairs) = _
        rw [ih]
        by_cases hmore : memberDepth more ≤ levels
        · rw [if_pos hmore, if_pos (Nat.max_le.2 ⟨hv, hmore⟩)]
        · rw [if_neg hmore, if_neg fun h => hmore (Nat.max_le.1 h).2]
      · rw [if_neg hv, if_neg fun h => hv (Nat.max_le.1 h).1]
        rfl

/-- A value that is neither a list nor an object is read at any depth. -/
theorem takes_scalar {v : Value} {t : List Char} (hp : v.Plain) (h : v.Spells t) {f : Found}
    (hf : v.scalar? = some f) (levels : Nat) : Takes (read levels) t (some v) := by
  have hscalar : ∀ c more, t = c :: more → ∀ rest, Stops rest →
      Reads (read.scalar (byte c)) (c :: (more ++ rest)) v rest := by
    intro c more ht rest hrest
    have hfound := reads_found hp h hf ht hrest
    match v, hf with
    | .null, rfl => exact hfound.bind (reads_pure _ rest)
    | .boolean b, rfl => exact hfound.bind (reads_pure _ rest)
    | .number n, rfl => exact hfound.bind (reads_pure _ rest)
    | .string s, rfl => exact hfound.bind (reads_pure _ rest)
  obtain ⟨hlist, hobject⟩ : v.kind ≠ .list ∧ v.kind ≠ .object := by
    cases h with
    | list => cases hf
    | object => cases hf
    | _ => constructor <;> intro hk <;> cases hk
  cases levels with
  | zero =>
      refine takes_first h fun c more ht hc rest hrest => ?_
      have hnot : ¬(byte c = byte '[' ∨ byte c = byte '\x7b') := by
        rintro (hb | hb)
        · exact byte_ne_of_kind hlist hc (List.mem_singleton_self _) hb
        · exact byte_ne_of_kind hobject hc (List.mem_singleton_self _) hb
      rw [if_neg hnot]
      exact hscalar c more ht rest hrest
  | succ levels =>
      refine takes_first h fun c more ht hc rest hrest => ?_
      rw [if_neg (byte_ne_of_kind hlist hc (List.mem_singleton_self _)),
        if_neg (byte_ne_of_kind hobject hc (List.mem_singleton_self _))]
      exact hscalar c more ht rest hrest

/-- Members whose values are read alike are put in the order of their keys. -/
theorem ends_keyed {entries : List (Entry String Value)} {levels : Nat}
    (hkeys : ∀ e ∈ entries, SpellsText e.key e.keyText)
    (h : ∀ e ∈ entries, Takes (read levels) e.item.text (e.item.value.readable? levels))
    (inner : Blanks) (rest : List Char) :
    Ends (keyed (read levels)) (objectChars inner entries ++ rest)
      (readableMembers? levels (entries.map Entry.member)) rest := by
  have hentries : ∀ e ∈ entries, TakesEntry (fun pairs key => do
      colon
      let a ← read levels
      pure (put key a pairs)) e
      fun pairs => (e.item.value.readable? levels).map fun a => put e.key a pairs :=
    fun e he => takesEntry_colon (hkeys e he) (h e he) fun pairs a => put e.key a pairs
  have hends := ends_members hentries inner rest []
  have hmembers : entries.foldlM (fun pairs e =>
        (e.item.value.readable? levels).map fun a => put e.key a pairs) [] =
      readableMembers? levels (entries.map Entry.member) := by
    rw [readableMembers?, ← foldlM_readable?, List.foldlM_map]
    rfl
  rw [hmembers] at hends
  have hchars : objectChars inner entries ++ rest =
      '\x7b' :: (layout inner (entries.map Entry.chars) ++ '\x7d' :: rest) := by
    simp [objectChars]
  rw [hchars]
  exact ends_inObject .none hends

/-- From any of its texts a value is read unless it is nested too deep. -/
theorem takes_read {v : Value} {t : List Char} (hp : v.Plain) (h : v.Spells t) (levels : Nat) :
    Takes (read levels) t (v.readable? levels) := by
  induction h generalizing levels with
  | list inner items hitems ih =>
      cases levels with
      | zero => exact takes_byFirst (by decide) fun rest _ => fails_failNext _ _ rest
      | succ levels =>
          have htakes : ∀ i ∈ items, TakesItem (read levels) i (i.value.readable? levels) :=
            fun i hi => ⟨(hitems i hi).valid,
              ih i hi (plain_list_iff.1 hp i.value (List.mem_map_of_mem hi)) levels⟩
          refine takes_byFirst (by decide) fun rest _ => ?_
          have hends := ends_inList .none (ends_items htakes inner rest)
          rw [if_pos rfl, List.append_assoc]
          have hvalue : readable? (levels + 1) (.list (items.map Item.value)) =
              (items.mapM fun i : Item Value => i.value.readable? levels).map Value.list := by
            have hitems := mapM_readable? levels (items.map Item.value)
            rw [List.mapM_map] at hitems
            show _ = (items.mapM (readable? levels ∘ Item.value)).map Value.list
            rw [hitems]
            simp only [readable?, depth, ordered, Nat.add_le_add_iff_right]
            split <;> rfl
          rw [hvalue]
          exact hends.map Value.list
  | object inner entries hkeys hentries ih =>
      cases levels with
      | zero => exact takes_byFirst (by decide) fun rest _ => fails_failNext _ _ rest
      | succ levels =>
          have htakes : ∀ e ∈ entries,
              Takes (read levels) e.item.text (e.item.value.readable? levels) := fun e he =>
            ih e he ((plain_object_iff.1 hp).2 e.member (List.mem_map_of_mem he)) levels
          refine takes_byFirst (by decide) fun rest _ => ?_
          have hends := ends_keyed hkeys htakes inner rest
          rw [if_neg (by decide), if_pos rfl]
          have hvalue : readable? (levels + 1) (.object (entries.map Entry.member)) =
              (readableMembers? levels (entries.map Entry.member)).map Value.object := by
            simp only [readable?, readableMembers?, depth, ordered, Nat.add_le_add_iff_right]
            split <;> rfl
          rw [hvalue]
          exact hends.map Value.object
  | null => exact takes_scalar hp .null rfl levels
  | true => exact takes_scalar hp .true rfl levels
  | false => exact takes_scalar hp .false rfl levels
  | natural n => exact takes_scalar hp (.natural n) rfl levels
  | negative n => exact takes_scalar hp (.negative n) rfl levels
  | string h => exact takes_scalar hp (.string h) rfl levels

/-- An object is read by its keys unless it is nested too deep. -/
theorem takes_readKeyed {ms : List (String × Value)} {t : List Char}
    (hp : (object ms).Plain) (h : (object ms).Spells t) :
    Takes readKeyed t (readableMembers? (levels - 1) ms) := by
  cases h with
  | object inner entries hkeys hentries =>
      refine takes_byFirst (by decide) fun rest _ => ?_
      rw [if_pos rfl]
      refine ends_keyed hkeys (fun e he => ?_) inner rest
      exact takes_read ((plain_object_iff.1 hp).2 e.member (List.mem_map_of_mem he))
        (hentries e he) _

end Reading

end Value

end Json
end RequestGuard
