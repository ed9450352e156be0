import Mathlib.Data.List.Induction
import RequestGuard.Proofs.Json.Kinds
import RequestGuard.Proofs.Json.Lookup

/-!
# Reading records

What the reader of a record makes of an object and of a list.

* `Told r out told`: `told` says which record results from the values that are given under
  names, and `out` what one value makes of a record.  A value that is given later adds what
  it makes to what was told before.
* `takes_objectChars`: the members of an object may come in any order, others may stand among
  them, and the record is the one that their values tell.
* `takes_listChars`: so it is with a list, whose values are given under the names in turn.
* `agrees_read`: on every text of a plain value the reader answers what the value tells.
-/

namespace RequestGuard
namespace Json

section Given

variable {β : Type}

/-- What is given under names, with one value more. -/
def withGiven (given : String → Option β) (name : String) (b : β) : String → Option β :=
  fun n => if n = name then some b else given n

/-- The values that are given under some names, as far as the value is an object or a list
that is not too long. -/
def Value.fields? (names : List String) : Value → Option (String → Option Value)
  | .object members => some fun n => members.lookup n
  | .list vs =>
    if vs.length ≤ names.length then some fun n => (names.zip vs).lookup n else none
  | _ => none

end Given

namespace Record

open Reader

variable {σ β : Type} {r : Record σ} {out : String → β → Option (σ → σ)}
  {told : (String → Option β) → Option σ}

/-- The names of the members. -/
def names (r : Record σ) : List String :=
  r.members.map (·.name)

/-- The record that results from given values; those that must be given must be there. -/
def ofGiven (r : Record σ) (told : (String → Option β) → Option σ)
    (given : String → Option β) : Option σ :=
  if r.members.all fun m => !m.required || (given m.name).isSome then told given else none

/-- How given values tell a record: `told` what results from all, `out` what one makes of a
record. -/
structure Told (r : Record σ) (out : String → β → Option (σ → σ))
    (told : (String → Option β) → Option σ) : Prop where
  /-- Nothing is given. -/
  start : told (fun _ => none) = some r.start
  /-- One value more is given. -/
  more : ∀ m ∈ r.members, ∀ (given : String → Option β) (b : β), given m.name = none →
    told (withGiven given m.name b) = (told given).bind fun s => (out m.name b).map (· s)
  /-- What is given under other names does not count. -/
  congr : ∀ given given' : String → Option β, (∀ n ∈ r.names, given n = given' n) →
    told given = told given'

section Objects

/-- What follows a key makes of the record so far and the names seen. -/
def step (r : Record σ) (name : String) (change? : Option (σ → σ)) (s : σ × List String) :
    Option (σ × List String) :=
  if r.names.contains name then
    if s.2.contains name then none else change?.map fun change => (change s.1, name :: s.2)
  else some s

/-- The record at the end, unless a name that must be seen was not. -/
def finish (r : Record σ) (s : σ × List String) : Option σ :=
  if r.members.all fun m => !m.required || s.2.contains m.name then some s.1 else none

/-- An entry that makes a change under a name of the record, or any value under another. -/
structure TakesMember (r : Record σ) (e : Entry String β) (change? : Option (σ → σ)) : Prop where
  key : SpellsText e.key e.keyText
  known : ∀ m ∈ r.members, m.name = e.key → Takes m.read e.item.text change?
  unknown : e.key ∉ r.names → Valid e.item.text

theorem contains_names_of_find? {name : String} {m : Member σ}
    (h : r.members.find? (·.name == name) = some m) :
    m ∈ r.members ∧ m.name = name ∧ r.names.contains name = true := by
  have hmem := List.mem_of_find?_eq_some h
  have hname : m.name = name := by simpa using List.find?_some h
  refine ⟨hmem, hname, List.contains_iff_mem.2 ?_⟩
  exact hname ▸ List.mem_map_of_mem hmem

theorem not_mem_names_of_find? {name : String}
    (h : r.members.find? (·.name == name) = none) : name ∉ r.names := by
  intro hmem
  obtain ⟨m, hm, rfl⟩ := List.mem_map.1 hmem
  simpa using List.find?_eq_none.1 h m hm

theorem takesEntry_member {e : Entry String β} {change? : Option (σ → σ)}
    (h : r.TakesMember e change?) : TakesEntry r.member e (r.step e.key change?) := by
  refine ⟨h.key, fun s rest hrest => ?_⟩
  have hchars : e.tail ++ rest =
      e.behind.chars ++ ':' :: (e.item.before.chars ++ (e.item.text ++ rest)) := by
    simp [Entry.tail]
  rw [hchars, member, step]
  cases hfind : r.members.find? (·.name == e.key) with
  | none =>
      have hunknown := not_mem_names_of_find? hfind
      rw [if_neg (by simpa using hunknown)]
      have hpassed := takes_anything (h.unknown hunknown) e.item.before rest hrest
      exact (reads_colon e.behind _).bind (Reads.bind hpassed (reads_pure s rest))
  | some m =>
      obtain ⟨hm, hname, hknown⟩ := contains_names_of_find? hfind
      rw [if_pos hknown]
      show Ends (if s.2.contains e.key then _ else _) _ _ _
      split
      · exact fails_failWithin _ _ rest
      · have hread := h.known m hm hname e.item.before rest hrest
        exact (reads_colon e.behind _).bind
          (hread.map fun change => (change s.1, e.key :: s.2))

theorem ends_complete (s : σ × List String) (cs : List Char) :
    Ends (r.complete s) cs (r.finish s) cs := by
  rw [complete, finish]
  cases hfind : r.members.find? fun m => m.required && !s.2.contains m.name with
  | none =>
      have hall : (r.members.all fun m => !m.required || s.2.contains m.name) = true := by
        rw [List.all_eq_true]
        intro m hm
        have hm' := List.find?_eq_none.1 hfind m hm
        revert hm'
        cases m.required <;> cases s.2.contains m.name <;> decide
      rw [if_pos hall]
      exact reads_pure s.1 cs
  | some m =>
      have hmissing := List.find?_some hfind
      have hnot : ¬(r.members.all fun m => !m.required || s.2.contains m.name) = true := by
        intro hall
        have hm' := List.all_eq_true.1 hall m (List.mem_of_find?_eq_some hfind)
        revert hm' hmissing
        cases m.required <;> cases s.2.contains m.name <;> decide
      rw [if_neg hnot]
      exact fails_failWithin _ cs cs

/-- The names of the record among those of some pairs. -/
def seen (r : Record σ) (pairs : List (String × β)) : List String :=
  ((pairs.map Prod.fst).filter r.names.contains).reverse

theorem contains_seen (pairs : List (String × β)) {n : String} (hn : n ∈ r.names) :
    (r.seen pairs).contains n = (pairs.lookup n).isSome := by
  rw [Bool.eq_iff_iff, List.contains_iff_mem, seen, List.mem_reverse, List.mem_filter,
    isSome_lookup_iff]
  exact and_iff_left (List.contains_iff_mem.2 hn)

theorem seen_append (pairs : List (String × β)) (name : String) (b : β) :
    r.seen (pairs ++ [(name, b)]) =
      if r.names.contains name then name :: r.seen pairs else r.seen pairs := by
  rw [seen, List.map_append, List.filter_append, List.reverse_append]
  show ([name].filter r.names.contains).reverse ++ r.seen pairs = _
  rw [List.filter_cons]
  split <;> rfl

/-- One more member is given behind others. -/
theorem told_append (h : r.Told out told) (pairs : List (String × β)) (name : String) (b : β)
    (hname : name ∈ r.names → name ∉ r.seen pairs) :
    (told fun n => (pairs ++ [(name, b)]).lookup n) =
      if r.names.contains name then
        (told fun n => pairs.lookup n).bind fun s => (out name b).map (· s)
      else told fun n => pairs.lookup n := by
  have hlookup : ∀ n, (pairs ++ [(name, b)]).lookup n =
      (pairs.lookup n).or (if n = name then some b else none) := by
    intro n
    rw [List.lookup_append, List.lookup_cons]
    by_cases hn : n = name
    · rw [if_pos hn, beq_iff_eq.2 hn]
    · rw [if_neg hn, beq_eq_false_iff_ne.2 hn]
      rfl
  split
  · next hknown =>
      rw [List.contains_iff_mem] at hknown
      obtain ⟨m, hm, rfl⟩ := List.mem_map.1 hknown
      have hnone : pairs.lookup m.name = none := by
        have hnew := contains_seen pairs hknown
        rw [List.contains_eq_mem, decide_eq_false (hname hknown)] at hnew
        exact Option.isNone_iff_eq_none.1 (Option.isSome_eq_false_iff.1 hnew.symm)
      rw [← h.more m hm _ b hnone]
      refine h.congr _ _ fun n _ => ?_
      rw [hlookup, withGiven]
      by_cases hn : n = m.name
      · rw [if_pos hn, if_pos hn, hn, hnone]
        rfl
      · rw [if_neg hn, if_neg hn, Option.or_none]
  · next hunknown =>
      refine h.congr _ _ fun n hn => ?_
      have hne : n ≠ name := by
        rintro rfl
        exact hunknown (List.contains_iff_mem.2 hn)
      rw [hlookup, if_neg hne, Option.or_none]

/-- Members are folded into what they tell together, in any order. -/
theorem foldlM_step (h : r.Told out told) (pairs : List (String × β))
    (hone : (r.seen pairs).Nodup) :
    pairs.foldlM (fun s p => r.step p.1 (out p.1 p.2) s) (r.start, []) =
      (told fun n => pairs.lookup n).map fun s => (s, r.seen pairs) := by
  induction pairs using List.reverseRecOn with
  | nil =>
      have hstart : (told fun n => ([] : List (String × β)).lookup n) = some r.start := h.start
      rw [hstart]
      rfl
  | append_singleton pairs p ih =>
      obtain ⟨name, b⟩ := p
      rw [seen_append] at hone
      have hname : name ∈ r.names → name ∉ r.seen pairs := fun hknown => by
        rw [if_pos (List.contains_iff_mem.2 hknown)] at hone
        exact (List.nodup_cons.1 hone).1
      have hpairs : (r.seen pairs).Nodup := by
        split at hone
        · exact (List.nodup_cons.1 hone).2
        · exact hone
      rw [List.foldlM_append, ih hpairs, told_append h pairs name b hname]
      cases hs : told fun n => pairs.lookup n with
      | none => split <;> rfl
      | some s =>
          show (r.step name (out name b) (s, r.seen pairs)).bind _ = _
          rw [step, seen_append]
          split
          · next hknown =>
              have hnew := hname (List.contains_iff_mem.1 hknown)
              rw [if_neg (mt List.contains_iff_mem.1 hnew)]
              show Option.bind ((out name b).map _) _ = ((out name b).map _).map _
              cases out name b <;> rfl
          · rfl

/-- A record that is folded from its members is the one that they tell. -/
theorem finish_foldlM (h : r.Told out told) (pairs : List (String × β))
    (hone : (r.seen pairs).Nodup) :
    (pairs.foldlM (fun s p => r.step p.1 (out p.1 p.2) s) (r.start, [])).bind r.finish =
      r.ofGiven told fun n => pairs.lookup n := by
  have hall : (r.members.all fun m => !m.required || (r.seen pairs).contains m.name) =
      r.members.all fun m => !m.required || (pairs.lookup m.name).isSome := by
    rw [Bool.eq_iff_iff, List.all_eq_true, List.all_eq_true]
    refine forall₂_congr fun m hm => ?_
    rw [contains_seen pairs (List.mem_map_of_mem hm)]
  rw [foldlM_step h pairs hone, ofGiven, ← hall]
  cases told fun n => pairs.lookup n with
  | none => simp
  | some s => rfl

/-- The members of an object tell its record in any order. -/
theorem takes_objectChars (h : r.Told out told) {entries : List (Entry String β)}
    (hentries : ∀ e ∈ entries, r.TakesMember e (out e.key e.item.value))
    (hone : ((entries.map Entry.key).filter r.names.contains).Nodup) (inner : Blanks) :
    Takes r.read (objectChars inner entries)
      (r.ofGiven told fun n => (entries.map Entry.member).lookup n) := by
  refine takes_byFirst (by decide) fun rest _ => ?_
  rw [if_neg (by decide), if_pos rfl]
  have hends := ends_inObject_members (fun e he => takesEntry_member (hentries e he)) inner rest
    (r.start, []) (o := r.finish) ends_complete
  have hseen : (r.seen (entries.map Entry.member)).Nodup := by
    rw [seen, List.map_map]
    exact (List.reverse_perm _).nodup_iff.2 hone
  rw [← finish_foldlM h _ hseen, List.foldlM_map]
  exact hends

end Objects

section Lists

/-- What values in turn make of a record; values beyond the members are left. -/
def fill (out : String → β → Option (σ → σ)) : List (Member σ) → List β → σ → Option σ
  | [], _, s => some s
  | m :: ms, [], s => if m.required then none else fill out ms [] s
  | m :: ms, b :: bs, s => (out m.name b).bind fun change => fill out ms bs (change s)

theorem ends_fromItems_nil (ms : List (Member σ)) (index : Nat) (first : Bool) (s : σ)
    (ws : Blanks) (rest : List Char) :
    ∃ ws' : Blanks, Ends (fromItems r ms index first s) (ws.chars ++ ']' :: rest)
      (fill out ms [] s) (ws'.chars ++ ']' :: rest) := by
  induction ms generalizing index ws with
  | nil => exact ⟨ws, reads_pure s _⟩
  | cons m ms ih =>
      obtain ⟨ws', hmore⟩ := ih (index + 1) .none
      refine ⟨ws', Reads.bind (reads_anotherItem_end ws first rest) ?_⟩
      rw [fill, if_neg Bool.false_ne_true]
      split
      · exact fails_failWithin _ _ _
      · exact hmore

/-- A value and those behind it. -/
theorem ends_fromItems_cons {m : Member σ} {ms : List (Member σ)} {b : β} {bs : List β}
    {first : Bool} {index : Nat} {cs mid mid' tail : List Char} (s : σ)
    (hanother : Reads (anotherItem first) cs true mid) (hitem : Ends m.read mid (out m.name b) mid')
    (hmore : ∀ s, ∃ ws : Blanks, Ends (fromItems r ms (index + 1) false s) mid'
      (fill out ms bs s) (ws.chars ++ tail)) :
    ∃ ws : Blanks, Ends (fromItems r (m :: ms) index first s) cs
      (fill out (m :: ms) (b :: bs) s) (ws.chars ++ tail) := by
  rw [fill]
  cases hout : out m.name b with
  | none =>
      rw [hout] at hitem
      refine ⟨.none, Reads.bind hanother ?_⟩
      rw [if_pos rfl]
      exact Fails.bind hitem
  | some change =>
      rw [hout] at hitem
      obtain ⟨ws, hrest⟩ := hmore (change s)
      refine ⟨ws, Reads.bind hanother ?_⟩
      rw [if_pos rfl]
      exact Reads.bind hitem hrest

/-- Values are read in turn until there are no more, or no more members. -/
theorem ends_fromItems {ms : List (Member σ)} {items : List (Item β)}
    (h : ∀ m ∈ ms, ∀ i ∈ items, TakesItem m.read i (out m.name i.value)) (index : Nat) (s : σ)
    (ws : Blanks) (rest : List Char) :
    ∃ ws' : Blanks, Ends (fromItems r ms index false s)
      (ws.chars ++ (behindCommas (items.map Item.chars) ++ ']' :: rest))
      (fill out ms (items.map Item.value) s)
      (ws'.chars ++ (behindCommas ((items.drop ms.length).map Item.chars) ++ ']' :: rest)) := by
  induction ms generalizing items index s ws with
  | nil => exact ⟨ws, reads_pure s _⟩
  | cons m ms ih =>
      cases items with
      | nil => exact ends_fromItems_nil (m :: ms) index false s ws rest
      | cons i more =>
          have hitem := h m List.mem_cons_self i List.mem_cons_self
          obtain ⟨c, cs, htext, hc⟩ := hitem.1.exists_starter
          have hends := hitem.ends (stops_blanks i.behind
            (stops_behindCommas (more.map Item.chars) ']' (by decide) rest))
          have hmore := fun s => ih (fun m' hm' j hj =>
            h m' (List.mem_cons_of_mem m hm') j (List.mem_cons_of_mem i hj)) (index + 1) s i.behind
          have hchars : ws.chars ++ (behindCommas ((i :: more).map Item.chars) ++ ']' :: rest) =
              ws.chars ++ ',' :: (i.before.chars ++ c :: (cs ++ (i.behind.chars ++
                (behindCommas (more.map Item.chars) ++ ']' :: rest)))) := by
            simp [behindCommas, Item.chars, htext]
          rw [htext] at hends
          rw [hchars]
          exact ends_fromItems_cons s (reads_anotherItem_next ws i.before hc) hends hmore

/-- The values of a list are read in turn, the first behind no comma. -/
theorem ends_fromItems_layout {ms : List (Member σ)} (hms : ms ≠ []) {items : List (Item β)}
    (h : ∀ m ∈ ms, ∀ i ∈ items, TakesItem m.read i (out m.name i.value)) (index : Nat) (s : σ)
    (inner : Blanks) (rest : List Char) :
    ∃ ws : Blanks, Ends (fromItems r ms index true s)
      (layout inner (items.map Item.chars) ++ ']' :: rest)
      (fill out ms (items.map Item.value) s)
      (ws.chars ++ (behindCommas ((items.drop ms.length).map Item.chars) ++ ']' :: rest)) := by
  obtain ⟨m, ms, rfl⟩ := List.exists_cons_of_ne_nil hms
  cases items with
  | nil => exact ends_fromItems_nil (m :: ms) index true s inner rest
  | cons i more =>
      have hitem := h m List.mem_cons_self i List.mem_cons_self
      obtain ⟨c, cs, htext, hc⟩ := hitem.1.exists_starter
      have hends := hitem.ends (stops_blanks i.behind
        (stops_behindCommas (more.map Item.chars) ']' (by decide) rest))
      have hmore := fun s => ends_fromItems (r := r) (fun m' hm' j hj =>
        h m' (List.mem_cons_of_mem m hm') j (List.mem_cons_of_mem i hj)) (index + 1) s i.behind rest
      have hchars : layout inner ((i :: more).map Item.chars) ++ ']' :: rest =
          i.before.chars ++ c :: (cs ++ (i.behind.chars ++
            (behindCommas (more.map Item.chars) ++ ']' :: rest))) := by
        simp [layout, Item.chars, htext]
      rw [htext] at hends
      rw [hchars]
      exact ends_fromItems_cons s (reads_anotherItem_first i.before hc) hends hmore

theorem fails_listEnd_comma (ws : Blanks) (cs : List Char) :
    Fails listEnd (ws.chars ++ ',' :: cs) := by
  refine Reads.bind (reads_afterBlanks ws (by decide)) ?_
  simp only [show byte ',' ≠ byte ']' by decide, if_false, if_true]
  refine Reads.bind (reads_skip (by decide)) (fails_bind fun b c => ?_)
  cases b with
  | none => exact ⟨_, _, rfl⟩
  | some b => exact ⟨_, _, rfl⟩

/-- The items of a list make a record in turn; none may be left. -/
theorem takes_listChars (hmembers : r.members ≠ []) {items : List (Item β)}
    (h : ∀ m ∈ r.members, ∀ i ∈ items, TakesItem m.read i (out m.name i.value))
    (inner : Blanks) :
    Takes r.read (listChars inner items)
      (if items.length ≤ r.members.length then fill out r.members (items.map Item.value) r.start
      else none) := by
  refine takes_byFirst (by decide) fun rest _ => ?_
  rw [if_pos rfl, List.append_assoc]
  obtain ⟨ws, hbody⟩ := ends_fromItems_layout (r := r) hmembers h 0 r.start inner rest
  split
  · next hle =>
      rw [List.drop_eq_nil_of_le hle] at hbody
      exact ends_inList ws hbody
  · next hlt =>
      obtain ⟨i, more, hdrop⟩ := List.exists_cons_of_ne_nil
        (mt List.drop_eq_nil_iff.1 hlt)
      rw [hdrop] at hbody
      have hopened := (reads_skip (c := '[') (by decide)).bind
        (f := fun _ => fromItems r r.members 0 true r.start) hbody
      cases hfill : fill out r.members (items.map Item.value) r.start with
      | none =>
          rw [hfill] at hopened
          have hfailed : Ends (skip >>= fun _ => fromItems r r.members 0 true r.start) _ none
            (Blanks.none.chars ++ ']' :: rest) := hopened
          exact ends_closedBy hfailed (reads_listEnd .none rest)
      | some s =>
          rw [hfill] at hopened
          exact fails_closedBy hopened (fails_listEnd_comma ws _)

/-- Values that are given in turn tell the record that they make. -/
theorem bind_fill (h : r.Told out told) {ms : List (Member σ)} (hms : ∀ m ∈ ms, m ∈ r.members)
    (hnames : (ms.map (·.name)).Nodup) (bs : List β) (given : String → Option β)
    (hgiven : ∀ m ∈ ms, given m.name = none) :
    ((told given).bind fun s => fill out ms bs s) =
      if ms.all fun m => !m.required || (((ms.map (·.name)).zip bs).lookup m.name).isSome then
        told fun n => (((ms.map (·.name)).zip bs).lookup n).or (given n)
      else none := by
  induction ms generalizing bs given with
  | nil =>
      show (told given).bind some = told given
      exact Option.bind_fun_some _
  | cons m ms ih =>
      rw [List.map_cons, List.nodup_cons] at hnames
      have hmore := fun m' hm' => hms m' (List.mem_cons_of_mem m hm')
      cases bs with
      | nil =>
          have hrest := ih hmore hnames.2 [] given fun m' hm' => hgiven m' (List.mem_cons_of_mem m hm')
          rw [List.zip_nil_right] at hrest ⊢
          rw [List.all_cons]
          cases hrequired : m.required with
          | true => simp [fill, hrequired]
          | false => simpa [fill, hrequired] using hrest
      | cons b bs =>
          have hne : ∀ m' ∈ ms, m'.name ≠ m.name := by
            intro m' hm' he
            exact hnames.1 (he ▸ List.mem_map_of_mem hm')
          have hzip : ((ms.map (·.name)).zip bs).lookup m.name = none := by
            refine lookup_eq_none fun hmem => ?_
            obtain ⟨p, hp, he⟩ := List.mem_map.1 hmem
            exact hnames.1 (he ▸ (List.of_mem_zip hp).1)
          have hrest := ih hmore hnames.2 bs (withGiven given m.name b) fun m' hm' => by
            rw [withGiven, if_neg (hne m' hm')]
            exact hgiven m' (List.mem_cons_of_mem m hm')
          rw [h.more m (hms m List.mem_cons_self) given b (hgiven m List.mem_cons_self)] at hrest
          have hfill : ((told given).bind fun s => fill out (m :: ms) (b :: bs) s) =
              ((told given).bind fun s => (out m.name b).map (· s)).bind fun s =>
                fill out ms bs s := by
            cases told given with
            | none => rfl
            | some s =>
                show (out m.name b).bind _ = ((out m.name b).map _).bind _
                cases out m.name b <;> rfl
          have htold : (fun n => (((ms.map (·.name)).zip bs).lookup n).or
              (withGiven given m.name b n)) =
              fun n => ((((m.name, b) :: (ms.map (·.name)).zip bs)).lookup n).or (given n) := by
            funext n
            rw [List.lookup_cons, withGiven]
            by_cases hn : n = m.name
            · rw [if_pos hn, beq_iff_eq.2 hn, hn, hzip]
              rfl
            · rw [if_neg hn, beq_eq_false_iff_ne.2 hn]
          have hall : ((m :: ms).all fun m' => !m'.required ||
              (((m.name, b) :: (ms.map (·.name)).zip bs).lookup m'.name).isSome) =
              ms.all fun m' => !m'.required ||
                (((ms.map (·.name)).zip bs).lookup m'.name).isSome := by
            rw [List.all_cons, List.lookup_cons_self, Option.isSome_some, Bool.or_true,
              Bool.true_and, Bool.eq_iff_iff, List.all_eq_true, List.all_eq_true]
            refine forall₂_congr fun m' hm' => ?_
            rw [List.lookup_cons, beq_eq_false_iff_ne.2 (hne m' hm')]
          rw [List.map_cons, List.zip_cons_cons, hall, ← htold, hfill]
          exact hrest

theorem fill_eq (h : r.Told out told) (hnames : r.names.Nodup) (bs : List β) :
    fill out r.members bs r.start = r.ofGiven told fun n => (r.names.zip bs).lookup n := by
  have hfill := bind_fill h (fun _ hm => hm) hnames bs (fun _ => none) fun _ _ => rfl
  rw [h.start] at hfill
  simp only [Option.or_none] at hfill
  exact hfill

end Lists

section Agreement

variable {out : String → Value → Option (σ → σ)} {told : (String → Option Value) → Option σ}

/-- The reader of a record answers what the values of an object or a list tell. -/
theorem agrees_read (h : r.Told out told) (hmembers : r.members ≠ []) (hnames : r.names.Nodup)
    (hread : ∀ m ∈ r.members, Agrees m.read (out m.name)) :
    Agrees r.read fun v => (v.fields? r.names).bind (r.ofGiven told) := by
  intro v t hp hv
  by_cases hlist : v.kind = .list
  · cases hv with
    | list inner items hitems =>
        have hplain := Value.plain_list_iff.1 hp
        have htakes : ∀ m ∈ r.members, ∀ i ∈ items, TakesItem m.read i (out m.name i.value) :=
          fun m hm i hi => ⟨(hitems i hi).valid,
            hread m hm (hplain i.value (List.mem_map_of_mem hi)) (hitems i hi)⟩
        have htaken := takes_listChars hmembers htakes inner
        rw [fill_eq h hnames] at htaken
        have hlength : items.length ≤ r.members.length ↔
            (items.map Item.value).length ≤ r.names.length := by
          rw [List.length_map, names, List.length_map]
        simp only [Value.fields?, ← hlength]
        split
        · next hle => rwa [if_pos hle] at htaken
        · next hlt => rwa [if_neg hlt] at htaken
    | _ => cases hlist
  by_cases hobject : v.kind = .object
  · cases hv with
    | object inner entries hkeys hentries =>
        obtain ⟨hnodup, hplain⟩ := Value.plain_object_iff.1 hp
        have hmember : ∀ e ∈ entries, r.TakesMember e (out e.key e.item.value) := fun e he =>
          { key := hkeys e he
            known := fun m hm hname =>
              hname ▸ hread m hm (hplain e.member (List.mem_map_of_mem he)) (hentries e he)
            unknown := fun _ => (hentries e he).valid }
        have hone : ((entries.map Entry.key).filter r.names.contains).Nodup := by
          rw [List.map_map] at hnodup
          exact hnodup.filter _
        exact takes_objectChars h hmember hone inner
    | _ => cases hobject
  · have hnone : v.fields? r.names = none := by
      cases v with
      | list => exact absurd rfl hlist
      | object => exact absurd rfl hobject
      | _ => rfl
    simp only [hnone, Option.bind_none]
    refine takes_refused hv r.expected fun c hc => ?_
    rw [if_neg (byte_ne_of_kind hlist hc (by decide)),
      if_neg (byte_ne_of_kind hobject hc (by decide))]

end Agreement

end Record
end Json
end RequestGuard
