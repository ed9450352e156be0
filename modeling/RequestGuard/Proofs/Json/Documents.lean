import RequestGuard.Proofs.Json.Records

/-!
# Documents of records

Texts that give some members of a record, in any order and with other members among them.

* `SpellsObject members names t`: the text `t` of an object has members of the given names.
  How the values of known members may be written is told by `members`; under other names
  stands any value.
* `takes_spellsObject`: from such a text a record is read in which the members of the given
  names are as told and all others as at the start.
* `SpellsList S as t`: the text `t` of a list has texts of the values `as`.
-/

namespace RequestGuard
namespace Json

open Text

/-- How a value may be written. -/
abbrev Spelling : Type := List Char → Prop

section Texts

variable {α : Type}

/-- The text of an object that gives members under some names, known ones at most once. -/
inductive SpellsObject (members : List (String × Spelling)) : List String → Spelling where
  | intro {β : Type} (inner : Blanks) (entries : List (Entry String β))
      (hkeys : ∀ e ∈ entries, SpellsText e.key e.keyText)
      (hvalues : ∀ e ∈ entries, (members.lookup e.key).getD Valid e.item.text)
      (hone : ((entries.map Entry.key).filter (members.map Prod.fst).contains).Nodup) :
      SpellsObject members (entries.map Entry.key) (objectChars inner entries)

/-- The text of a list of values, each of which may be written as `S` tells. -/
def SpellsList (S : α → Spelling) (as : List α) : Spelling := fun t =>
  ∃ (inner : Blanks) (items : List (Item α)), items.map Item.value = as ∧
    (∀ i ∈ items, S i.value i.text) ∧ t = listChars inner items

theorem SpellsObject.valid {members : List (String × Spelling)} {names : List String}
    {t : List Char} (hmembers : ∀ p ∈ members, ∀ t, p.2 t → Valid t)
    (h : SpellsObject members names t) : Valid t := by
  cases h with
  | intro inner entries hkeys hvalues hone =>
      refine .object inner entries (fun e he => (hkeys e he).valid) fun e he => ?_
      have hvalue := hvalues e he
      cases hlookup : members.lookup e.key with
      | none => rwa [hlookup] at hvalue
      | some S =>
          rw [hlookup] at hvalue
          obtain ⟨l₁, l₂, rfl, -⟩ := List.lookup_eq_some_iff.1 hlookup
          exact hmembers (e.key, S) (by simp) _ hvalue

theorem SpellsList.valid {S : α → Spelling} {as : List α} {t : List Char}
    (hS : ∀ a ∈ as, ∀ t, S a t → Valid t) (h : SpellsList S as t) : Valid t := by
  obtain ⟨inner, items, rfl, hitems, rfl⟩ := h
  exact .list inner items fun i hi => hS i.value (List.mem_map_of_mem hi) _ (hitems i hi)

/-- The text of an object with some members is one that gives them. -/
theorem Value.Spells.spellsObject {ms : List (String × Value)} {t : List Char}
    (h : (Value.object ms).Spells t) {members : List (String × Spelling)}
    (hkeys : (ms.map Prod.fst).Nodup)
    (hms : ∀ m ∈ ms, ∀ t, m.2.Spells t → (members.lookup m.1).getD Valid t) :
    SpellsObject members (ms.map Prod.fst) t := by
  cases h with
  | object inner entries hentries hvalues =>
      have hnames : (entries.map Entry.member).map Prod.fst = entries.map Entry.key := by
        rw [List.map_map]
        rfl
      rw [hnames] at hkeys ⊢
      exact .intro inner entries hentries
        (fun e he => hms e.member (List.mem_map_of_mem he) _ (hvalues e he)) (hkeys.filter _)

/-- The text of a list of values is one of a list of what they stand for. -/
theorem Value.Spells.spellsList {as : List α} {f : α → Value} {t : List Char}
    (h : (Value.list (as.map f)).Spells t) {S : α → Spelling}
    (hS : ∀ a ∈ as, ∀ t, (f a).Spells t → S a t) : SpellsList S as t := by
  generalize hvs : as.map f = vs at h
  cases h with
  | list inner items hitems =>
      have hmore : ∃ bs : List (Item α), bs.map Item.value = as ∧ (∀ i ∈ bs, S i.value i.text) ∧
          bs.map Item.chars = items.map Item.chars := by
        induction items generalizing as with
        | nil =>
            obtain rfl := List.map_eq_nil_iff.1 hvs
            exact ⟨[], rfl, nofun, rfl⟩
        | cons i more ih =>
            obtain ⟨a, bs, rfl, ha, hbs⟩ := List.map_eq_cons_iff.1 hvs
            obtain ⟨cs, rfl, hcs, hchars⟩ := ih (fun b hb => hS b (List.mem_cons_of_mem a hb))
              (fun j hj => hitems j (List.mem_cons_of_mem i hj)) hbs
            have hi := hS a List.mem_cons_self i.text (ha ▸ hitems i List.mem_cons_self)
            refine ⟨⟨i.before, a, i.text, i.behind⟩ :: cs, rfl, ?_, ?_⟩
            · exact List.forall_mem_cons.2 ⟨hi, hcs⟩
            · rw [List.map_cons, List.map_cons, hchars]
              rfl
      obtain ⟨bs, hvalues, hbs, hchars⟩ := hmore
      exact ⟨inner, bs, hvalues, hbs, by rw [listChars, listChars, hchars]⟩

end Texts

namespace Reader

variable {α σ : Type}

/-- A list whose values are all read is read. -/
theorem takes_spellsList {S : α → Spelling} {as : List α} {t : List Char} (h : SpellsList S as t)
    {β : Type} {r : Reader β} {f : α → β}
    (hr : ∀ a ∈ as, ∀ t, S a t → Valid t ∧ Takes r t (some (f a))) :
    Takes (list r) t (some (as.map f)) := by
  obtain ⟨inner, items, rfl, hitems, rfl⟩ := h
  have htakes : ∀ i ∈ items, TakesItem r i (some (f i.value)) := fun i hi =>
    hr i.value (List.mem_map_of_mem hi) _ (hitems i hi)
  have hlist := takes_list htakes inner
  rw [mapM_eq_some_map (g := fun i : Item α => f i.value) fun _ _ => rfl] at hlist
  rw [List.map_map]
  exact hlist

/-- How a record is put together from the members of some names: `change` copies the member
of a name into it. -/
structure Parts (r : Record σ) (change : String → σ → σ) (only : (String → Bool) → σ) :
    Prop where
  /-- Without members it is as at the start. -/
  start : only (fun _ => false) = r.start
  /-- One member more is copied. -/
  more : ∀ m ∈ r.members, ∀ given : String → Bool, given m.name = false →
    change m.name (only given) = only fun n => n == m.name || given n
  /-- Other names do not count. -/
  congr : ∀ given given' : String → Bool, (∀ n ∈ r.names, given n = given' n) →
    only given = only given'

theorem Parts.told {r : Record σ} {change : String → σ → σ} {only : (String → Bool) → σ}
    (h : Parts r change only) (β : Type) :
    r.Told (fun n (_ : β) => some (change n)) fun given => some (only fun n => (given n).isSome) where
  start := congrArg some h.start
  more := fun m hm given b hgiven => by
    show some _ = some (change m.name (only fun n => (given n).isSome))
    rw [h.more m hm _ (by rw [hgiven]; rfl)]
    congr 2
    funext n
    rw [withGiven]
    by_cases hn : n = m.name
    · rw [if_pos hn, beq_iff_eq.2 hn]
      rfl
    · rw [if_neg hn, beq_eq_false_iff_ne.2 hn]
      rfl
  congr := fun given given' hsame =>
    congrArg some (h.congr _ _ fun n hn => congrArg Option.isSome (hsame n hn))

/-- A record is read from any text that gives some of its members. -/
theorem takes_spellsObject {r : Record σ} {change : String → σ → σ} {only : (String → Bool) → σ}
    (h : Parts r change only) {members : List (String × Spelling)}
    (hnames : members.map Prod.fst = r.names)
    (hread : ∀ m ∈ r.members, ∀ t, (members.lookup m.name).getD Valid t →
      Takes m.read t (some (change m.name)))
    {names : List String} {t : List Char} (ht : SpellsObject members names t)
    (hrequired : ∀ m ∈ r.members, m.required = true → m.name ∈ names) :
    Takes r.read t (some (only names.contains)) := by
  cases ht with
  | @intro β inner entries hkeys hvalues hone =>
      have hentries : ∀ e ∈ entries, r.TakesMember e (some (change e.key)) := fun e he =>
        { key := hkeys e he
          known := fun m hm hname => hname ▸ hread m hm _ (hname ▸ hvalues e he)
          unknown := fun hunknown => by
            have hvalue := hvalues e he
            rwa [lookup_eq_none (hnames ▸ hunknown)] at hvalue }
      have htaken := Record.takes_objectChars (h.told β) hentries (hnames ▸ hone) inner
      have hgiven : ∀ n, ((entries.map Entry.member).lookup n).isSome =
          (entries.map Entry.key).contains n := by
        intro n
        rw [Bool.eq_iff_iff, isSome_lookup_iff, List.contains_iff_mem, List.map_map]
        exact Iff.rfl
      have hall : (r.members.all fun m => !m.required ||
          ((entries.map Entry.member).lookup m.name).isSome) = true := by
        refine List.all_eq_true.2 fun m hm => ?_
        rw [hgiven]
        cases hm' : m.required with
        | false => rfl
        | true => exact List.contains_iff_mem.2 (hrequired m hm hm')
      rw [Record.ofGiven, if_pos hall] at htaken
      simp only [hgiven] at htaken
      exact htaken

end Reader
end Json
end RequestGuard
