import RequestGuard.Proofs.Upgrade.Payload
import RequestGuard.Proofs.Upgrade.Session
import RequestGuard.Proofs.Upgrade.Walk
import RequestGuard.Upgrade.RuleDocument

/-!
# Rule documents as their values tell them

A document of rules gives hosts their lists of rule sets.  What it makes of an address can
be told from its members (`RuleDocument.answer?`), and it can be had from the rules that are
stored of it.

* `RuleDocument.entries_of_depth_le`, `RuleDocument.entries_of_lt_depth`: a text of a sound
  document is taken apart into its rules unless it is nested too deep.
* `RuleDocument.answer?_rules`: the rules stored of a document make of an address what the
  document makes of it.
* `RuleDocument.putAll_stored`: put into an empty table, these rules are its rows.
-/

namespace RequestGuard
namespace Upgrade
namespace RuleDocument

open Json Text

section Documents

/-- A document that gives each host one list, also when hosts are in normal form. -/
structure Sound (ms : List (String × Value)) : Prop where
  /-- The document can be told from any of its texts. -/
  plain : (Value.object ms).Plain
  /-- Every host has a list. -/
  lists : ∀ m ∈ ms, ∃ vs, m.2 = .list vs
  /-- Hosts are told apart in normal form. -/
  hosts : (ms.map fun m => Host.normalize m.1).Nodup

/-- A document with one host. -/
theorem sound_singleton (host : String) {v : Value} (h : v.Plain) (hlist : ∃ vs, v = .list vs) :
    Sound [(host, v)] where
  plain := .object (by simp) (List.forall_mem_singleton.2 h)
  lists := List.forall_mem_singleton.2 hlist
  hosts := by simp

/-- The lists of a document by their hosts in normal form. -/
def byHost (ms : List (String × Value)) : List (String × Value) :=
  ms.map fun m => (Host.normalize m.1, m.2)

/-- What a document makes of an address: the first result of the lists under the keys of its
host.  A list that does not hold rule sets counts as none. -/
def answer? (ms : List (String × Value)) (url : String) : Option String :=
  (insecureHost? url).bind fun host =>
    (keys host).findSome? fun key =>
      ((byHost ms).lookup key).bind fun v =>
        (ruleSets? v).bind fun sets => upgradeBySets? sets url

end Documents

section Entries

variable {ms : List (String × Value)} {t : List Char}

/-- The rules of a document as they are stored. -/
def stored (ms : List (String × Value)) : List (String × String) :=
  (Value.orderedMembers ms []).map fun m => (Host.normalize m.1, m.2.text)

theorem Sound.nodup_keys (h : Sound ms) : (ms.map Prod.fst).Nodup :=
  (Value.plain_object_iff.1 h.plain).1

/-- Every host has a list after the members were put in order. -/
theorem Sound.ordered_lists (h : Sound ms) :
    ∀ m ∈ Value.orderedMembers ms [], ∃ vs, m.2 = .list vs := by
  intro m hm
  obtain ⟨d, hd, rfl⟩ :=
    List.mem_map.1 ((Value.perm_orderedMembers_nil h.nodup_keys).mem_iff.1 hm)
  obtain ⟨vs, hvs⟩ := h.lists d hd
  refine ⟨Value.orderedItems vs, ?_⟩
  show d.2.ordered = _
  rw [hvs, Value.ordered]

theorem mapM_entry {members : List (String × Value)}
    (h : ∀ m ∈ members, ∃ vs, m.2 = .list vs) :
    members.mapM entry = .ok (members.map fun m => (Host.normalize m.1, m.2.text)) := by
  induction members with
  | nil => rfl
  | cons m more ih =>
      obtain ⟨host, v⟩ := m
      obtain ⟨vs, rfl⟩ : ∃ vs, v = .list vs := h (host, v) List.mem_cons_self
      rw [List.mapM_cons, ih fun d hd => h d (List.mem_cons_of_mem _ hd)]
      rfl

/-- A document that is not nested too deep is taken apart into its rules. -/
theorem entries_of_depth_le (h : Sound ms) (ht : (Value.object ms).Spells t)
    (hdepth : (Value.object ms).depth ≤ Value.levels) (ws ws' : Blanks) :
    entries (String.ofList (ws.chars ++ (t ++ ws'.chars))) = .ok (stored ms) := by
  have hmembers : Value.memberDepth ms ≤ Value.levels - 1 := by
    rw [Value.depth] at hdepth
    exact Nat.le_sub_of_add_le hdepth
  have htakes := Value.takes_readKeyed h.plain ht
  rw [Value.readableMembers?, if_pos hmembers] at htakes
  rw [entries, Utf8.bytes, String.toList_ofList,
    Reader.ofText_eq_ok_of_takes htakes ws ws']
  exact mapM_entry h.ordered_lists

/-- A document that is nested too deep gives no rules. -/
theorem entries_of_lt_depth (h : Sound ms) (ht : (Value.object ms).Spells t)
    (hdepth : Value.levels < (Value.object ms).depth) (ws ws' : Blanks) :
    ∃ reason, entries (String.ofList (ws.chars ++ (t ++ ws'.chars))) =
      .error (.unreadable reason) := by
  have hmembers : ¬Value.memberDepth ms ≤ Value.levels - 1 := by
    rw [Value.depth] at hdepth
    have hlevels : Value.levels = 127 := rfl
    omega
  have htakes := Value.takes_readKeyed h.plain ht
  rw [Value.readableMembers?, if_neg hmembers] at htakes
  obtain ⟨fault, hfault⟩ := Reader.exists_ofText_eq_error_of_takes htakes ws ws'
  refine ⟨fault.message (Utf8.bytes (String.ofList (ws.chars ++ (t ++ ws'.chars)))), ?_⟩
  rw [entries, Utf8.bytes, String.toList_ofList, hfault]

end Entries

section Answers

variable {ms : List (String × Value)}

/-- The rules of a document are stored in some order of their hosts. -/
theorem Sound.perm_stored (h : Sound ms) :
    (stored ms).Perm ((byHost ms).map fun m => (m.1, m.2.ordered.text)) := by
  rw [byHost, List.map_map]
  have hperm := (Value.perm_orderedMembers_nil h.nodup_keys).map
    fun m => (Host.normalize m.1, m.2.text)
  rw [List.map_map] at hperm
  exact hperm

theorem Sound.nodup_stored (h : Sound ms) : ((stored ms).map Prod.fst).Nodup := by
  rw [(h.perm_stored.map Prod.fst).nodup_iff, byHost, List.map_map, List.map_map]
  exact h.hosts

/-- The rules that are stored of a document. -/
def rules (ms : List (String × Value)) : Rules :=
  fun key => (stored ms).lookup key

theorem Sound.rules_eq (h : Sound ms) (key : String) :
    rules ms key = ((byHost ms).lookup key).map fun v => v.ordered.text := by
  rw [rules, lookup_eq_of_perm h.perm_stored h.nodup_stored]
  exact lookup_map (fun v : Value => v.ordered.text) (byHost ms) key

theorem Sound.plain_of_lookup (h : Sound ms) {key : String} {v : Value}
    (hv : (byHost ms).lookup key = some v) : v.Plain := by
  obtain ⟨l₁, l₂, hsplit, -⟩ := List.lookup_eq_some_iff.1 hv
  have hmem : (key, v) ∈ byHost ms := by
    rw [hsplit]
    exact List.mem_append_right _ List.mem_cons_self
  obtain ⟨m, hm, hm'⟩ := List.mem_map.1 hmem
  obtain rfl : m.2 = v := congrArg Prod.snd hm'
  exact (Value.plain_object_iff.1 h.plain).2 m hm

/-- The payload that is stored for a host makes of an address what its list makes of it. -/
theorem Sound.under?_rules (h : Sound ms) (url key : String) :
    (rules ms).under? url key = ((byHost ms).lookup key).bind fun v =>
      (ruleSets? v).bind fun sets => upgradeBySets? sets url := by
  rw [Rules.under?, h.rules_eq]
  cases hv : (byHost ms).lookup key with
  | none => rfl
  | some v =>
      show upgraded? v.ordered.text url = _
      rw [upgraded?, ofPayload?_text_ordered (h.plain_of_lookup hv)]
      rfl

/-- The rules stored of a document make of an address what the document makes of it. -/
theorem answer?_rules (h : Sound ms) (url : String) :
    (rules ms).answer? url = answer? ms url := by
  rw [Rules.answer?, answer?]
  congr 1
  funext host
  exact congrArg (fun f => (keys host).findSome? f) (funext (h.under?_rules url))

/-- The table of the rules of a document. -/
def table (ms : List (String × Value)) : Table :=
  ⟨.keyed, (stored ms).map fun e => (e.1, .text e.2)⟩

/-- The database of the rules of a document. -/
def database (ms : List (String × Value)) : Database :=
  ⟨some (table ms)⟩

theorem putAll_stored (h : Sound ms) (engine : Engine) :
    Table.empty.putAll engine (stored ms) = .ok (table ms) := by
  have hnew : (([] : Rows).map Prod.fst ++ (stored ms).map Prod.fst).Nodup := h.nodup_stored
  rw [Table.empty, Table.putAll_keyed, Table.replacedAll_of_nodup hnew]
  rfl

end Answers

end RuleDocument
end Upgrade
end RequestGuard
