import RequestGuard.Upgrade.RuleSet
import RequestGuard.Proofs.Json.Records
import RequestGuard.Proofs.Json.Values

/-!
# Rule sets as values tell them

The rule sets that a value stands for, told without its text, and what is read of them from
a text.

* `exclusion?`, `rule?`, `ruleSet?` and `ruleSets?`: what a value tells.  A record is an
  object, whose unknown members do not count, or a list of the values of its members.
* `ofPayload?_of_spells`: a payload holds the rule sets that its value tells, however it is
  written.
* `ofPayload?_text_ordered`: so does the payload that is written of a value after its members
  were put in order.
-/

namespace RequestGuard
namespace Upgrade

open Json Text

section Values

variable {α : Type}

/-- What is told of a member, which may be left out. -/
def told? (f : Value → Option α) (default : α) : Option Value → Option α
  | none => some default
  | some v => f v

/-- The pattern of an exclusion. -/
def exclusion? (v : Value) : Option String := do
  let given ← v.fields? ["p"]
  (← given "p").string?

/-- The rule that the members of a value tell. -/
def ruleOf? (given : String → Option Value) : Option Rule := do
  let source? ← told? (Value.optional? Value.string?) none (given "f")
  let template? ← told? (Value.optional? Value.string?) none (given "t")
  let plain ← told? (Value.natural? redirectLimit) 0 (given "d")
  return ⟨source?, template?, plain⟩

/-- The rule that a value tells. -/
def rule? (v : Value) : Option Rule :=
  (v.fields? ["f", "t", "d"]).bind ruleOf?

/-- The rule set that the members of a value tell. -/
def ruleSetOf? (given : String → Option Value) : Option RuleSet := do
  let exclusions ← told? (Value.items? exclusion?) [] (given "e")
  let rules ← told? (Value.items? rule?) [] (given "r")
  return ⟨exclusions, rules⟩

/-- The rule set that a value tells. -/
def ruleSet? (v : Value) : Option RuleSet :=
  (v.fields? ["e", "r"]).bind ruleSetOf?

/-- The rule sets that a list tells. -/
def ruleSets? : Value → Option (List RuleSet) :=
  Value.items? ruleSet?

end Values

section Reading

open Reader

theorem told?_none {α : Type} (f : Value → Option α) (default : α) :
    told? f default none = some default :=
  rfl

theorem told?_some {α : Type} (f : Value → Option α) (default : α) (v : Value) :
    told? f default (some v) = f v :=
  rfl

theorem withGiven_self (given : String → Option Value) (name : String) (v : Value) :
    withGiven given name v name = some v :=
  if_pos rfl

theorem withGiven_of_ne (given : String → Option Value) {name n : String} (h : n ≠ name)
    (v : Value) : withGiven given name v n = given n :=
  if_neg h

theorem agrees_given {σ α : Type} (name : String) {value : Reader α} {set : α → σ → σ}
    {f : Value → Option α} (h : Agrees value f) :
    Agrees (Member.given name value set).read fun v => (f v).map set :=
  fun hp hv => (h hp hv).map set

theorem agrees_exclusion : Agrees exclusionRecord.read exclusion? := by
  have htold : exclusionRecord.Told (fun _ v => v.string?.map fun a _ => a)
      fun given => told? Value.string? "" (given "p") :=
    { start := rfl
      more := fun m hm given v hgiven => by
        obtain rfl := List.mem_singleton.1 hm
        have hnone : given "p" = none := hgiven
        have hsome : withGiven given "p" v "p" = some v := if_pos rfl
        simp only [Member.given, hnone, hsome, told?, Option.bind_some]
        cases v.string? <;> rfl
      congr := fun given given' hsame => by
        rw [hsame "p" (List.mem_singleton_self _)] }
  have hread : ∀ m ∈ exclusionRecord.members,
      Agrees m.read fun v => v.string?.map fun (a : String) (_ : String) => a := by
    intro m hm
    obtain rfl := List.mem_singleton.1 hm
    exact agrees_given "p" agrees_string
  have hvalue : ∀ v : Value, exclusion? v =
      (v.fields? exclusionRecord.names).bind (exclusionRecord.ofGiven fun given =>
        told? Value.string? "" (given "p")) := by
    intro v
    refine congrArg (Option.bind _) (funext fun given => ?_)
    cases hgiven : given "p" with
    | none => simp [Record.ofGiven, exclusionRecord, Member.given, hgiven]
    | some v => simp [Record.ofGiven, exclusionRecord, Member.given, hgiven, told?_some]
  intro v t hp hv
  rw [hvalue]
  exact Record.agrees_read htold (List.cons_ne_nil _ _) (by decide) hread hp hv

/-- What the members of a rule make of it. -/
def ruleChange (name : String) (v : Value) : Option (Rule → Rule) :=
  match name with
  | "f" => (Value.optional? Value.string? v).map fun a r => { r with source? := a }
  | "t" => (Value.optional? Value.string? v).map fun a r => { r with template? := a }
  | "d" => (Value.natural? redirectLimit v).map fun a r => { r with plain := a }
  | _ => none

theorem told_rule : Rule.record.Told ruleChange ruleOf? where
  start := rfl
  more := fun m hm given v hgiven => by
    simp only [Rule.record, List.mem_cons, List.not_mem_nil, or_false] at hm
    -- A rule is refused when any of its members is, so in each case the other two members are
    -- split as well.
    rcases hm with rfl | rfl | rfl
    · have hnone : given "f" = none := hgiven
      rw [ruleOf?, ruleOf?, Member.given, withGiven_self, withGiven_of_ne given (by decide),
        withGiven_of_ne given (by decide), hnone, told?_none, told?_some, ruleChange]
      cases Value.optional? Value.string? v <;>
        cases told? (Value.optional? Value.string?) none (given "t") <;>
          cases told? (Value.natural? redirectLimit) 0 (given "d") <;> rfl
    · have hnone : given "t" = none := hgiven
      rw [ruleOf?, ruleOf?, Member.given, withGiven_self, withGiven_of_ne given (by decide),
        withGiven_of_ne given (by decide), hnone, told?_none, told?_some, ruleChange]
      cases Value.optional? Value.string? v <;>
        cases told? (Value.optional? Value.string?) none (given "f") <;>
          cases told? (Value.natural? redirectLimit) 0 (given "d") <;> rfl
    · have hnone : given "d" = none := hgiven
      rw [ruleOf?, ruleOf?, Member.given, withGiven_self, withGiven_of_ne given (by decide),
        withGiven_of_ne given (by decide), hnone, told?_none, told?_some, ruleChange]
      cases Value.natural? redirectLimit v <;>
        cases told? (Value.optional? Value.string?) none (given "f") <;>
          cases told? (Value.optional? Value.string?) none (given "t") <;> rfl
  congr := fun given given' hsame => by
    rw [ruleOf?, ruleOf?, hsame "f" (by decide), hsame "t" (by decide), hsame "d" (by decide)]

theorem agrees_rule : Agrees Rule.record.read rule? := by
  refine Record.agrees_read told_rule (List.cons_ne_nil _ _) (by decide) fun m hm => ?_
  simp only [Rule.record, List.mem_cons, List.not_mem_nil, or_false] at hm
  rcases hm with rfl | rfl | rfl
  · exact agrees_given "f" (agrees_optional agrees_string)
  · exact agrees_given "t" (agrees_optional agrees_string)
  · exact agrees_given "d" (agrees_naturalUpTo redirectLimit _)

/-- What the members of a rule set make of it. -/
def ruleSetChange (name : String) (v : Value) : Option (RuleSet → RuleSet) :=
  match name with
  | "e" => (Value.items? exclusion? v).map fun a s => { s with exclusions := a }
  | "r" => (Value.items? rule? v).map fun a s => { s with rules := a }
  | _ => none

theorem told_ruleSet : RuleSet.record.Told ruleSetChange ruleSetOf? where
  start := rfl
  more := fun m hm given v hgiven => by
    simp only [RuleSet.record, List.mem_cons, List.not_mem_nil, or_false] at hm
    rcases hm with rfl | rfl
    · have hnone : given "e" = none := hgiven
      rw [ruleSetOf?, ruleSetOf?, Member.given, withGiven_self, withGiven_of_ne given (by decide),
        hnone, told?_none, told?_some, ruleSetChange]
      cases Value.items? exclusion? v <;>
        cases told? (Value.items? rule?) [] (given "r") <;> rfl
    · have hnone : given "r" = none := hgiven
      rw [ruleSetOf?, ruleSetOf?, Member.given, withGiven_self, withGiven_of_ne given (by decide),
        hnone, told?_none, told?_some, ruleSetChange]
      cases Value.items? rule? v <;>
        cases told? (Value.items? exclusion?) [] (given "e") <;> rfl
  congr := fun given given' hsame => by
    rw [ruleSetOf?, ruleSetOf?, hsame "e" (by decide), hsame "r" (by decide)]

theorem agrees_ruleSet : Agrees RuleSet.record.read ruleSet? := by
  refine Record.agrees_read told_ruleSet (List.cons_ne_nil _ _) (by decide) fun m hm => ?_
  simp only [RuleSet.record, List.mem_cons, List.not_mem_nil, or_false] at hm
  rcases hm with rfl | rfl
  · exact agrees_given "e" (agrees_list agrees_exclusion)
  · exact agrees_given "r" (agrees_list agrees_rule)

/-- A payload holds the rule sets that its value tells, however it is written. -/
theorem ofPayload?_of_spells {v : Value} {t : List Char} (hp : v.Plain) (h : v.Spells t)
    (ws ws' : Blanks) :
    RuleSet.ofPayload? (String.ofList (ws.chars ++ (t ++ ws'.chars))) = ruleSets? v := by
  rw [RuleSet.ofPayload?, Utf8.bytes, String.toList_ofList]
  exact ofText_of_takes (agrees_list agrees_ruleSet hp h) ws ws'

end Reading

section Order

variable {α : Type} {f : Value → Option α}

/-- The order of members does not matter to what is told of a value. -/
def Unmoved (f : Value → Option α) : Prop :=
  ∀ v : Value, v.Plain → f v.ordered = f v

theorem unmoved_string? : Unmoved Value.string? := by
  intro v _
  cases v <;> rfl

theorem unmoved_natural? (limit : Nat) : Unmoved (Value.natural? limit) := by
  intro v _
  cases v <;> rfl

theorem unmoved_optional? (hf : Unmoved f) : Unmoved (Value.optional? f) := by
  intro v hv
  cases v with
  | null => rfl
  | _ => exact congrArg (Option.map some) (hf _ hv)

theorem unmoved_items? (hf : Unmoved f) : Unmoved (Value.items? f) := by
  intro v hv
  cases v with
  | list vs =>
      show (Value.orderedItems vs).mapM f = vs.mapM f
      rw [Value.orderedItems_eq, List.mapM_map]
      have hplain := Value.plain_list_iff.1 hv
      -- The list as a whole is not in the induction: only its items are known to be plain.
      clear hv
      induction vs with
      | nil => rfl
      | cons v more ih =>
          rw [List.mapM_cons, List.mapM_cons, Function.comp_apply, hf v (hplain v List.mem_cons_self),
            ih fun w hw => hplain w (List.mem_cons_of_mem v hw)]
  | _ => rfl

/-- Values that are given are plain. -/
def PlainGiven (given : String → Option Value) : Prop :=
  ∀ n v, given n = some v → v.Plain

theorem plainGiven_of_fields? {v : Value} (hv : v.Plain) {names : List String}
    {given : String → Option Value} (h : v.fields? names = some given) : PlainGiven given := by
  intro n w hw
  cases v with
  | object ms =>
      obtain rfl := Option.some.inj h
      obtain ⟨hkeys, hplain⟩ := Value.plain_object_iff.1 hv
      exact hplain (n, w) ((lookup_eq_some_iff_mem hkeys).1 hw)
  | list vs =>
      simp only [Value.fields?] at h
      split at h
      · obtain rfl := Option.some.inj h
        obtain ⟨l₁, l₂, hzip, -⟩ := List.lookup_eq_some_iff.1 hw
        have hmem : (n, w) ∈ names.zip vs := by
          rw [hzip]
          exact List.mem_append_right _ List.mem_cons_self
        exact Value.plain_list_iff.1 hv w (List.of_mem_zip hmem).2
      · cases h
  | _ => cases h

theorem fields?_ordered {v : Value} (hv : v.Plain) (names : List String) :
    v.ordered.fields? names =
      (v.fields? names).map fun given n => (given n).map Value.ordered := by
  cases v with
  | object ms =>
      obtain ⟨hkeys, -⟩ := Value.plain_object_iff.1 hv
      exact congrArg some (funext fun n => Value.lookup_orderedMembers hkeys n)
  | list vs =>
      simp only [Value.ordered, Value.fields?, Value.orderedItems_eq, List.length_map]
      split
      · refine congrArg some (funext fun n => ?_)
        rw [List.zip_map_right]
        exact lookup_map Value.ordered (names.zip vs) n
      · rfl
  | _ => rfl

/-- What the members of a value tell does not depend on their order. -/
theorem unmoved_fields? {names : List String} {g : (String → Option Value) → Option α}
    (hg : ∀ given, PlainGiven given → g (fun n => (given n).map Value.ordered) = g given) :
    Unmoved fun v => (v.fields? names).bind g := by
  intro v hv
  show (v.ordered.fields? names).bind g = (v.fields? names).bind g
  rw [fields?_ordered hv]
  cases h : v.fields? names with
  | none => rfl
  | some given => exact hg given (plainGiven_of_fields? hv h)

theorem told?_ordered (hf : Unmoved f) (default : α) {given : String → Option Value}
    (hgiven : PlainGiven given) (n : String) :
    told? f default ((given n).map Value.ordered) = told? f default (given n) := by
  cases h : given n with
  | none => rfl
  | some v => exact hf v (hgiven n v h)

theorem unmoved_exclusion? : Unmoved exclusion? := by
  refine unmoved_fields? fun given hgiven => ?_
  show ((given "p").map Value.ordered).bind Value.string? = (given "p").bind Value.string?
  cases h : given "p" with
  | none => rfl
  | some v => exact unmoved_string? v (hgiven "p" v h)

theorem unmoved_rule? : Unmoved rule? := by
  refine unmoved_fields? fun given hgiven => ?_
  rw [ruleOf?, ruleOf?, told?_ordered (unmoved_optional? unmoved_string?) none hgiven,
    told?_ordered (unmoved_optional? unmoved_string?) none hgiven,
    told?_ordered (unmoved_natural? redirectLimit) 0 hgiven]

theorem unmoved_ruleSet? : Unmoved ruleSet? := by
  refine unmoved_fields? fun given hgiven => ?_
  rw [ruleSetOf?, ruleSetOf?, told?_ordered (unmoved_items? unmoved_exclusion?) [] hgiven,
    told?_ordered (unmoved_items? unmoved_rule?) [] hgiven]

/-- What is written of a value after its members were put in order holds the same rule
sets. -/
theorem ofPayload?_text_ordered {v : Value} (hp : v.Plain) :
    RuleSet.ofPayload? v.ordered.text = ruleSets? v := by
  have hread := ofPayload?_of_spells hp.ordered hp.ordered.spells_chars .none .none
  have htext : v.ordered.text =
      String.ofList (Blanks.none.chars ++ (v.ordered.chars ++ Blanks.none.chars)) :=
    congrArg String.ofList (List.append_nil _).symm
  rw [htext, hread]
  exact unmoved_items? unmoved_ruleSet? v hp

end Order

end Upgrade
end RequestGuard
