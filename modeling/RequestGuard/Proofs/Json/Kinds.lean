import RequestGuard.Proofs.Json.Passing

/-!
# Reading values of a known kind

What the readers of a known kind make of the text of a value, told by the value alone.

* `Value.Plain v`: the value can be told from any of its texts.  No object has a key twice,
  and numbers are integers of 64 bits.
* `Agrees r f`: on every text of a plain value the reader `r` answers what `f` tells of the
  value, and a fault if that is nothing.
* `agrees_textAs`, `agrees_boolean`, `agrees_naturalUpTo`, `agrees_optional` and `agrees_list`
  are this for each kind, whatever value stands there.
-/

namespace RequestGuard
namespace Json

open Text

section Kinds

/-- The kinds of values, as their texts start. -/
inductive Kind where
  | null
  | yes
  | no
  | natural
  | negative
  | real
  | string
  | list
  | object
  deriving DecidableEq

/-- The characters that the texts of a kind start with.  None are needed for numbers that
are not integers. -/
def Kind.starts : Kind → List Char
  | .null => ['n']
  | .yes => ['t']
  | .no => ['f']
  | .natural => digits
  | .negative => ['-']
  | .real => []
  | .string => ['"']
  | .list => ['[']
  | .object => ['\x7b']

/-- A character starts the texts of one kind. -/
theorem Kind.eq_of_mem_starts {k k' : Kind} {c : Char} (h : c ∈ k.starts)
    (h' : c ∈ k'.starts) : k = k' := by
  have hall : ∀ c ∈ k.starts, c ∈ k'.starts → k = k' := by
    cases k <;> cases k' <;> decide
  exact hall c h h'

theorem mem_starters_of_mem_starts {k : Kind} {c : Char} (h : c ∈ k.starts) : c ∈ starters := by
  have hall : ∀ c ∈ k.starts, c ∈ starters := by
    cases k <;> decide
  exact hall c h

namespace Value

/-- The kind of a value. -/
def kind : Value → Kind
  | .null => .null
  | .boolean true => .yes
  | .boolean false => .no
  | .number (.natural _) => .natural
  | .number (.negative _) => .negative
  | .number (.real _) => .real
  | .string _ => .string
  | .list _ => .list
  | .object _ => .object

/-- A value that can be told from any of its texts. -/
inductive Plain : Value → Prop where
  | null : Plain .null
  | boolean (b : Bool) : Plain (.boolean b)
  | natural {n : Nat} (h : n ≤ Reader.naturalLimit) : Plain (.number (.natural n))
  | negative {n : Nat} (hpos : 0 < n) (h : n ≤ 0x8000000000000000) :
      Plain (.number (.negative n))
  | string (s : String) : Plain (.string s)
  | list {items : List Value} (h : ∀ v ∈ items, Plain v) : Plain (.list items)
  | object {members : List (String × Value)} (hkeys : (members.map Prod.fst).Nodup)
      (h : ∀ m ∈ members, Plain m.2) : Plain (.object members)

theorem plain_list_iff {items : List Value} : (list items).Plain ↔ ∀ v ∈ items, v.Plain :=
  ⟨fun h => by cases h with | list h => exact h, Plain.list⟩

theorem plain_object_iff {members : List (String × Value)} :
    (object members).Plain ↔ (members.map Prod.fst).Nodup ∧ ∀ m ∈ members, m.2.Plain :=
  ⟨fun h => by cases h with | object hkeys h => exact ⟨hkeys, h⟩, fun h => .object h.1 h.2⟩

/-- A text of a value starts as its kind does. -/
theorem Spells.exists_start {v : Value} {t : List Char} (h : v.Spells t) :
    ∃ c more, t = c :: more ∧ c ∈ v.kind.starts := by
  cases h with
  | null => exact ⟨'n', _, rfl, by decide⟩
  | true => exact ⟨'t', _, rfl, by decide⟩
  | false => exact ⟨'f', _, rfl, by decide⟩
  | natural n =>
      obtain ⟨d, ds, hcons⟩ := List.exists_cons_of_ne_nil (Nat.toDigits_ne_nil (b := 10) (n := n))
      have hmem : d ∈ Nat.toDigits 10 n := by
        rw [hcons]
        exact List.mem_cons_self
      exact ⟨d, ds, hcons, mem_digits (isDigit_of_mem_toDigits hmem)⟩
  | negative n => exact ⟨'-', _, rfl, List.mem_singleton_self _⟩
  | string h =>
      obtain ⟨body, -, rfl⟩ := h
      exact ⟨'"', _, rfl, List.mem_singleton_self _⟩
  | list inner items => exact ⟨'[', _, rfl, List.mem_singleton_self _⟩
  | object inner entries => exact ⟨'\x7b', _, rfl, List.mem_singleton_self _⟩

end Value

end Kinds

section Told

variable {α : Type}

namespace Value

/-- The value as a fault names it, unless it is a list or an object. -/
def scalar? : Value → Option Found
  | .null => some .null
  | .boolean b => some (.boolean b)
  | .number n => some (.number n)
  | .string s => some (.string s)
  | .list _ => none
  | .object _ => none

/-- The text that a value is. -/
def string? : Value → Option String
  | .string s => some s
  | _ => none

/-- The truth value that a value is. -/
def boolean? : Value → Option Bool
  | .boolean b => some b
  | _ => none

/-- The natural number up to a limit that a value is. -/
def natural? (limit : Nat) : Value → Option Nat
  | .number (.natural n) => if n ≤ limit then some n else none
  | _ => none

/-- What is told of a value that may be null. -/
def optional? (f : Value → Option α) : Value → Option (Option α)
  | .null => some none
  | v => (f v).map some

/-- What is told of the values of a list. -/
def items? (f : Value → Option α) : Value → Option (List α)
  | .list vs => vs.mapM f
  | _ => none

end Value

end Told

namespace Reader

variable {α : Type} {v : Value} {t : List Char}

/-- On every text of a plain value the reader answers what `f` tells of the value. -/
def Agrees (r : Reader α) (f : Value → Option α) : Prop :=
  ∀ {v : Value} {t : List Char}, v.Plain → v.Spells t → Takes r t (f v)

section First

theorem byte_ne_of_kind {k l : Kind} (hk : k ≠ l) {c d : Char} (hc : c ∈ k.starts)
    (hd : d ∈ l.starts) : byte c ≠ byte d := by
  have hcd : c ≠ d := by
    rintro rfl
    exact hk (Kind.eq_of_mem_starts hc hd)
  rwa [ne_eq, byte_eq_iff (isSign_of_mem_starters (mem_starters_of_mem_starts hc)).1.1
    (isSign_of_mem_starters (mem_starters_of_mem_starts hd)).1.1]

/-- A value is told by the first character of its text. -/
theorem takes_first (h : v.Spells t) {read : UInt8 → Reader α} {o : Option α}
    (hread : ∀ c more, t = c :: more → c ∈ v.kind.starts → ∀ rest, Stops rest →
      Ends (read (byte c)) (c :: (more ++ rest)) o rest) : Takes (byFirst read) t o := by
  obtain ⟨c, more, rfl, hc⟩ := h.exists_start
  exact takes_byFirst (isSign_of_mem_starters (mem_starters_of_mem_starts hc)).1
    (hread c more rfl hc)

/-- A value that is refused by its first character is a fault. -/
theorem takes_refused (h : v.Spells t) (expected : String) {read : UInt8 → Reader α}
    (hread : ∀ c ∈ v.kind.starts, read (byte c) = refuse expected (byte c)) :
    Takes (byFirst read) t none := by
  refine takes_first h fun c more _ hc rest _ => ?_
  rw [hread c hc]
  exact fails_bind fun _ _ => ⟨_, _, rfl⟩

end First

section Scalars

/-- A value that is neither a list nor an object is found whatever is expected. -/
theorem reads_found (hp : v.Plain) (h : v.Spells t) {f : Found} (hf : v.scalar? = some f)
    {c : Char} {more : List Char} (ht : t = c :: more) {rest : List Char} (hrest : Stops rest) :
    Reads (found (byte c)) (c :: (more ++ rest)) f rest := by
  cases h with
  | null =>
      obtain ⟨rfl, rfl⟩ : 'n' = c ∧ "ull".toList = more := List.cons.inj ht
      obtain rfl := Option.some.inj hf
      rw [found, if_pos rfl]
      exact (reads_skip (by decide)).bind ((reads_word (by decide) rest).bind (reads_pure _ rest))
  | true =>
      obtain ⟨rfl, rfl⟩ : 't' = c ∧ "rue".toList = more := List.cons.inj ht
      obtain rfl := Option.some.inj hf
      rw [found, if_neg (by decide), if_pos rfl]
      exact (reads_skip (by decide)).bind ((reads_word (by decide) rest).bind (reads_pure _ rest))
  | false =>
      obtain ⟨rfl, rfl⟩ : 'f' = c ∧ "alse".toList = more := List.cons.inj ht
      obtain rfl := Option.some.inj hf
      rw [found, if_neg (by decide), if_neg (by decide), if_pos rfl]
      exact (reads_skip (by decide)).bind ((reads_word (by decide) rest).bind (reads_pure _ rest))
  | natural n =>
      obtain rfl := Option.some.inj hf
      cases hp with
      | natural hn =>
          have hd : Text.isDigit c = Bool.true :=
            isDigit_of_mem_toDigits (n := n) (by rw [ht]; exact List.mem_cons_self)
          have hc : c ∈ Kind.natural.starts := mem_digits hd
          have hdigits := reads_number hn hrest
          rw [ht] at hdigits
          rw [found, if_neg (byte_ne_of_kind (l := .null) (by decide) hc (by decide)),
            if_neg (byte_ne_of_kind (l := .yes) (by decide) hc (by decide)),
            if_neg (byte_ne_of_kind (l := .no) (by decide) hc (by decide)),
            if_neg (byte_ne_of_kind (l := .negative) (by decide) hc (by decide)),
            if_pos (of_isDigit hd).2.1]
          exact hdigits.bind (reads_pure _ rest)
  | negative n =>
      obtain ⟨rfl, rfl⟩ := List.cons.inj ht
      obtain rfl := Option.some.inj hf
      cases hp with
      | negative hpos hn =>
          rw [found, if_neg (by decide), if_neg (by decide), if_neg (by decide), if_pos rfl]
          exact (reads_skip (by decide)).bind
            ((reads_number_negative hpos hn hrest).bind (reads_pure _ rest))
  | string h =>
      obtain ⟨body, hbody, hread⟩ := h.reads
      obtain ⟨rfl, rfl⟩ := List.cons.inj (hbody.symm.trans ht)
      obtain rfl := Option.some.inj hf
      rw [found, if_neg (by decide), if_neg (by decide), if_neg (by decide), if_neg (by decide),
        if_neg (by decide), if_pos rfl]
      exact (reads_skip (by decide)).bind ((hread rest).bind (reads_pure _ rest))
  | list => cases hf
  | object => cases hf

theorem agrees_textAs (expected : String) : Agrees (textAs expected) Value.string? := by
  intro v t _ h
  by_cases hk : v.kind = .string
  · cases h with
    | string h =>
        obtain ⟨body, rfl, hread⟩ := h.reads
        refine takes_byFirst (by decide) fun rest _ => ?_
        rw [if_pos rfl]
        exact (reads_skip (by decide)).bind (hread rest)
    | _ => cases hk
  · have hnone : v.string? = none := by
      cases v with
      | string => exact absurd rfl hk
      | _ => rfl
    rw [hnone]
    exact takes_refused h _ fun c hc => if_neg (byte_ne_of_kind hk hc (by decide))

theorem agrees_string : Agrees string Value.string? :=
  agrees_textAs _

theorem agrees_boolean : Agrees boolean Value.boolean? := by
  intro v t _ h
  by_cases hk : v.kind = .yes ∨ v.kind = .no
  · cases h with
    | true =>
        refine takes_byFirst (c := 't') (by decide) fun rest _ => ?_
        rw [if_pos rfl]
        exact (reads_skip (by decide)).bind
          ((reads_word (by decide) rest).bind (reads_pure _ rest))
    | false =>
        refine takes_byFirst (c := 'f') (by decide) fun rest _ => ?_
        rw [if_neg (by decide), if_pos rfl]
        exact (reads_skip (by decide)).bind
          ((reads_word (by decide) rest).bind (reads_pure _ rest))
    | _ => rcases hk with hk | hk <;> cases hk
  · obtain ⟨hyes, hno⟩ := not_or.1 hk
    have hnone : v.boolean? = none := by
      match v with
      | .boolean true => exact absurd rfl hyes
      | .boolean false => exact absurd rfl hno
      | .null | .number _ | .string _ | .list _ | .object _ => rfl
    rw [hnone]
    refine takes_refused h "a boolean" fun c hc => ?_
    rw [if_neg (byte_ne_of_kind hyes hc (by decide)), if_neg (byte_ne_of_kind hno hc (by decide))]

/-- A number is read, and then its bounds are looked at. -/
theorem agrees_naturalUpTo (limit : Nat) (expected : String) :
    Agrees (naturalUpTo limit expected) (Value.natural? limit) := by
  intro v t hp h
  match v with
  | .number (.natural n) =>
      refine takes_first h fun c more ht hc rest hrest => ?_
      have hdigit : isDigit (byte c) = true := by
        have hall : ∀ c ∈ Kind.natural.starts, isDigit (byte c) = true := by decide
        exact hall c hc
      rw [if_pos (Or.inr hdigit)]
      refine (reads_found hp h rfl ht hrest).bind ?_
      show Ends (if n ≤ limit then pure n else failHere _) rest
        (if n ≤ limit then some n else none) rest
      split
      · exact reads_pure n rest
      · exact fails_failHere _ rest rest
  | .number (.negative n) =>
      refine takes_first h fun c more ht hc rest hrest => ?_
      obtain rfl : c = '-' := List.mem_singleton.1 hc
      rw [if_pos (Or.inl rfl)]
      exact (reads_found hp h rfl ht hrest).bind (fails_failHere _ rest rest)
  | .number (.real x) => cases h
  | .null | .boolean true | .boolean false | .string _ | .list _ | .object _ =>
      refine takes_refused h expected fun c hc => ?_
      have hnot : ¬(byte c = byte '-' ∨ isDigit (byte c) = true) := by
        have hall : ∀ c ∈ ['n', 't', 'f', '"', '[', '\x7b'],
            ¬(byte c = byte '-' ∨ isDigit (byte c) = true) := by decide
        refine hall c ?_
        obtain rfl := List.mem_singleton.1 hc
        decide
      rw [if_neg hnot]

end Scalars

section Combined

variable {r : Reader α} {f : Value → Option α}

theorem takes_optional (h : v.Spells t) (hr : Takes r t (f v)) :
    Takes (optional r) t (Value.optional? f v) := by
  intro ws rest hrest
  by_cases hk : v.kind = .null
  · cases h with
    | null =>
        refine Reads.bind (reads_afterBlanks (c := 'n') ws (by decide)) ?_
        rw [if_pos rfl]
        exact (reads_skip (by decide)).bind
          ((reads_word (by decide) rest).bind (reads_pure none rest))
    | _ => cases hk
  · obtain ⟨c, more, rfl, hc⟩ := h.exists_start
    have hsign := (isSign_of_mem_starters (mem_starters_of_mem_starts hc)).1
    refine Reads.bind (reads_afterBlanks ws hsign) ?_
    have hnull : Value.optional? f v = (f v).map some := by
      cases v with
      | null => exact absurd rfl hk
      | _ => rfl
    have hne : some (byte c) ≠ some (byte 'n') := fun he =>
      byte_ne_of_kind hk hc (by decide) (Option.some.inj he)
    rw [hnull, if_neg hne]
    exact (hr .none rest hrest).map some

theorem agrees_optional (hr : Agrees r f) : Agrees (optional r) (Value.optional? f) :=
  fun hp h => takes_optional h (hr hp h)

theorem agrees_list (hr : Agrees r f) : Agrees (list r) (Value.items? f) := by
  intro v t hp h
  by_cases hk : v.kind = .list
  · cases h with
    | list inner items h =>
        have hitems : ∀ i ∈ items, TakesItem r i (f i.value) := fun i hi =>
          ⟨(h i hi).valid,
            hr (Value.plain_list_iff.1 hp i.value (List.mem_map_of_mem hi)) (h i hi)⟩
        have htakes := takes_list hitems inner
        show Takes (list r) _ ((items.map Item.value).mapM f)
        rwa [List.mapM_map]
    | _ => cases hk
  · have hnone : Value.items? f v = none := by
      cases v with
      | list => exact absurd rfl hk
      | _ => rfl
    rw [hnone]
    exact takes_refused h _ fun c hc => if_neg (byte_ne_of_kind hk hc (by decide))

end Combined

end Reader
end Json
end RequestGuard
