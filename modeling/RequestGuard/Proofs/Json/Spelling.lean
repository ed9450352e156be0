import RequestGuard.Json.Value
import RequestGuard.Proofs.Text.Numerals

/-!
# How values are spelled

The texts that write a value, as a grammar.  Blanks may stand around every part, and a
character of a text may be written as itself or by any of its escapes.

* `Valid t`: the text `t` writes a value of any kind, also a number with a fraction, or an
  escape that stands for no character.
* `Value.Spells v t`: the text `t` writes the value `v`.  Numbers are integers here.
* `Value.Spells.valid`: what writes a value is valid.
-/

namespace RequestGuard
namespace Json

open Text

section Layout

/-- A blank between the parts of a text. -/
def isBlankChar (c : Char) : Bool :=
  [' ', '\n', '\t', '\r'].contains c

/-- Blanks. -/
structure Blanks where
  /-- The characters. -/
  chars : List Char
  /-- Each is a blank. -/
  blank : ∀ c ∈ chars, isBlankChar c = true

/-- No blanks. -/
def Blanks.none : Blanks :=
  ⟨[], fun _ h => nomatch h⟩

/-- The text of a value between blanks. -/
structure Item (α : Type) where
  /-- The blanks before the text. -/
  before : Blanks
  /-- What the text stands for. -/
  value : α
  /-- The text. -/
  text : List Char
  /-- The blanks behind the text. -/
  behind : Blanks

/-- The characters of an item. -/
def Item.chars {α : Type} (i : Item α) : List Char :=
  i.before.chars ++ (i.text ++ i.behind.chars)

/-- The texts of a key and of its value between blanks. -/
structure Entry (κ α : Type) where
  /-- The blanks before the key. -/
  before : Blanks
  /-- What the key stands for. -/
  key : κ
  /-- The text of the key. -/
  keyText : List Char
  /-- The blanks behind the key. -/
  behind : Blanks
  /-- What follows the colon. -/
  item : Item α

/-- The characters of an entry. -/
def Entry.chars {κ α : Type} (e : Entry κ α) : List Char :=
  e.before.chars ++ (e.keyText ++ (e.behind.chars ++ ':' :: e.item.chars))

/-- What an entry stands for. -/
def Entry.member {κ α : Type} (e : Entry κ α) : κ × α :=
  (e.key, e.item.value)

/-- Pieces, each behind a comma. -/
def behindCommas : List (List Char) → List Char
  | [] => []
  | piece :: more => ',' :: (piece ++ behindCommas more)

/-- Pieces between commas, or blanks if there are none. -/
def layout (inner : Blanks) : List (List Char) → List Char
  | [] => inner.chars
  | piece :: more => piece ++ behindCommas more

/-- The text of a list. -/
def listChars {α : Type} (inner : Blanks) (items : List (Item α)) : List Char :=
  '[' :: (layout inner (items.map Item.chars) ++ [']'])

/-- The text of an object. -/
def objectChars {κ α : Type} (inner : Blanks) (entries : List (Entry κ α)) : List Char :=
  '\x7b' :: (layout inner (entries.map Entry.chars) ++ ['\x7d'])

end Layout

section Texts

/-- The letters of short escapes, and the characters that they stand for. -/
def shortEscapes : List (Char × Char) :=
  [('"', '"'), ('\\', '\\'), ('/', '/'), ('b', '\x08'), ('f', '\x0c'), ('n', '\n'),
    ('r', '\r'), ('t', '\t')]

/-- Four hexadecimal digits. -/
structure FourDigits (digits : List Char) : Prop where
  length : digits.length = 4
  digit : ∀ d ∈ digits, (hexValue? d).isSome = true

/-- A character that stands for itself within a text. -/
def IsPlainChar (c : Char) : Prop :=
  32 ≤ c.toNat ∧ c ≠ '"' ∧ c ≠ '\\'

/-- What a character is written as within a text. -/
inductive SpellsChar : Char → List Char → Prop where
  | plain {c : Char} (h : IsPlainChar c) : SpellsChar c [c]
  | short {letter c : Char} (h : (letter, c) ∈ shortEscapes) : SpellsChar c ['\\', letter]
  | numbered {c : Char} {digits : List Char} (h : FourDigits digits)
      (hvalue : hexNumber digits = c.toNat) : SpellsChar c ('\\' :: 'u' :: digits)
  | pair {c : Char} {high low : List Char} (hc : 0x10000 ≤ c.toNat) (hhigh : FourDigits high)
      (hlow : FourDigits low) (hvalue : hexNumber high = 0xD800 + (c.toNat - 0x10000) / 0x400)
      (hvalue' : hexNumber low = 0xDC00 + (c.toNat - 0x10000) % 0x400) :
      SpellsChar c ('\\' :: 'u' :: (high ++ '\\' :: 'u' :: low))

/-- What characters are written as within a text. -/
inductive SpellsChars : List Char → List Char → Prop where
  | nil : SpellsChars [] []
  | cons {c : Char} {cs t ts : List Char} (h : SpellsChar c t) (hmore : SpellsChars cs ts) :
      SpellsChars (c :: cs) (t ++ ts)

/-- What a text is written as. -/
def SpellsText (s : String) (t : List Char) : Prop :=
  ∃ body, SpellsChars s.toList body ∧ t = '"' :: (body ++ ['"'])

/-- A part of a text as it may be written; four digits may write what is no character. -/
inductive ValidPiece : List Char → Prop where
  | plain {c : Char} (h : IsPlainChar c) : ValidPiece [c]
  | short {letter c : Char} (h : (letter, c) ∈ shortEscapes) : ValidPiece ['\\', letter]
  | numbered {digits : List Char} (h : FourDigits digits) : ValidPiece ('\\' :: 'u' :: digits)

/-- A text as it may be written. -/
def ValidText (t : List Char) : Prop :=
  ∃ pieces : List (List Char), (∀ p ∈ pieces, ValidPiece p) ∧ t = '"' :: (pieces.flatten ++ ['"'])

end Texts

section Numbers

/-- At least one decimal digit. -/
def IsDigits (ds : List Char) : Prop :=
  ds ≠ [] ∧ ∀ d ∈ ds, isDigit d = true

/-- The digits of an integer: no zero stands before others. -/
def IsWhole (ds : List Char) : Prop :=
  ds = ['0'] ∨ (IsDigits ds ∧ ds.head? ≠ some '0')

/-- A point and digits, or nothing. -/
def IsFraction (t : List Char) : Prop :=
  t = [] ∨ ∃ ds, IsDigits ds ∧ t = '.' :: ds

/-- An exponent, or nothing. -/
def IsExponent (t : List Char) : Prop :=
  t = [] ∨ ∃ mark sign ds, (mark = 'e' ∨ mark = 'E') ∧ (sign = [] ∨ sign = ['+'] ∨ sign = ['-']) ∧
    IsDigits ds ∧ t = mark :: (sign ++ ds)

/-- A number as it may be written. -/
def ValidNumber (t : List Char) : Prop :=
  ∃ sign whole fraction exponent, (sign = [] ∨ sign = ['-']) ∧ IsWhole whole ∧
    IsFraction fraction ∧ IsExponent exponent ∧ t = sign ++ (whole ++ (fraction ++ exponent))

end Numbers

section Values

/-- The words that write a value. -/
def words : List (List Char) :=
  ["null".toList, "true".toList, "false".toList]

/-- A text that writes a value of any kind. -/
inductive Valid : List Char → Prop where
  | word {t : List Char} (h : t ∈ words) : Valid t
  | number {t : List Char} (h : ValidNumber t) : Valid t
  | text {t : List Char} (h : ValidText t) : Valid t
  | list {α : Type} (inner : Blanks) (items : List (Item α)) (h : ∀ i ∈ items, Valid i.text) :
      Valid (listChars inner items)
  | object {κ α : Type} (inner : Blanks) (entries : List (Entry κ α))
      (hkeys : ∀ e ∈ entries, ValidText e.keyText) (h : ∀ e ∈ entries, Valid e.item.text) :
      Valid (objectChars inner entries)

/-- A text that writes a value. -/
inductive Value.Spells : Value → List Char → Prop where
  | null : Spells .null "null".toList
  | true : Spells (.boolean true) "true".toList
  | false : Spells (.boolean false) "false".toList
  | natural (n : Nat) : Spells (.number (.natural n)) (Nat.toDigits 10 n)
  | negative (n : Nat) : Spells (.number (.negative n)) ('-' :: Nat.toDigits 10 n)
  | string {s : String} {t : List Char} (h : SpellsText s t) : Spells (.string s) t
  | list (inner : Blanks) (items : List (Item Value)) (h : ∀ i ∈ items, Spells i.value i.text) :
      Spells (.list (items.map Item.value)) (listChars inner items)
  | object (inner : Blanks) (entries : List (Entry String Value))
      (hkeys : ∀ e ∈ entries, SpellsText e.key e.keyText)
      (h : ∀ e ∈ entries, Spells e.item.value e.item.text) :
      Spells (.object (entries.map Entry.member)) (objectChars inner entries)

end Values

section Validity

theorem FourDigits.exists_four {ds : List Char} (h : FourDigits ds) :
    ∃ a b c d, ds = [a, b, c, d] := by
  have hlength := h.length
  match ds, hlength with
  | [a, b, c, d], _ => exact ⟨a, b, c, d, rfl⟩

theorem SpellsChar.validPieces {c : Char} {t : List Char} (h : SpellsChar c t) :
    ∃ pieces : List (List Char), (∀ p ∈ pieces, ValidPiece p) ∧ t = pieces.flatten := by
  cases h with
  | plain h => exact ⟨[[c]], by simpa using ValidPiece.plain h, rfl⟩
  | short h => exact ⟨[_], by simpa using ValidPiece.short h, rfl⟩
  | numbered h hvalue =>
      exact ⟨[_], by simpa using ValidPiece.numbered h, (List.append_nil _).symm⟩
  | pair hc hhigh hlow hvalue hvalue' =>
      exact ⟨[_, _], by simpa using ⟨ValidPiece.numbered hhigh, ValidPiece.numbered hlow⟩,
        by simp⟩

theorem SpellsChars.validPieces {cs t : List Char} (h : SpellsChars cs t) :
    ∃ pieces : List (List Char), (∀ p ∈ pieces, ValidPiece p) ∧ t = pieces.flatten := by
  induction h with
  | nil => exact ⟨[], fun _ h => (nomatch h), rfl⟩
  | cons h hmore ih =>
      obtain ⟨ps, hps, rfl⟩ := h.validPieces
      obtain ⟨qs, hqs, rfl⟩ := ih
      refine ⟨ps ++ qs, fun p hp => ?_, List.flatten_append.symm⟩
      rcases List.mem_append.1 hp with hp | hp
      · exact hps p hp
      · exact hqs p hp

theorem SpellsText.valid {s : String} {t : List Char} (h : SpellsText s t) : ValidText t := by
  obtain ⟨body, hbody, rfl⟩ := h
  obtain ⟨pieces, hpieces, rfl⟩ := hbody.validPieces
  exact ⟨pieces, hpieces, rfl⟩

theorem isDigits_toDigits (n : Nat) : IsDigits (Nat.toDigits 10 n) :=
  ⟨Nat.toDigits_ne_nil, fun _ h => isDigit_of_mem_toDigits h⟩

/-- The usual digits of a number do not start with a zero, unless they are one. -/
theorem isWhole_toDigits (n : Nat) : IsWhole (Nat.toDigits 10 n) := by
  induction n using Nat.strongRecOn with
  | ind n ih =>
    by_cases hn : n < 10
    · have hall : ∀ n < 10, Nat.toDigits 10 n = ['0'] ∨
          (Nat.toDigits 10 n).head? ≠ some '0' := by decide
      exact (hall n hn).imp_right fun h => ⟨isDigits_toDigits n, h⟩
    · have hsplit : Nat.toDigits 10 n = Nat.toDigits 10 (n / 10) ++ [(n % 10).digitChar] :=
        Nat.toDigits_of_base_le (by decide) (by omega)
      refine Or.inr ⟨isDigits_toDigits n, ?_⟩
      have hkept : (Nat.toDigits 10 n).head? = (Nat.toDigits 10 (n / 10)).head? := by
        obtain ⟨d, ds, hds⟩ := List.exists_cons_of_ne_nil (Nat.toDigits_ne_nil (b := 10) (n := n / 10))
        rw [hsplit, hds]
        rfl
      rw [hkept]
      rcases ih (n / 10) (by omega) with hzero | ⟨-, hhead⟩
      · have hvalue := decimal_toDigits (n / 10)
        rw [hzero] at hvalue
        have hnone : decimal ['0'] = 0 := by decide
        omega
      · exact hhead

theorem validNumber_toDigits {sign : List Char} (hsign : sign = [] ∨ sign = ['-']) (n : Nat) :
    ValidNumber (sign ++ Nat.toDigits 10 n) :=
  ⟨sign, Nat.toDigits 10 n, [], [], hsign, isWhole_toDigits n, Or.inl rfl, Or.inl rfl, by simp⟩

/-- What writes a value is valid. -/
theorem Value.Spells.valid {v : Value} {t : List Char} (h : v.Spells t) : Valid t := by
  induction h with
  | null => exact Valid.word (by decide)
  | true => exact Valid.word (by decide)
  | false => exact Valid.word (by decide)
  | natural n => exact Valid.number (validNumber_toDigits (Or.inl rfl) n)
  | negative n => exact Valid.number (validNumber_toDigits (Or.inr rfl) n)
  | string h => exact Valid.text h.valid
  | list inner items _ ih => exact Valid.list inner items ih
  | object inner entries hkeys _ ih =>
      exact Valid.object inner entries (fun e he => (hkeys e he).valid) ih

end Validity

end Json
end RequestGuard
