import RequestGuard.Proofs.Pattern.Spans
import RequestGuard.Proofs.Upgrade.FirstMatch
import RequestGuard.Text.Lemmas

/-!
# References to groups

A template is read in two passes.  The first puts the number behind a dollar sign or a
backslash between brackets, and the second, for which a number without them would go on through
letters and underscores, finds the references.

* `isAnyDigit_of_lt`: among the Latin characters only the ten digits are digits.
* `braced_spell`: the first pass brings every reference by number to one spelling, and leaves
  the rest of a template as it is.
* `pieces_spell`: the second pass finds these references, and reads the text between them sign
  by sign.
* `expand_ofName`: a reference stands for the group of its number, even if the number is so
  large that it is looked up as a name.

`references_mean_groups` says what a rule with such a template makes of an address.
-/

namespace RequestGuard
namespace Upgrade

open Text

namespace Piece

section Digits

/-- The first run are the digits of the Latin script, and the others are beyond it. -/
def startsLatin (a : Pattern.Ranges) : Bool :=
  match a with
  | [] => false
  | r :: more => r == (48, 58) && more.all fun s => 128 ≤ s.1 && 128 ≤ s.2

theorem findIdx_digits : (Pattern.PropertyTable.categories.findIdx fun row =>
    (words row.1).contains "nd".toList) = 17 := by
  decide +kernel

set_option maxRecDepth 1000000 in
theorem startsLatin_digits : startsLatin Pattern.Ranges.digits = true := by
  have hname : Pattern.Ranges.plainName "Nd" = "nd" := by decide +kernel
  have hrow : Pattern.PropertyTable.categories[17]? = some (_, _) := rfl
  rw [Pattern.Ranges.digits, Pattern.Ranges.category?, Pattern.Ranges.byName?, hname,
    List.find?_eq_getElem?_findIdx, findIdx_digits, hrow, Option.map_some, Option.getD_some]
  refine holds_words_ofList
    (fun ws => startsLatin (Pattern.Ranges.pairs (ws.map hexNumber))) ?_
  decide +kernel

/-- Below 128 the digits of all scripts are those of the Latin script. -/
theorem isAnyDigit_of_lt {c : Char} (h : c.toNat < 128) : isAnyDigit c = isDigit c := by
  have hlatin := startsLatin_digits
  rw [isAnyDigit, digitSet]
  generalize Pattern.Ranges.digits = a at hlatin ⊢
  cases a with
  | nil => cases hlatin
  | cons r more =>
      obtain ⟨hr, hmore⟩ := Bool.and_eq_true_iff.1 hlatin
      obtain rfl : r = (48, 58) := eq_of_beq hr
      have hrest : ∀ b ∈ more.flatMap fun r => [r.1, r.2], c.toNat < b := by
        intro b hb
        obtain ⟨s, hs, hb⟩ := List.mem_flatMap.1 hb
        have hbounds := List.all_eq_true.1 hmore s hs
        simp only [Bool.and_eq_true, decide_eq_true_eq] at hbounds
        simp only [List.mem_cons, List.not_mem_nil, or_false] at hb
        rcases hb with rfl | rfl <;> omega
      rw [Bool.eq_iff_iff, isDigit_iff]
      refine (CodeSet.contains_first_run hrest).trans ?_
      omega

end Digits

section Templates

/-- How a reference by number is written. -/
inductive Spelling where
  /-- Behind a dollar sign. -/
  | dollar
  /-- Behind a backslash. -/
  | backslash
  /-- Behind a dollar sign, between brackets. -/
  | bracketed
  deriving DecidableEq, Repr

/-- A part of a template as it is written: text, or a reference to a group by decimal digits. -/
inductive Part where
  | text (chars : List Char)
  | group (spelling : Spelling) (digits : List Char)
  deriving DecidableEq, Repr

/-- How a part is written. -/
def Part.spell : Part → List Char
  | .text cs => cs
  | .group .dollar ds => '$' :: ds
  | .group .backslash ds => '\\' :: ds
  | .group .bracketed ds => '$' :: '\x7b' :: (ds ++ ['\x7d'])

/-- How parts are written, one after the other. -/
def spell (parts : List Part) : List Char :=
  parts.flatMap Part.spell

/-- Parts that a template can be made of.  Text has neither dollar signs nor backslashes, a
reference has digits, and what is written after a reference without brackets does not start
with a digit. -/
def AreReadable : List Part → Prop
  | [] => True
  | .text cs :: more => '$' ∉ cs ∧ '\\' ∉ cs ∧ AreReadable more
  | .group spelling ds :: more =>
    ds ≠ [] ∧ (∀ d ∈ ds, isDigit d = true) ∧
      (spelling ≠ .bracketed → ∀ c ∈ (spell more).head?, isAnyDigit c = false) ∧
      AreReadable more

/-- What a part stands for in a match: a text for itself, and a reference, however it is
written, for what its group matched, if it took part in the match. -/
def Part.meaning (m : Pattern.Match) : Part → List UInt8
  | .text cs => Utf8.encode cs
  | .group _ ds => (m.group? (decimal ds)).getD []

variable {cs ds rest : List Char}

theorem bracedFrom_length_append (xs rest : List Char) :
    bracedFrom xs.length (xs ++ rest) = bracedFrom 0 rest := by
  induction xs with
  | nil => rfl
  | cons c more ih => exact ih

theorem piecesFrom_length_append (xs rest : List Char) :
    piecesFrom xs.length (xs ++ rest) = piecesFrom 0 rest := by
  induction xs with
  | nil => rfl
  | cons c more ih => exact ih

/-- Text without the signs of references stays as it is. -/
theorem bracedFrom_text (hdollar : '$' ∉ cs) (hback : '\\' ∉ cs) (rest : List Char) :
    bracedFrom 0 (cs ++ rest) = cs ++ bracedFrom 0 rest := by
  induction cs with
  | nil => rfl
  | cons c more ih =>
      obtain ⟨hc, hmore⟩ := not_or.1 (mt List.mem_cons.2 hdollar)
      obtain ⟨hc', hmore'⟩ := not_or.1 (mt List.mem_cons.2 hback)
      rw [List.cons_append, bracedFrom, if_neg, ih hmore hmore', List.cons_append]
      rintro ⟨rfl | rfl, -⟩
      · exact hc' rfl
      · exact hc rfl

/-- A reference without brackets gets them. -/
theorem bracedFrom_group {c : Char} (hc : c = '\\' ∨ c = '$') (hne : ds ≠ [])
    (hdigits : ∀ d ∈ ds, isDigit d = true) (hrest : ∀ d ∈ rest.head?, isAnyDigit d = false) :
    bracedFrom 0 (c :: (ds ++ rest)) = '$' :: '\x7b' :: (ds ++ ['\x7d']) ++ bracedFrom 0 rest := by
  have hany : ∀ d ∈ ds, isAnyDigit d = true := by
    intro d hd
    have hdigit := hdigits d hd
    rw [isAnyDigit_of_lt (by have := (isDigit_iff d).1 hdigit; omega), hdigit]
  rw [bracedFrom, takeWhile_append_of_head? hany hrest, if_pos ⟨hc, by simpa using hne⟩, bracedFrom_length_append]
  simp

theorem not_mem_of_not_isDigit {c : Char} (hdigits : ∀ d ∈ ds, isDigit d = true)
    (hc : isDigit c = false) : c ∉ ds := by
  intro hmem
  rw [hdigits c hmem] at hc
  cases hc

/-- A reference with brackets stays as it is. -/
theorem bracedFrom_bracketed (hdigits : ∀ d ∈ ds, isDigit d = true) (rest : List Char) :
    bracedFrom 0 ('$' :: '\x7b' :: (ds ++ ['\x7d']) ++ rest) =
      '$' :: '\x7b' :: (ds ++ ['\x7d']) ++ bracedFrom 0 rest := by
  have hdollar : '$' ∉ '\x7b' :: (ds ++ ['\x7d']) := by
    simp [not_mem_of_not_isDigit hdigits (show isDigit '$' = false from rfl)]
  have hback : '\\' ∉ '\x7b' :: (ds ++ ['\x7d']) := by
    simp [not_mem_of_not_isDigit hdigits (show isDigit '\\' = false from rfl)]
  have hopening : isAnyDigit '\x7b' = false := isAnyDigit_of_lt (by decide)
  have hrun : ('\x7b' :: (ds ++ ['\x7d']) ++ rest).takeWhile isAnyDigit = [] :=
    List.takeWhile_cons_of_neg (by rw [hopening]; decide)
  rw [List.cons_append, bracedFrom, hrun, if_neg (by simp), bracedFrom_text hdollar hback]
  rfl

/-- The part with its reference between brackets. -/
def Part.bracketed : Part → Part
  | .text cs => .text cs
  | .group _ ds => .group .bracketed ds

/-- All references by number get brackets, and nothing else does. -/
theorem braced_spell {parts : List Part} (h : AreReadable parts) :
    braced (spell parts) = spell (parts.map Part.bracketed) := by
  show bracedFrom 0 (spell parts) = _
  induction parts with
  | nil => rfl
  | cons part more ih =>
      cases part with
      | text cs =>
          obtain ⟨hdollar, hback, hmore⟩ := h
          show bracedFrom 0 (cs ++ spell more) = cs ++ spell (more.map Part.bracketed)
          rw [bracedFrom_text hdollar hback, ih hmore]
      | group spelling ds =>
          obtain ⟨hne, hdigits, hrest, hmore⟩ := h
          show bracedFrom 0 ((Part.group spelling ds).spell ++ spell more) =
            '$' :: '\x7b' :: (ds ++ ['\x7d']) ++ spell (more.map Part.bracketed)
          rw [← ih hmore]
          cases spelling with
          | dollar => exact bracedFrom_group (.inr rfl) hne hdigits (hrest (by decide))
          | backslash => exact bracedFrom_group (.inl rfl) hne hdigits (hrest (by decide))
          | bracketed => exact bracedFrom_bracketed hdigits (spell more)

/-- Text without dollar signs is read sign by sign. -/
theorem piecesFrom_text (hdollar : '$' ∉ cs) (rest : List Char) :
    piecesFrom 0 (cs ++ rest) =
      cs.map (fun c => .text (Utf8.encodeChar c)) ++ piecesFrom 0 rest := by
  induction cs with
  | nil => rfl
  | cons c more ih =>
      obtain ⟨hc, hmore⟩ := not_or.1 (mt List.mem_cons.2 hdollar)
      rw [List.cons_append, piecesFrom, if_pos (Ne.symm hc), ih hmore, List.map_cons,
        List.cons_append]

/-- What stands between brackets is read as a name. -/
theorem piecesFrom_bracketed (hclosing : '\x7d' ∉ ds) (rest : List Char) :
    piecesFrom 0 ('$' :: '\x7b' :: (ds ++ ['\x7d']) ++ rest) = ofName ds :: piecesFrom 0 rest := by
  have hinside : ∀ c ∈ ds, decide (c ≠ '\x7d') = true := by
    intro c hc
    rw [decide_eq_true_eq]
    rintro rfl
    exact hclosing hc
  have hrun : (ds ++ '\x7d' :: rest).takeWhile (· ≠ '\x7d') = ds :=
    takeWhile_append_of_head? hinside (by simp)
  have hreference : reference? ('\x7b' :: (ds ++ '\x7d' :: rest)) =
      some (ofName ds, ds.length + 2) := by
    rw [reference?, hrun]
    simp
  have hskip : piecesFrom (ds.length + 2) ('\x7b' :: (ds ++ ['\x7d']) ++ rest) =
      piecesFrom 0 rest := by
    have hlength : ds.length + 2 = ('\x7b' :: (ds ++ ['\x7d'])).length := by simp
    rw [hlength, piecesFrom_length_append]
  have happend : '\x7b' :: (ds ++ ['\x7d']) ++ rest = '\x7b' :: (ds ++ '\x7d' :: rest) := by simp
  rw [List.cons_append, piecesFrom, if_neg (by simp), if_neg (by simp [happend]), happend,
    hreference]
  simp only
  rw [← happend, hskip]

/-- The pieces that a part is read as. -/
def Part.pieces : Part → List Piece
  | .text cs => cs.map fun c => .text (Utf8.encodeChar c)
  | .group _ ds => [ofName ds]

/-- Parts with brackets are read one by one. -/
theorem pieces_spell {parts : List Part} (h : AreReadable parts) :
    pieces (spell (parts.map Part.bracketed)) = parts.flatMap Part.pieces := by
  show piecesFrom 0 (spell (parts.map Part.bracketed)) = _
  induction parts with
  | nil => rfl
  | cons part more ih =>
      cases part with
      | text cs =>
          obtain ⟨hdollar, -, hmore⟩ := h
          show piecesFrom 0 (cs ++ spell (more.map Part.bracketed)) = _
          rw [piecesFrom_text hdollar, ih hmore]
          rfl
      | group spelling ds =>
          obtain ⟨-, hdigits, -, hmore⟩ := h
          have hclosing : '\x7d' ∉ ds := not_mem_of_not_isDigit hdigits rfl
          show piecesFrom 0 ('$' :: '\x7b' :: (ds ++ ['\x7d']) ++
            spell (more.map Part.bracketed)) = _
          rw [piecesFrom_bracketed hclosing, ih hmore]
          rfl

end Templates

section Meaning

variable {p : Pattern} {m : Pattern.Match} {cs ds : List Char} {i : Nat}

/-- Digits stand for the group of their number.  A number that is too large for a group is
looked up as a name, which no group has. -/
theorem expand_ofName (hp : p.Sound) (hm : m.Spans p.groups cs i) (hne : ds ≠ [])
    (hdigits : ∀ d ∈ ds, isDigit d = true) :
    (ofName ds).expand p m = (m.group? (decimal ds)).getD [] := by
  have hplus : ds.head? ≠ some '+' := by
    intro hhead
    exact not_mem_of_not_isDigit hdigits (c := '+') rfl (List.mem_of_head? hhead)
  have hall : (!ds.isEmpty && ds.all isDigit) = true := by
    simpa [hne] using hdigits
  rw [ofName, if_neg hplus]
  simp only [hall, Bool.true_and, decide_eq_true_eq]
  split
  · rfl
  · next hlarge =>
      have hgroup : m.group? (decimal ds) = none :=
        hm.group?_eq_none (Nat.lt_of_le_of_lt (Nat.le_trans hp.groups (by decide))
          (Nat.lt_of_not_le hlarge))
      have hname : (p.names.find? fun n => n.1 == String.ofList ds) = none := by
        rw [List.find?_eq_none]
        intro n hn hsame
        obtain ⟨c, more, hchars, hc⟩ := hp.names n hn
        rw [eq_of_beq hsame, String.toList_ofList] at hchars
        exact not_mem_of_not_isDigit hdigits hc (hchars ▸ List.mem_cons_self)
      rw [expand, hname, hgroup]
      rfl

/-- The pieces of a part stand for what the part stands for. -/
theorem flatMap_expand_pieces (hp : p.Sound) (hm : m.Spans p.groups cs i) {parts : List Part}
    (h : AreReadable parts) :
    (parts.flatMap Part.pieces).flatMap (expand p m) = parts.flatMap (Part.meaning m) := by
  induction parts with
  | nil => rfl
  | cons part more ih =>
      rw [List.flatMap_cons, List.flatMap_append, List.flatMap_cons]
      cases part with
      | text cs =>
          rw [ih h.2.2]
          congr 1
          exact List.flatMap_map ..
      | group spelling ds =>
          obtain ⟨hne, hdigits, -, hmore⟩ := h
          rw [ih hmore]
          congr 1
          exact (List.append_nil _).trans (expand_ofName hp hm hne hdigits)

/-- What parts stand for is text. -/
theorem exists_meaning (hm : m.Spans p.groups cs i) (parts : List Part) :
    ∃ chars, parts.flatMap (Part.meaning m) = Utf8.encode chars := by
  induction parts with
  | nil => exact ⟨[], rfl⟩
  | cons part more ih =>
      obtain ⟨rest, hrest⟩ := ih
      obtain ⟨first, hfirst⟩ : ∃ first, part.meaning m = Utf8.encode first := by
        cases part with
        | text cs => exact ⟨cs, rfl⟩
        | group spelling ds =>
            rw [Part.meaning]
            cases hgroup : m.group? (decimal ds) with
            | none => exact ⟨[], rfl⟩
            | some bytes => exact (hm.of_group? hgroup).2
      exact ⟨first ++ rest, by rw [List.flatMap_cons, hfirst, hrest, Utf8.encode_append]⟩

end Meaning

end Piece

section Results

/-- **References mean groups.**  A rule that is not the plain one has a pattern that matches in
an address, and a template made of text and of references to groups, each by decimal digits
behind a dollar sign, behind a backslash, or behind a dollar sign between brackets.  Text has
neither of the two signs, and what is written after a reference without brackets does not start
with a digit of any script.

The rule makes of the address what stands before the match, the text of the parts one after the
other, and what stands after it.  A reference stands for what its group matched, and for nothing
if there is no such group or if it took no part in the match, however the reference is written
and whatever letters, underscores or brackets follow it.  The match is the first one: none
starts at a place before. -/
theorem references_mean_groups
    {r : Rule} {url source template : String} {p : Pattern} {m : Pattern.Match}
    {parts : List Piece.Part}
    (hplain : r.plain = 0)
    (hsource : r.source? = some source)
    (hpattern : compiled? source = some p)
    (hmatch : p.find? (Utf8.bytes url) = some m)
    (htemplate : r.template? = some template)
    (hspell : template.toList = Piece.spell parts)
    (hparts : Piece.AreReadable parts) :
    ∃ front middle back target,
      url.toList = front ++ middle ++ back ∧
      m.before = Utf8.encode front ∧ m.group? 0 = some (Utf8.encode middle) ∧
      m.after = Utf8.encode back ∧
      p.MatchAt (Utf8.bytes url) m.before.length m.slots ∧
      (∀ j < m.before.length, ∀ slots, ¬ p.MatchAt (Utf8.bytes url) j slots) ∧
      (∀ k, p.groups < k → m.group? k = none) ∧
      r.result? url = some target ∧
      Utf8.bytes target =
        Utf8.encode front ++ parts.flatMap (Piece.Part.meaning m) ++ Utf8.encode back := by
  have hp : p.Sound := Pattern.sound_of_compile? hpattern
  obtain ⟨i, hm, hhere, hfirst⟩ := Pattern.spans_of_find? hp.whole hp.program hmatch
  obtain ⟨front, middle, back, hurl, hbefore, hmiddle, hafter⟩ := hm.exists_parts
  obtain ⟨chars, hchars⟩ := Piece.exists_meaning hm parts
  have hreplaced : replaceFirst p m template = Utf8.encode (front ++ chars ++ back) := by
    rw [replaceFirst, hspell, Piece.braced_spell hparts, Piece.pieces_spell hparts,
      Piece.flatMap_expand_pieces hp hm hparts, hbefore, hafter, hchars, Utf8.encode_append,
      Utf8.encode_append]
  have hresult : r.result? url = some (String.ofList (front ++ chars ++ back)) := by
    refine Rule.result?_eq_some_iff.2
      (.replaced hplain hsource hpattern hmatch htemplate ?_)
    rw [hreplaced, Utf8.decode_encode, String.toList_ofList]
  refine ⟨front, middle, back, _, hurl, hbefore, hmiddle, hafter, hm.length_before ▸ hhere,
    hm.length_before ▸ hfirst, fun k hk => hm.group?_eq_none hk, hresult, ?_⟩
  rw [Utf8.bytes, String.toList_ofList, Utf8.encode_append, Utf8.encode_append, hchars]

/-- The pattern matches within the address.  Its third group takes no part in the match, and it
has no ninth one. -/
theorem references_mean_groups_mixed :
    let url := "http://ab.x/c"
    let r : Rule := ⟨some "p://([a-z]+)\\.(x|(y))", some "ps://\\2_$1a.$\x7b3\x7d7$9", 0⟩
    r.result? url = some "https://x_aba.7/c" := by
  intro url r
  let parts : List Piece.Part :=
    [.text "ps://".toList, .group .backslash ['2'], .text ['_'], .group .dollar ['1'],
      .text ['a', '.'], .group .bracketed ['3'], .text ['7'], .group .dollar ['9']]
  have hspell : "ps://\\2_$1a.$\x7b3\x7d7$9".toList = Piece.spell parts := by decide +kernel
  have hparts : Piece.AreReadable parts := by
    have hline : Piece.isAnyDigit '_' = false := Piece.isAnyDigit_of_lt (by decide)
    have hletter : Piece.isAnyDigit 'a' = false := Piece.isAnyDigit_of_lt (by decide)
    simp [parts, Piece.AreReadable, Piece.spell, Piece.Part.spell, isDigit, hline, hletter]
  have hsearch : ((compiled? "p://([a-z]+)\\.(x|(y))").bind fun p =>
      (p.find? (Utf8.bytes url)).map Pattern.Match.slots) =
        some [(1, 11), (5, 11), (4, 10), (3, 9), (2, 7), (0, 3)] := by decide +kernel
  obtain ⟨p, hpattern, hfound⟩ := Option.bind_eq_some_iff.1 hsearch
  obtain ⟨m, hmatch, hslots⟩ := Option.map_eq_some_iff.1 hfound
  obtain ⟨front, middle, back, target, -, hbefore, -, hafter, -, -, -, hresult, htarget⟩ :=
    references_mean_groups (r := r) rfl rfl hpattern hmatch rfl hspell hparts
  obtain ⟨slots, -, rfl⟩ := Option.map_eq_some_iff.1 hmatch
  obtain rfl : slots = _ := hslots
  have hsame : Utf8.bytes target = Utf8.bytes "https://x_aba.7/c" := by
    rw [htarget, ← hbefore, ← hafter]
    decide +kernel
  have hchars : target.toList = "https://x_aba.7/c".toList := by
    have hread := congrArg Utf8.decode hsame
    rw [Utf8.bytes, Utf8.bytes, Utf8.decode_encode, Utf8.decode_encode] at hread
    exact Except.ok.inj hread
  rw [hresult, String.toList_inj.1 hchars]

end Results

end Upgrade
end RequestGuard
