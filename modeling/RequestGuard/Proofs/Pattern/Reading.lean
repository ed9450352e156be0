import RequestGuard.Pattern.Parser
import RequestGuard.Proofs.Text.Numerals

/-!
# What reading a pattern does to its groups

Every group that a pattern remembers is counted, and no name of a group starts with a digit.

* `Scan.Keeps`: most actions neither open nor name a group.  The sets between brackets, the
  escapes and the repetitions are read by such actions alone.
* `Scan.Yields`: what an action comes to after a number of groups.  The groups only grow, and
  a property of the state, `Scanner.Sound`, is kept.
* `Scan.yields_alternatives` puts the actions together by induction on the fuel.

`Syntax.sound_of_parse?` says it of a pattern as a whole.
-/

namespace RequestGuard
namespace Pattern

section States

/-- The same groups are open and named. -/
structure Scanner.SameGroups (s s' : Scanner) : Prop where
  groups : s'.groups = s.groups
  names : s'.names = s.names

theorem Scanner.SameGroups.trans {s t u : Scanner} (h : s.SameGroups t) (h' : t.SameGroups u) :
    s.SameGroups u :=
  ⟨h'.groups.trans h.groups, h'.names.trans h.names⟩

/-- A name that does not start with a digit. -/
def IsGroupName (name : String) : Prop :=
  ∃ c more, name.toList = c :: more ∧ Text.isDigit c = false

/-- What is known of the groups wherever the reading stands. -/
structure Scanner.Sound (s : Scanner) : Prop where
  groups : s.groups ≤ Scan.groupLimit
  names : ∀ n ∈ s.names, IsGroupName n.1

/-- What reading on does to the groups. -/
structure Scanner.Grows (s s' : Scanner) : Prop where
  groups : s.groups ≤ s'.groups
  sound : s.Sound → s'.Sound

theorem Scanner.Grows.trans {s t u : Scanner} (h : s.Grows t) (h' : t.Grows u) : s.Grows u :=
  ⟨Nat.le_trans h.groups h'.groups, h'.sound ∘ h.sound⟩

theorem Scanner.SameGroups.grows {s s' : Scanner} (h : s.SameGroups s') : s.Grows s' :=
  ⟨Nat.le_of_eq h.groups.symm, fun hs => ⟨h.groups ▸ hs.groups, h.names ▸ hs.names⟩⟩

end States

namespace Scan

variable {α β : Type}

section Keeping

/-- The action neither opens nor names a group. -/
def Keeps (x : Scan α) : Prop :=
  ∀ ⦃s a s'⦄, x s = some (a, s') → s.SameGroups s'

theorem of_bind {x : Scan α} {f : α → Scan β} {s s' : Scanner} {b : β}
    (h : (x >>= f) s = some (b, s')) : ∃ a t, x s = some (a, t) ∧ f a t = some (b, s') := by
  obtain ⟨⟨a, t⟩, ha, hb⟩ := Option.bind_eq_some_iff.1 h
  exact ⟨a, t, ha, hb⟩

@[grind ←] theorem Keeps.bind {x : Scan α} {f : α → Scan β} (hx : Keeps x)
    (hf : ∀ a, Keeps (f a)) : Keeps (x >>= f) := by
  intro s b s' h
  obtain ⟨a, t, ha, hb⟩ := of_bind h
  exact (hx ha).trans (hf a hb)

/-- An action that changes at most the signs to come and the flags. -/
theorem Keeps.of_forall {x : Scan α}
    (h : ∀ s, ∃ a rest flags, x s = some (a, { s with rest := rest, flags := flags })) :
    Keeps x := by
  intro s a s' hx
  obtain ⟨b, rest, flags, hs⟩ := h s
  cases hx.symm.trans hs
  exact ⟨rfl, rfl⟩

/-- The fuel of an action may depend on where the reading stands. -/
theorem Keeps.fueled {x : Nat → Scan α} (h : ∀ n, Keeps (x n)) (fuel : Scanner → Nat) :
    Keeps (fun s => x (fuel s) s) :=
  fun _ _ _ hx => h _ hx

@[grind ←] theorem keeps_pure (a : α) : Keeps (pure a : Scan α) :=
  .of_forall fun s => ⟨a, s.rest, s.flags, rfl⟩

@[grind ←] theorem keeps_refuse : Keeps (refuse : Scan α) := by
  intro s a s' h
  cases h

end Keeping

section Signs

@[grind ←] theorem keeps_peek : Keeps peek :=
  .of_forall fun s => ⟨_, s.rest, s.flags, rfl⟩

@[grind ←] theorem keeps_peekSpaced : Keeps peekSpaced :=
  .of_forall fun s => ⟨_, s.rest, s.flags, rfl⟩

@[grind ←] theorem keeps_flags : Keeps flags :=
  .of_forall fun s => ⟨_, s.rest, s.flags, rfl⟩

@[grind ←] theorem keeps_setFlags (f : Flags) : Keeps (setFlags f) :=
  .of_forall fun s => ⟨_, s.rest, f, rfl⟩

@[grind ←] theorem keeps_pass (n : Nat) : Keeps (pass n) :=
  .of_forall fun s => ⟨_, s.rest.drop n, s.flags, rfl⟩

@[grind ←] theorem keeps_comes (signs : String) : Keeps (comes signs) :=
  .of_forall fun s => ⟨_, s.rest, s.flags, rfl⟩

@[grind ←] theorem keeps_run (p : Char → Bool) : Keeps (run p) :=
  .of_forall fun s => ⟨_, s.rest.dropWhile p, s.flags, rfl⟩

@[grind ←] theorem keeps_space : Keeps space := by
  refine .of_forall fun s =>
    ⟨(), if s.flags.spaced then afterSpace false s.rest else s.rest, s.flags, ?_⟩
  rw [space]
  split <;> rfl

@[grind ←] theorem keeps_passIf (signs : String) : Keeps (passIf signs) := by
  unfold passIf
  grind

@[grind ←] theorem keeps_passSpaced : Keeps passSpaced := by
  unfold passSpaced
  grind

end Signs

section Numbers

theorem keeps_digitsFrom (n : Nat) : Keeps (digitsFrom n) := by
  induction n with
  | zero => exact keeps_pure []
  | succ n ih =>
      unfold digitsFrom
      grind

@[grind ←] theorem keeps_count? : Keeps count? := by
  refine (keeps_run _).bind fun _ => (Keeps.fueled keeps_digitsFrom _).bind ?_
  grind

@[grind ←] theorem keeps_count : Keeps count := by
  unfold count
  grind

theorem keeps_bracedDigits (n : Nat) : Keeps (bracedDigits n) := by
  induction n with
  | zero => exact keeps_refuse
  | succ n ih =>
      unfold bracedDigits
      grind

@[grind ←] theorem keeps_fixedDigits (n : Nat) : Keeps (fixedDigits n) := by
  induction n with
  | zero => exact keeps_pure []
  | succ n ih =>
      unfold fixedDigits
      grind

@[grind ←] theorem keeps_numbered (kind : Char) : Keeps (numbered kind) := by
  refine keeps_passSpaced.bind fun _ => (keeps_comes _).bind fun braced => ?_
  split
  · refine (Keeps.fueled (fun n => keeps_bracedDigits (n + 1)) _).bind ?_
    grind
  · grind

end Numbers

section Escapes

theorem keeps_bracedName (n : Nat) : Keeps (bracedName n) := by
  induction n with
  | zero => exact keeps_refuse
  | succ n ih =>
      unfold bracedName
      grind

@[grind ←] theorem keeps_propertySet (letter : Char) : Keeps (propertySet letter) := by
  refine keeps_passSpaced.bind fun _ => Keeps.bind ?_ ?_
  · refine keeps_peek.bind fun c => ?_
    split
    · exact keeps_refuse
    · split
      · exact .fueled (fun n => keeps_bracedName (n + 1)) _
      · grind
  · grind

theorem keeps_placeName (n : Nat) : Keeps (placeName n) := by
  induction n with
  | zero => exact keeps_pure []
  | succ n ih =>
      unfold placeName
      grind

/-- Where no name of a place follows, the reading goes back to the opening bracket, to a state
with the same groups. -/
@[grind ←] theorem keeps_wordPlace (latin : Bool) : Keeps (wordPlace latin) := by
  intro s place s' h
  obtain ⟨braced, t, hbraced, h⟩ := of_bind h
  have hfirst := keeps_comes _ hbraced
  split at h
  · obtain ⟨start, _, hstart, h⟩ := of_bind h
    cases hstart
    obtain ⟨_, u, hu, h⟩ := of_bind h
    obtain ⟨c, v, hv, h⟩ := of_bind h
    have hsecond := (hfirst.trans (keeps_passSpaced hu)).trans (keeps_peek hv)
    split at h
    · cases h
    · split at h
      · refine hsecond.trans ((Keeps.fueled keeps_placeName _).bind ?_ h)
        grind
      · obtain ⟨_, w, hw, h⟩ := of_bind h
        cases hw
        cases h
        exact hfirst
  · exact hfirst.trans (keeps_pure _ h)

@[grind ←] theorem keeps_escape : Keeps escape := by
  refine (keeps_pass 1).bind fun _ => keeps_peek.bind fun c => ?_
  split
  · exact keeps_refuse
  · refine keeps_flags.bind fun f => ?_
    split
    · grind
    · split
      · grind
      · split
        · grind
        · grind

@[grind ←] theorem keeps_sign : Keeps sign := by
  unfold sign
  grind

end Escapes

section Sets

@[grind ←] theorem keeps_memberOf (code : Nat) (asByte : Bool) : Keeps (memberOf code asByte) := by
  unfold memberOf
  grind

@[grind ←] theorem keeps_itemSign : Keeps itemSign := by
  unfold itemSign
  grind

@[grind ←] theorem keeps_item : Keeps item := by
  refine keeps_itemSign.bind fun first => keeps_space.bind fun _ => ?_
  refine keeps_peek.bind fun c => keeps_peekSpaced.bind fun d => ?_
  split
  · exact keeps_refuse
  · split
    · grind
    · grind

@[grind ←] theorem keeps_namedSet : Keeps namedSet := by
  intro s a s' h
  unfold namedSet at h
  split at h
  · cases h
    exact ⟨rfl, rfl⟩
  · cases h
    exact ⟨rfl, rfl⟩

theorem keeps_firstHyphens (n : Nat) (o : OpenSet) : Keeps (firstHyphens n o) := by
  induction n generalizing o with
  | zero => exact keeps_pure o
  | succ n ih =>
      unfold firstHyphens
      grind

@[grind ←] theorem keeps_openSet : Keeps openSet := by
  refine keeps_passSpaced.bind fun _ => (keeps_comes _).bind fun negated => ?_
  extract_lets rest
  have hrest : ∀ r, Keeps (rest r) := by
    intro r
    refine (Keeps.fueled (fun n => keeps_firstHyphens n _) _).bind ?_
    grind
  split
  · exact keeps_passSpaced.bind fun _ => hrest ()
  · exact hrest ()

theorem keeps_closeSet (n : Nat) (o : OpenSet) : Keeps (closeSet n o) := by
  induction n generalizing o with
  | zero => exact keeps_refuse
  | succ n ih =>
      unfold closeSet
      refine keeps_space.bind fun _ => keeps_flags.bind fun f => keeps_peek.bind fun c => ?_
      split
      · exact keeps_refuse
      · grind
      · grind
      · grind

theorem keeps_bracket : Keeps bracket :=
  keeps_openSet.bind fun o => .fueled (fun n => keeps_closeSet (n + 1) o) _

end Sets

section Repetitions

theorem keeps_flagsFrom (n : Nat) (f : Flags) (seen : List Char) : Keeps (flagsFrom n f seen) := by
  induction n generalizing f seen with
  | zero => exact keeps_refuse
  | succ n ih =>
      unfold flagsFrom
      grind

theorem keeps_bounds : Keeps bounds := by
  refine keeps_passSpaced.bind fun _ => keeps_count?.bind fun first => ?_
  refine (keeps_comes _).bind fun comma => ?_
  split
  · grind
  · grind

end Repetitions

end Scan

section Expressions

/-- The numbers of the groups in an expression are above zero and bounded. -/
def Expr.GroupsWithin (n : Nat) : Expr → Prop
  | .empty => True
  | .char _ => True
  | .byte _ => True
  | .look _ => True
  | .seq e f => e.GroupsWithin n ∧ f.GroupsWithin n
  | .alt e f => e.GroupsWithin n ∧ f.GroupsWithin n
  | .group i e => 0 < i ∧ i ≤ n ∧ e.GroupsWithin n
  | .times e _ _ _ => e.GroupsWithin n

variable {m n : Nat}

theorem Expr.GroupsWithin.mono (hmn : m ≤ n) {e : Expr} (h : e.GroupsWithin m) :
    e.GroupsWithin n := by
  induction e with
  | empty => trivial
  | char => trivial
  | byte => trivial
  | look => trivial
  | seq e f he hf => exact ⟨he h.1, hf h.2⟩
  | alt e f he hf => exact ⟨he h.1, hf h.2⟩
  | group i e he => exact ⟨h.1, Nat.le_trans h.2.1 hmn, he h.2.2⟩
  | times e least most greedy he => exact he h

theorem Expr.groupsWithin_seqAll {es : List Expr} (h : ∀ e ∈ es, e.GroupsWithin n) :
    (Expr.seqAll es).GroupsWithin n := by
  fun_induction Expr.seqAll es with
  | case1 => trivial
  | case2 e => exact h e List.mem_cons_self
  | case3 e more _ ih =>
      exact ⟨h e List.mem_cons_self, ih fun f hf => h f (List.mem_cons_of_mem e hf)⟩

theorem Expr.groupsWithin_altAll {es : List Expr} (h : ∀ e ∈ es, e.GroupsWithin n) :
    (Expr.altAll es).GroupsWithin n := by
  fun_induction Expr.altAll es with
  | case1 => trivial
  | case2 e => exact h e List.mem_cons_self
  | case3 e more _ ih =>
      exact ⟨h e List.mem_cons_self, ih fun f hf => h f (List.mem_cons_of_mem e hf)⟩

/-- The numbers of the groups in pieces are bounded. -/
def PiecesWithin (n : Nat) (ps : List Piece) : Prop :=
  ∀ p ∈ ps, p.expr.GroupsWithin n

variable {ps : List Piece}

theorem PiecesWithin.mono (hmn : m ≤ n) (h : PiecesWithin m ps) : PiecesWithin n ps :=
  fun p hp => (h p hp).mono hmn

theorem PiecesWithin.cons {p : Piece} (h : PiecesWithin n ps) (hp : p.expr.GroupsWithin n) :
    PiecesWithin n (p :: ps) :=
  List.forall_mem_cons.2 ⟨hp, h⟩

theorem PiecesWithin.exprs (h : PiecesWithin n ps) :
    ∀ e ∈ ps.reverse.map Piece.expr, e.GroupsWithin n := by
  intro e he
  obtain ⟨p, hp, rfl⟩ := List.mem_map.1 he
  exact h p (List.mem_reverse.1 hp)

theorem PiecesWithin.sequenceOf (h : PiecesWithin n ps) :
    (Scan.sequenceOf ps).expr.GroupsWithin n := by
  unfold Scan.sequenceOf
  split
  · trivial
  · exact h _ List.mem_cons_self
  · exact Expr.groupsWithin_seqAll h.exprs

theorem PiecesWithin.choiceOf (h : PiecesWithin n ps) :
    (Scan.choiceOf ps).expr.GroupsWithin n := by
  unfold Scan.choiceOf
  split
  · trivial
  · exact h _ List.mem_cons_self
  · exact Expr.groupsWithin_altAll h.exprs

theorem groupsWithin_setExpr (f : Flags) (a : Ranges) : (Scan.setExpr f a).GroupsWithin n := by
  rw [Scan.setExpr]
  split <;> trivial

theorem groupsWithin_literalExpr (f : Flags) (code : Nat) (asByte : Bool) :
    (Scan.literalExpr f code asByte).GroupsWithin n := by
  unfold Scan.literalExpr
  split
  · trivial
  · split
    · trivial
    · split <;> trivial

/-- The number of a group that is opened is above zero and bounded. -/
def Opening.Within (n : Nat) (o : Opening) : Prop :=
  ∀ i f, o = .group (some i) f → 0 < i ∧ i ≤ n

end Expressions

namespace Scan

section Groups

variable {α β : Type} {n : Nat} {x : Scan α} {f : α → Scan β}
variable {P : α → Nat → Prop} {Q : β → Nat → Prop}

/-- What an action comes to after at least `n` groups: the groups grow, and `P` holds of what
it answers and the number of groups then. -/
def Yields (n : Nat) (x : Scan α) (P : α → Nat → Prop) : Prop :=
  ∀ ⦃s a s'⦄, n ≤ s.groups → x s = some (a, s') → s.Grows s' ∧ P a s'.groups

theorem Yields.bind (hx : Yields n x P)
    (hf : ∀ a m, n ≤ m → P a m → Yields m (f a) Q) : Yields n (x >>= f) Q := by
  intro s b s' hn h
  obtain ⟨a, t, ha, hb⟩ := of_bind h
  obtain ⟨hst, hP⟩ := hx hn ha
  obtain ⟨hts, hQ⟩ := hf a t.groups (Nat.le_trans hn hst.groups) hP (Nat.le_refl _) hb
  exact ⟨hst.trans hts, hQ⟩

/-- An action that opens no group may come first. -/
theorem Keeps.then (hx : Keeps x) (hf : ∀ a, Yields n (f a) Q) : Yields n (x >>= f) Q := by
  intro s b s' hn h
  obtain ⟨a, t, ha, hb⟩ := of_bind h
  have hst := hx ha
  obtain ⟨hts, hQ⟩ := hf a (hst.groups.symm ▸ hn) hb
  exact ⟨hst.grows.trans hts, hQ⟩

theorem yields_pure {a : α} (h : ∀ m, n ≤ m → P a m) : Yields n (pure a) P := by
  intro s b s' hn h'
  cases h'
  exact ⟨⟨Nat.le_refl _, id⟩, h _ hn⟩

theorem yields_refuse : Yields n refuse P := by
  intro s a s' _ h
  cases h

theorem not_isDigit_of_isNameSign {c : Char} (h : isNameSign true c = true) :
    Text.isDigit c = false := by
  rw [Bool.eq_false_iff]
  intro hdigit
  obtain ⟨hlow, hhigh⟩ := (Text.isDigit_iff c).1 hdigit
  simp only [isNameSign, Ranges.isAnyLetter, if_pos (show c.toNat < 128 by omega), Text.isLetter,
    Bool.not_true, Bool.false_and, Bool.or_false, Bool.or_eq_true, Bool.and_eq_true,
    decide_eq_true_eq, Text.le_iff_toNat_le] at h
  rcases h with rfl | ⟨h, -⟩ | ⟨h, -⟩
  · revert hlow hhigh
    decide
  · exact absurd (Nat.le_trans h hhigh) (by decide)
  · exact absurd (Nat.le_trans h hhigh) (by decide)

theorem yields_newGroup : Yields n newGroup fun i m => 0 < i ∧ i ≤ m := by
  intro s i s' _ h
  obtain ⟨hlt, h⟩ := Option.ite_none_right_eq_some.1 h
  cases h
  exact ⟨⟨Nat.le_succ _, fun hs => ⟨hlt, hs.names⟩⟩, Nat.succ_pos _, Nat.le_refl _⟩

theorem yields_groupName (index : Nat) : Yields n (groupName index) fun _ _ => True := by
  refine (keeps_run _).then fun name => (keeps_passIf _).then fun closed => ?_
  extract_lets good text rest
  have hrest : ∀ r, Yields n (rest r) fun _ _ => True := by
    intro r s a s' _ h
    obtain ⟨hgood, h⟩ := Option.ite_none_right_eq_some.1 h
    cases h
    obtain ⟨hname, -⟩ := Bool.and_eq_true_iff.1 hgood
    have htext : IsGroupName text := by
      cases name with
      | nil => exact absurd hname Bool.false_ne_true
      | cons c more =>
          exact ⟨c, more, String.toList_ofList,
            not_isDigit_of_isNameSign (Bool.and_eq_true_iff.1 hname).1⟩
    exact ⟨⟨Nat.le_refl _, fun hs => ⟨hs.groups, List.forall_mem_cons.2 ⟨htext, hs.names⟩⟩⟩,
      trivial⟩
  split
  · exact Keeps.then keeps_refuse fun _ => hrest ()
  · exact hrest ()

theorem yields_opening : Yields n opening fun o m => Opening.Within m o := by
  have hgroup : ∀ {i m : Nat} {f : Flags}, 0 < i ∧ i ≤ m →
      Opening.Within m (.group (some i) f) := by
    rintro i m f hi _ _ ⟨⟩
    exact hi
  refine (keeps_pass 1).then fun _ => keeps_space.then fun _ => ?_
  refine (keeps_comes _).then fun _ => (keeps_comes _).then fun _ => ?_
  refine (keeps_comes _).then fun _ => (keeps_comes _).then fun _ => ?_
  extract_lets rest
  have hrest : ∀ r, Yields n (rest r) fun o m => Opening.Within m o := by
    intro r
    refine keeps_flags.then fun f => (keeps_passIf _).then fun named => ?_
    refine Keeps.then (by grind) fun unnamed => ?_
    split
    · refine yields_newGroup.bind fun i m _ hi => (yields_groupName i).bind fun _ k hk _ => ?_
      exact yields_pure fun l hl => hgroup (by omega)
    · refine (keeps_passIf _).then fun flagged => ?_
      split
      · refine (Keeps.fueled (fun k => keeps_flagsFrom (k + 1) f []) _).then fun ⟨g, seen⟩ => ?_
        refine (keeps_passIf _).then fun closed => ?_
        split
        · split
          · exact yields_refuse
          · exact yields_pure nofun
        · exact (keeps_pass 1).then fun _ => yields_pure nofun
      · refine yields_newGroup.bind fun i m _ hi => ?_
        exact yields_pure fun l hl => hgroup (by omega)
  split
  · exact Keeps.then keeps_refuse fun _ => hrest ()
  · exact hrest ()

theorem yields_signPiece : Yields n signPiece fun p m => p.expr.GroupsWithin m := by
  refine keeps_flags.then fun f => keeps_sign.then fun sign => yields_pure fun m _ => ?_
  cases sign with
  | literal code asByte => exact groupsWithin_literalExpr f code asByte
  | set a => exact groupsWithin_setExpr f a
  | any => exact groupsWithin_setExpr f _
  | look what => trivial

theorem yields_repeatLast {pieces : List Piece} (hpieces : PiecesWithin n pieces) (least : Nat)
    (most : Option Nat) (lazy : Bool) :
    Yields n (repeatLast pieces least most lazy) fun ps m => PiecesWithin m ps := by
  refine keeps_flags.then fun f => ?_
  split
  · exact yields_refuse
  · obtain ⟨hp, hbefore⟩ := List.forall_mem_cons.1 hpieces
    split
    · exact yields_refuse
    · refine yields_pure fun m hm => PiecesWithin.mono hm (PiecesWithin.cons hbefore ?_)
      exact hp

/-- The groups of what is read are counted. -/
theorem yields_alternatives (fuel : Nat) {n : Nat} {before pieces : List Piece}
    (hbefore : PiecesWithin n before) (hpieces : PiecesWithin n pieces) :
    Yields n (alternatives fuel before pieces) fun p m => p.expr.GroupsWithin m := by
  induction fuel generalizing n before pieces with
  | zero => exact yields_refuse
  | succ fuel ih =>
      have hrepeat : ∀ least most lazy, Yields n
          (repeatLast pieces least most lazy >>= fun ps => alternatives fuel before ps)
          fun p m => p.expr.GroupsWithin m := by
        intro least most lazy
        exact (yields_repeatLast hpieces least most lazy).bind fun ps m hm hps =>
          ih (hbefore.mono hm) hps
      have hall : PiecesWithin n (sequenceOf pieces :: before) := hbefore.cons hpieces.sequenceOf
      refine keeps_space.then fun _ => keeps_peek.then fun c => ?_
      split
      · exact yields_pure fun m hm => (hall.mono hm).choiceOf
      · exact yields_pure fun m hm => (hall.mono hm).choiceOf
      · exact (keeps_pass 1).then fun _ => ih hall nofun
      · -- A group: the pieces before it were read with fewer groups.
        refine keeps_flags.then fun outer => yields_opening.bind fun o m hm ho => ?_
        have hbefore' := hbefore.mono hm
        have hpieces' := hpieces.mono hm
        cases o with
        | change f => exact (keeps_setFlags f).then fun _ => ih hbefore' (hpieces'.cons trivial)
        | group index f =>
            refine (keeps_setFlags f).then fun _ => ?_
            refine Yields.bind (ih nofun nofun) fun body k hk hbody => ?_
            refine (keeps_passIf _).then fun closed => ?_
            extract_lets expr rest
            have hexpr : Expr.GroupsWithin k expr := by
              cases index with
              | none => exact hbody
              | some i => exact ⟨(ho i f rfl).1, Nat.le_trans (ho i f rfl).2 hk, hbody⟩
            have hrest : ∀ r, Yields k (rest r) fun p m => p.expr.GroupsWithin m := fun r =>
              (keeps_setFlags outer).then fun _ =>
                ih (hbefore'.mono hk) ((hpieces'.mono hk).cons hexpr)
            split
            · exact Keeps.then keeps_refuse fun _ => hrest ()
            · exact hrest ()
      · refine keeps_flags.then fun f => keeps_bracket.then fun ⟨a, depth⟩ => ?_
        exact ih hbefore (hpieces.cons (groupsWithin_setExpr f a))
      · exact (keeps_pass 1).then fun _ => (keeps_passIf _).then fun lazy => hrepeat _ _ lazy
      · exact (keeps_pass 1).then fun _ => (keeps_passIf _).then fun lazy => hrepeat _ _ lazy
      · exact (keeps_pass 1).then fun _ => (keeps_passIf _).then fun lazy => hrepeat _ _ lazy
      · refine keeps_bounds.then fun ⟨least, most⟩ => (keeps_comes _).then fun closed => ?_
        extract_lets rest
        have hrest : ∀ r, Yields n (rest r) fun p m => p.expr.GroupsWithin m := fun r =>
          keeps_passSpaced.then fun _ => (keeps_passIf _).then fun lazy => hrepeat least most lazy
        split
        · exact Keeps.then keeps_refuse fun _ => hrest ()
        · exact hrest ()
      · exact yields_signPiece.bind fun p m hm hp =>
          ih (hbefore.mono hm) ((hpieces.mono hm).cons hp)

end Groups

end Scan

section Results

variable {options : Options} {pattern : String} {e : Syntax}

/-- What is known of a pattern that was read. -/
structure Syntax.Sound (options : Options) (e : Syntax) : Prop where
  /-- Its groups are counted. -/
  within : e.expr.GroupsWithin e.groups
  /-- They are not too many. -/
  groups : e.groups ≤ Scan.groupLimit
  /-- None of their names starts with a digit. -/
  names : ∀ n ∈ e.names, IsGroupName n.1
  /-- It matches whole characters where it must. -/
  whole : options.wholeChars = true → e.expr.isWhole = true

theorem Syntax.sound_of_parse? (h : Syntax.parse? options pattern = some e) : e.Sound options := by
  unfold Syntax.parse? at h
  extract_lets signs at h
  split at h
  · cases h
  · next piece s hread =>
      obtain ⟨hgood, h⟩ := Option.ite_none_right_eq_some.1 h
      cases h
      have hnil : PiecesWithin 0 [] := nofun
      obtain ⟨hgrows, hwithin⟩ :=
        Scan.yields_alternatives _ hnil hnil (Nat.zero_le _) hread
      have hsound : s.Sound := hgrows.sound ⟨Nat.zero_le _, nofun⟩
      refine ⟨hwithin, hsound.groups, hsound.names, fun hwhole => ?_⟩
      have hlast := (Bool.and_eq_true_iff.1 hgood).2
      rwa [hwhole] at hlast

end Results

end Pattern
end RequestGuard
