import Mathlib.Algebra.GroupWithZero.Nat
import RequestGuard.Proofs.Text.Numerals
import RequestGuard.Text.Lemmas

/-!
# Numeric hosts are read as they are written

* `version4Of?_version4Text`: the usual form of a version 4 address is read as its number.
* `version6?_version6Text`: the usual form of a version 6 address is read as its groups,
  also where two colons stand for zeros.
* `lt_of_version4Of?` and `groups_of_version6?`: what is read can be written.
-/

namespace RequestGuard
namespace Url

open Text

section Version4

/-- The four numbers of a version 4 address. -/
def octets (n : Nat) : List Nat :=
  [n / 16777216 % 256, n / 65536 % 256, n / 256 % 256, n % 256]

theorem toList_version4Text (n : Nat) :
    (version4Text n).toList = join '.' ((octets n).map (Nat.toDigits 10)) := by
  simp [version4Text, octets, join, toString]

theorem part?_toDigits {n : Nat} (h : n < 256) : part? (Nat.toDigits 10 n) = some n := by
  have hall : ∀ n < 256, part? (Nat.toDigits 10 n) = some n := by decide +kernel
  exact hall n h

theorem lt_of_mem_octets {n x : Nat} (h : x ∈ octets n) : x < 256 := by
  simp only [octets, List.mem_cons, List.not_mem_nil, or_false] at h
  rcases h with rfl | rfl | rfl | rfl <;> exact Nat.mod_lt _ (by decide)

theorem dot_not_mem_toDigits (n : Nat) : '.' ∉ Nat.toDigits 10 n := by
  intro h
  have hdigit := isDigit_of_mem_toDigits h
  revert hdigit
  decide

theorem fields_version4Text (n : Nat) :
    fields '.' (version4Text n).toList = (octets n).map (Nat.toDigits 10) := by
  rw [toList_version4Text, fields_join (by simp [octets])]
  intro piece hpiece
  obtain ⟨x, -, rfl⟩ := List.mem_map.1 hpiece
  exact dot_not_mem_toDigits x

theorem mapM_part?_octets (n : Nat) :
    ((octets n).map (Nat.toDigits 10)).mapM part? = some (octets n) :=
  mapM_map_eq_some fun _ hx => part?_toDigits (lt_of_mem_octets hx)

theorem getLast?_fields_version4Text (n : Nat) :
    (fields '.' (version4Text n).toList).getLast? ≠ some [] := by
  rw [fields_version4Text]
  simp [octets, Nat.toDigits_ne_nil]

theorem version4Of?_version4Text {n : Nat} (h : n < 4294967296) :
    version4Of? (version4Text n).toList = some n := by
  have hlast := getLast?_fields_version4Text n
  rw [fields_version4Text] at hlast
  rw [version4Of?, fields_version4Text]
  simp only [if_neg hlast, mapM_part?_octets]
  simp [octets, List.zipIdx]
  omega

/-- One final dot is not a part of a version 4 address. -/
theorem version4Of?_concat_dot {cs : List Char} (h : (fields '.' cs).getLast? ≠ some []) :
    version4Of? (cs ++ ['.']) = version4Of? cs := by
  rw [version4Of?, version4Of?, fields_concat]
  simp only [List.getLast?_concat, List.dropLast_concat, if_neg h, if_true]

/-- Two final dots are not the end of a number. -/
theorem endsInNumber_two_dots (cs : List Char) : endsInNumber (cs ++ ['.', '.']) = false := by
  have hfields : fields '.' (cs ++ ['.', '.']) = fields '.' cs ++ [[], []] := by
    have htwo : cs ++ ['.', '.'] = (cs ++ ['.']) ++ ['.'] := by simp
    rw [htwo, fields_concat, fields_concat]
    simp
  have hlast : lastPiece? (fields '.' (cs ++ ['.', '.'])) = some [] := by
    rw [hfields, lastPiece?]
    simp
  rw [endsInNumber, hlast]
  rfl

theorem endsInNumber_version4Text (n : Nat) : endsInNumber (version4Text n).toList = true := by
  rw [endsInNumber, fields_version4Text]
  have hlast : lastPiece? ((octets n).map (Nat.toDigits 10)) = some (Nat.toDigits 10 (n % 256)) := by
    simp [octets, lastPiece?, Nat.toDigits_ne_nil]
  have hdigits : (Nat.toDigits 10 (n % 256)).all isDigit = true :=
    List.all_eq_true.2 fun c hc => isDigit_of_mem_toDigits hc
  simp [hlast, hdigits, Nat.toDigits_ne_nil]

/-- Bytes in front of a number do not reach the next power. -/
theorem foldl_parts_le {before : List Nat} {start : Nat} (hlength : start + before.length ≤ 4)
    (hbefore : ∀ x ∈ before, x ≤ 255) (last : Nat) :
    (before.zipIdx start).foldl (fun n (x, i) => n + x * Nat.pow 256 (3 - i)) last +
        Nat.pow 256 (4 - start - before.length) ≤ last + Nat.pow 256 (4 - start) := by
  induction before generalizing start last with
  | nil => exact Nat.le_refl _
  | cons x more ih =>
      -- the part takes the byte of its place, and the rest stays below that place
      rw [List.length_cons] at hlength
      have hshort : start + 1 + more.length ≤ 4 := by omega
      have hmore := ih hshort (fun y hy => hbefore y (List.mem_cons_of_mem _ hy))
        (last + x * Nat.pow 256 (3 - start))
      have hx : x * Nat.pow 256 (3 - start) ≤ 255 * Nat.pow 256 (3 - start) :=
        Nat.mul_le_mul_right _ (hbefore x List.mem_cons_self)
      have hpow : Nat.pow 256 (4 - start) = Nat.pow 256 (3 - start) * 256 := by
        have hexp : 4 - start = (3 - start) + 1 := by omega
        rw [hexp]
        rfl
      have hexp : 4 - start - (x :: more).length = 4 - (start + 1) - more.length := by
        rw [List.length_cons]
        omega
      have hexp' : 4 - (start + 1) = 3 - start := by omega
      rw [hexp'] at hmore hexp
      rw [List.zipIdx_cons, List.foldl_cons, hexp, hpow]
      exact Nat.le_trans hmore (by omega)

/-- A number of up to four parts has up to four bytes. -/
theorem lt_of_version4Of? {cs : List Char} {n : Nat} (h : version4Of? cs = some n) :
    n < 4294967296 := by
  unfold version4Of? at h
  extract_lets pieces pieces' at h
  by_cases hlength : 4 < pieces'.length
  · rw [if_pos hlength] at h
    cases h
  · rw [if_neg hlength] at h
    obtain ⟨numbers, hnumbers, h⟩ := Option.bind_eq_some_iff.1 h
    obtain ⟨last, hlast, h⟩ := Option.bind_eq_some_iff.1 h
    extract_lets before at h
    by_cases hbad : (before.any (255 < ·) || Nat.pow 256 (4 - before.length) ≤ last) = true
    · rw [if_pos hbad] at h
      cases h
    · rw [if_neg hbad] at h
      obtain ⟨hbefore, hlast'⟩ : (∀ x ∈ before, x ≤ 255) ∧
          last < Nat.pow 256 (4 - before.length) := by
        simpa using hbad
      have hnumbers' : numbers.length = pieces'.length := length_of_mapM hnumbers
      have hshort : 0 + before.length ≤ 4 := by
        rw [List.length_dropLast]
        omega
      have hle := foldl_parts_le hshort hbefore last
      rw [Nat.sub_zero] at hle
      have hall : Nat.pow 256 4 = 4294967296 := by decide
      have hn : before.zipIdx.foldl (fun n (x, i) => n + x * Nat.pow 256 (3 - i)) last = n :=
        Option.some.inj h
      omega

end Version4

section UsualForm

theorem octet?_toDigits {n : Nat} (h : n < 256) : Host.octet? (Nat.toDigits 10 n) = some n := by
  have hall : ∀ n < 256, Host.octet? (Nat.toDigits 10 n) = some n := by decide +kernel
  exact hall n h

/-- An octet is written with the digits of its number. -/
theorem eq_toDigits_of_octet? {ds : List Char} {n : Nat} (h : Host.octet? ds = some n) :
    ds = Nat.toDigits 10 n ∧ n < 256 := by
  have hone : ∀ a ∈ digits, (Host.octet? [a]).all fun n =>
      [a] == Nat.toDigits 10 n && n < 256 := by decide +kernel
  have htwo : ∀ a ∈ digits, ∀ b ∈ digits, (Host.octet? [a, b]).all fun n =>
      [a, b] == Nat.toDigits 10 n && n < 256 := by decide +kernel
  have hthree : ∀ a ∈ digits, ∀ b ∈ digits, ∀ c ∈ digits, (Host.octet? [a, b, c]).all fun n =>
      [a, b, c] == Nat.toDigits 10 n && n < 256 := by decide +kernel
  obtain ⟨hlength, hdigits⟩ : (ds ≠ [] ∧ ds.length ≤ 3) ∧ ∀ d ∈ ds, d ∈ digits := by
    rw [Host.octet?] at h
    split at h
    · cases h
    · next hgood =>
        simp only [Bool.or_eq_true, not_or, Bool.not_eq_true', Bool.not_eq_false,
          decide_eq_true_eq, List.isEmpty_iff, List.all_eq_true] at hgood
        obtain ⟨⟨⟨⟨hne, hlong⟩, hall⟩, -⟩, -⟩ := hgood
        exact ⟨⟨hne, Nat.le_of_not_lt hlong⟩, fun d hd => mem_digits (hall d hd)⟩
  -- there are up to three digits
  have hfits : (Host.octet? ds).all fun n => ds == Nat.toDigits 10 n && n < 256 := by
    match ds, hlength, hdigits with
    | [a], _, hdigits => exact hone a (hdigits a (by simp))
    | [a, b], _, hdigits => exact htwo a (hdigits a (by simp)) b (hdigits b (by simp))
    | [a, b, c], _, hdigits =>
        exact hthree a (hdigits a (by simp)) b (hdigits b (by simp)) c (hdigits c (by simp))
  rw [h, Option.all_some, Bool.and_eq_true, beq_iff_eq, decide_eq_true_eq] at hfits
  exact hfits

/-- A text is the usual form of a version 4 address if it is how one is written. -/
theorem exists_of_version4? {cs : List Char} {ns : List Nat} (h : Host.version4? cs = some ns) :
    ∃ n < 4294967296, cs = (version4Text n).toList := by
  rw [Host.version4?] at h
  split at h
  · next hfour =>
      have hwritten : ns.map (Nat.toDigits 10) = fields '.' cs :=
        map_of_mapM h fun ds n _ hds => (eq_toDigits_of_octet? hds).1.symm
      have hlength : ns.length = 4 := (length_of_mapM h).trans (beq_iff_eq.1 hfour)
      match ns, hlength with
      | [a, b, c, d], _ =>
          have hlt : ∀ n ∈ [a, b, c, d], n < 256 := by
            intro n hn
            obtain ⟨ds, -, hds⟩ := mem_of_mapM h hn
            exact (eq_toDigits_of_octet? hds).2
          have ha := hlt a (by simp)
          have hb := hlt b (by simp)
          have hc := hlt c (by simp)
          have hd := hlt d (by simp)
          refine ⟨16777216 * a + 65536 * b + 256 * c + d, by omega, ?_⟩
          have hoctets : octets (16777216 * a + 65536 * b + 256 * c + d) = [a, b, c, d] := by
            simp only [octets, List.cons.injEq, and_true]
            omega
          rw [toList_version4Text, hoctets, hwritten, join_fields]
  · cases h

theorem version4?_version4Text (n : Nat) :
    Host.version4? (version4Text n).toList = some (octets n) := by
  rw [Host.version4?, fields_version4Text]
  exact mapM_map_eq_some fun _ hx => octet?_toDigits (lt_of_mem_octets hx)

end UsualForm

section Groups

theorem colon_not_mem_toDigits (n : Nat) : ':' ∉ Nat.toDigits 16 n := by
  intro h
  have hdigit := toNat_of_mem_toDigits h
  revert hdigit
  decide

variable {gs : List Nat}

theorem toList_groups (gs : List Nat) :
    (":".intercalate (gs.map groupText)).toList = join ':' (gs.map (Nat.toDigits 16)) := by
  rw [toList_intercalate, List.map_map]
  congr 1
  exact List.map_congr_left fun g _ => String.toList_ofList

theorem fields_groups (hne : gs ≠ []) :
    fields ':' (join ':' (gs.map (Nat.toDigits 16))) = gs.map (Nat.toDigits 16) := by
  refine fields_join (by simpa using hne) fun piece hpiece => ?_
  obtain ⟨g, -, rfl⟩ := List.mem_map.1 hpiece
  exact colon_not_mem_toDigits g

theorem mapM_group? (h : ∀ g ∈ gs, g < 65536) :
    (gs.map (Nat.toDigits 16)).mapM Host.group? = some gs :=
  mapM_map_eq_some fun g hg => Host.group?_toDigits (h g hg)

theorem groups?_join (h : ∀ g ∈ gs, g < 65536) (mixed : Bool) :
    Host.groups? mixed (join ':' (gs.map (Nat.toDigits 16))) = some gs := by
  rcases List.eq_nil_or_concat gs with rfl | ⟨before, last, rfl⟩
  · rfl
  · rw [List.concat_eq_append] at h ⊢
    have hne : before ++ [last] ≠ [] := by simp
    have hsome : join ':' ((before ++ [last]).map (Nat.toDigits 16)) ≠ [] := by
      intro hempty
      have hfields := fields_groups hne
      rw [hempty] at hfields
      have := congrArg List.getLast? hfields
      simp [fields] at this
    have hbefore : (before.map (Nat.toDigits 16)).mapM Host.group? = some before :=
      mapM_group? fun g hg => h g (List.mem_append_left _ hg)
    have hlast := Host.group?_toDigits (h last (List.mem_append_right _ List.mem_cons_self))
    rw [Host.groups?, if_neg (by simpa using hsome), fields_groups hne]
    simp [hbefore, hlast]

end Groups

section Zeros

/-- The run of zeros that is left out is one. -/
theorem longestZeroRun_spec (start : Nat) (gs : List Nat) :
    ∃ before after,
      gs = before ++ List.replicate (longestZeroRun start gs).2 0 ++ after ∧
        (gs ≠ [] → (longestZeroRun start gs).1 = start + before.length) := by
  induction gs generalizing start with
  | nil => exact ⟨[], [], rfl, fun h => absurd rfl h⟩
  | cons g more ih =>
      rw [longestZeroRun]
      split
      · -- the run at the front is the longest
        refine ⟨[], (g :: more).dropWhile (· == 0), ?_, fun _ => rfl⟩
        have hzeros : (g :: more).takeWhile (· == 0) =
            List.replicate (zeroRun (g :: more)) 0 := by
          refine List.eq_replicate_iff.2 ⟨rfl, fun x hx => ?_⟩
          simpa using List.all_eq_true.1 List.all_takeWhile x hx
        rw [List.nil_append, ← hzeros, List.takeWhile_append_dropWhile]
      · next hlonger =>
          obtain ⟨before, after, hsplit, hstart⟩ := ih (start + 1)
          have hne : more ≠ [] := by
            rintro rfl
            exact hlonger (Nat.zero_le _)
          refine ⟨g :: before, after, ?_, fun _ => ?_⟩
          · rw [List.cons_append, List.cons_append, ← hsplit]
          · rw [hstart hne, List.length_cons]
            omega

end Zeros

section Colons

theorem cutAt?_append_of_not_mem {cs : List Char} (h : ':' ∉ cs) (tail : List Char) :
    cutAt? [':', ':'] (cs ++ tail) =
      (cutAt? [':', ':'] tail).map fun (before, after) => (cs ++ before, after) := by
  induction cs with
  | nil => simp
  | cons c more ih =>
      obtain ⟨hc, hmore⟩ : ':' ≠ c ∧ ':' ∉ more := by simpa using h
      have hno : ¬List.isPrefixOf [':', ':'] (c :: (more ++ tail)) = true := by simp [hc]
      rw [List.cons_append, cutAt?, if_neg hno, ih hmore, Option.map_map]
      rfl

/-- Two colons are not found between colons and pieces with a character. -/
theorem cutAt?_join_append {pieces : List (List Char)} (hne : pieces ≠ [])
    (h : ∀ piece ∈ pieces, piece ≠ [] ∧ ':' ∉ piece) (tail : List Char) :
    cutAt? [':', ':'] (join ':' pieces ++ tail) =
      (cutAt? [':', ':'] tail).map fun (before, after) => (join ':' pieces ++ before, after) := by
  induction pieces with
  | nil => exact absurd rfl hne
  | cons piece more ih =>
      obtain ⟨-, hpiece⟩ := h piece List.mem_cons_self
      cases more with
      | nil => exact cutAt?_append_of_not_mem hpiece tail
      | cons next rest =>
          have hmore := ih (by simp) fun p hp => h p (List.mem_cons_of_mem _ hp)
          obtain ⟨d, ds, hd⟩ : ∃ d ds, next = d :: ds :=
            List.exists_cons_of_ne_nil (h next (by simp)).1
          have hcolon : ':' ≠ d := fun e => (h next (by simp)).2 (hd ▸ e ▸ List.mem_cons_self)
          have hstart : ∃ ds', join ':' (next :: rest) ++ tail = d :: ds' := by
            rw [hd]
            cases rest with
            | nil => exact ⟨ds ++ tail, rfl⟩
            | cons p ps => exact ⟨_, rfl⟩
          obtain ⟨ds', hds'⟩ := hstart
          have hno : ¬List.isPrefixOf [':', ':'] (':' :: (d :: ds')) = true := by simp [hcolon]
          have hjoin : join ':' (piece :: next :: rest) = piece ++ ':' :: join ':' (next :: rest) :=
            rfl
          rw [hjoin, List.append_assoc, cutAt?_append_of_not_mem hpiece, List.cons_append, hds',
            cutAt?, if_neg hno, ← hds', hmore, Option.map_map, Option.map_map]
          simp [Function.comp_def]

end Colons

section Version6

variable {gs : List Nat}

theorem groupPieces (gs : List Nat) :
    ∀ piece ∈ gs.map (Nat.toDigits 16), piece ≠ [] ∧ ':' ∉ piece := by
  intro piece hpiece
  obtain ⟨g, -, rfl⟩ := List.mem_map.1 hpiece
  exact ⟨Nat.toDigits_ne_nil, colon_not_mem_toDigits g⟩

theorem cutAt?_groups_append (gs : List Nat) (tail : List Char) :
    cutAt? [':', ':'] (join ':' (gs.map (Nat.toDigits 16)) ++ ':' :: ':' :: tail) =
      some (join ':' (gs.map (Nat.toDigits 16)), tail) := by
  have hcut : cutAt? [':', ':'] (':' :: ':' :: tail) = some ([], tail) := by simp [cutAt?]
  cases gs with
  | nil => exact hcut
  | cons g more =>
      rw [cutAt?_join_append (by simp) (groupPieces (g :: more)), hcut]
      simp

theorem cutAt?_groups (hne : gs ≠ []) :
    cutAt? [':', ':'] (join ':' (gs.map (Nat.toDigits 16))) = none := by
  have hcut := cutAt?_join_append (by simpa using hne) (groupPieces gs) []
  rwa [List.append_nil] at hcut

theorem version6?_version6Text (hlength : gs.length = 8) (h : ∀ g ∈ gs, g < 65536) :
    Host.version6? (version6Text gs).toList = some gs := by
  have hne : gs ≠ [] := by
    rintro rfl
    cases hlength
  obtain ⟨before, after, hsplit, hstart⟩ := longestZeroRun_spec 0 gs
  have hstart := hstart hne
  rw [Nat.zero_add] at hstart
  rw [version6Text]
  generalize longestZeroRun 0 gs = run at hsplit hstart
  obtain ⟨start, length⟩ := run
  obtain rfl : start = before.length := hstart
  by_cases hshort : length < 2
  · -- every group is written, so there are no two colons in a row
    simp only [if_pos hshort]
    rw [toList_groups, Host.version6?, cutAt?_groups hne]
    simp only [groups?_join h, hlength, if_true]
  · -- the reader fills the gap up to eight groups, with as many zeros as were left out
    have hbefore : ∀ g ∈ before, g < 65536 := fun g hg => h g (by simp [hsplit, hg])
    have hafter : ∀ g ∈ after, g < 65536 := fun g hg => h g (by simp [hsplit, hg])
    have hcount : before.length + length + after.length = 8 := by
      rw [← hlength, hsplit]
      simp [Nat.add_assoc]
    have htake : gs.take before.length = before := by simp [hsplit]
    have hdrop : gs.drop (before.length + length) = after := by
      rw [hsplit, List.drop_left' (by simp)]
    have hzeros : 8 - before.length - after.length = length := by omega
    have htext : (":".intercalate (before.map groupText) ++ "::" ++
        ":".intercalate (after.map groupText)).toList =
          join ':' (before.map (Nat.toDigits 16)) ++
            ':' :: ':' :: join ':' (after.map (Nat.toDigits 16)) := by
      rw [String.toList_append, String.toList_append, toList_groups, toList_groups,
        List.append_assoc]
      rfl
    simp only [if_neg hshort, htake, hdrop]
    rw [htext, Host.version6?, cutAt?_groups_append]
    simp only [groups?_join hbefore, groups?_join hafter, hzeros]
    rw [if_pos (by omega), hsplit]

/-- Without colons there are at most two groups. -/
theorem length_of_groups? {mixed : Bool} {cs : List Char} (hcolon : ':' ∉ cs) {gs : List Nat}
    (h : RequestGuard.Host.groups? mixed cs = some gs) : gs.length ≤ 2 := by
  rw [RequestGuard.Host.groups?, fields_of_not_mem hcolon] at h
  split at h
  · obtain rfl := Option.some.inj h
    exact Nat.zero_le _
  · simp only [List.dropLast_singleton, List.getLast?_singleton, List.mapM_nil, Option.pure_def,
      List.nil_append, Option.map_id'] at h
    split at h
    · obtain rfl := Option.some.inj h
      exact Nat.le_succ 1
    · split at h
      · rw [RequestGuard.Host.mixedGroups?] at h
        split at h
        · obtain rfl := Option.some.inj h
          exact Nat.le_refl 2
        · cases h
      · cases h

/-- A version 6 address is written with colons. -/
theorem colon_mem_of_version6? {cs : List Char} {gs : List Nat}
    (h : RequestGuard.Host.version6? cs = some gs) : ':' ∈ cs := by
  rw [RequestGuard.Host.version6?] at h
  split at h
  · split at h
    · next gs' hgs =>
        split at h
        · next height =>
            refine Decidable.by_contra fun hcolon => ?_
            have hshort := length_of_groups? hcolon hgs
            omega
        · cases h
    · cases h
  · next before after hcut =>
      rw [eq_of_cutAt? hcut]
      simp

theorem lt_of_hexValue? {c : Char} {v : Nat} (h : hexValue? c = some v) : v < 16 := by
  rw [hexValue?] at h
  split at h
  · next hdigit =>
      have hdigit' := (isDigit_iff c).1 hdigit
      have := Option.some.inj h
      omega
  · split at h
    · next hsmall =>
        have hsmall' : 97 ≤ c.toNat ∧ c.toNat ≤ 102 := by simpa [le_iff_toNat_le] using hsmall
        have := Option.some.inj h
        omega
    · split at h
      · next hbig =>
          have hbig' : 65 ≤ c.toNat ∧ c.toNat ≤ 70 := by simpa [le_iff_toNat_le] using hbig
          have := Option.some.inj h
          omega
      · cases h

theorem foldl_hex_lt {vs : List Nat} (h : ∀ v ∈ vs, v < 16) (n : Nat) :
    vs.foldl (fun n v => 16 * n + v) n < 16 ^ vs.length * (n + 1) := by
  induction vs generalizing n with
  | nil => simp
  | cons v more ih =>
      have hv : v < 16 := h v List.mem_cons_self
      have hmore := ih (fun w hw => h w (List.mem_cons_of_mem _ hw)) (16 * n + v)
      have hmul : 16 ^ more.length * (16 * n + v + 1) ≤ 16 ^ more.length * (16 * (n + 1)) :=
        Nat.mul_le_mul_left _ (by omega)
      have hpow : 16 ^ (v :: more).length * (n + 1) = 16 ^ more.length * (16 * (n + 1)) := by
        rw [List.length_cons, Nat.pow_succ, Nat.mul_assoc]
      rw [List.foldl_cons, hpow]
      exact Nat.lt_of_lt_of_le hmore hmul

theorem lt_of_group? {ds : List Char} {g : Nat} (h : Host.group? ds = some g) : g < 65536 := by
  rw [Host.group?] at h
  split at h
  · cases h
  · next hlength =>
      obtain ⟨vs, hvs, rfl⟩ := Option.map_eq_some_iff.1 h
      have hlt : ∀ v ∈ vs, v < 16 := by
        intro v hv
        obtain ⟨c, -, hc⟩ := mem_of_mapM hvs hv
        exact lt_of_hexValue? hc
      have hfour : vs.length ≤ 4 := by
        have hshort : ds ≠ [] ∧ ds.length ≤ 4 := by simpa using hlength
        have hsame : vs.length = ds.length := length_of_mapM hvs
        omega
      have hpow : 16 ^ vs.length ≤ 16 ^ 4 := Nat.pow_le_pow_right (by decide) hfour
      have hfold := foldl_hex_lt hlt 0
      have hall : 16 ^ 4 = 65536 := by decide
      omega

theorem lt_of_mixedGroups? {cs : List Char} {gs : List Nat} (h : Host.mixedGroups? cs = some gs) :
    ∀ g ∈ gs, g < 65536 := by
  rw [Host.mixedGroups?] at h
  split at h
  · next a b c d habcd =>
      have hoctet : ∀ x ∈ [a, b, c, d], x ≤ 255 := by
        intro x hx
        rw [Host.version4?] at habcd
        split at habcd
        · obtain ⟨ds, -, hds⟩ := mem_of_mapM habcd hx
          rw [Host.octet?] at hds
          split at hds
          · cases hds
          · next hds' =>
              have hx := Option.some.inj hds
              simp only [Bool.or_eq_true, not_or, decide_eq_true_eq] at hds'
              omega
        · cases habcd
      obtain rfl := Option.some.inj h
      have ha := hoctet a (by simp)
      have hb := hoctet b (by simp)
      have hc := hoctet c (by simp)
      have hd := hoctet d (by simp)
      intro g hg
      simp only [List.mem_cons, List.not_mem_nil, or_false] at hg
      rcases hg with rfl | rfl <;> omega
  · cases h

theorem lt_of_groups? {mixed : Bool} {cs : List Char} {gs : List Nat}
    (h : Host.groups? mixed cs = some gs) : ∀ g ∈ gs, g < 65536 := by
  rw [Host.groups?] at h
  split at h
  · obtain rfl := Option.some.inj h
    exact fun g hg => nomatch hg
  · extract_lets pieces at h
    split at h
    · next before last hbefore hlast =>
        have hlt : ∀ g ∈ before, g < 65536 := fun g hg =>
          have ⟨ds, _, hds⟩ := mem_of_mapM hbefore hg
          lt_of_group? hds
        split at h
        · next g hg =>
            obtain rfl := Option.some.inj h
            intro x hx
            rcases List.mem_append.1 hx with hx | hx
            · exact hlt x hx
            · rw [List.mem_singleton.1 hx]
              exact lt_of_group? hg
        · split at h
          · obtain ⟨more, hmore, rfl⟩ := Option.map_eq_some_iff.1 h
            intro x hx
            rcases List.mem_append.1 hx with hx | hx
            · exact hlt x hx
            · exact lt_of_mixedGroups? hmore x hx
          · cases h
    · cases h

theorem groups_of_version6? {cs : List Char} {gs : List Nat} (h : Host.version6? cs = some gs) :
    gs.length = 8 ∧ ∀ g ∈ gs, g < 65536 := by
  rw [Host.version6?] at h
  split at h
  · split at h
    · next hgroups =>
        split at h
        · next hlength =>
            obtain rfl := Option.some.inj h
            exact ⟨hlength, lt_of_groups? hgroups⟩
        · cases h
    · cases h
  · split at h
    · next bs as hbs has =>
        split at h
        · next hcount =>
            obtain rfl := Option.some.inj h
            refine ⟨?_, fun g hg => ?_⟩
            · simp
              omega
            · rcases List.mem_append.1 hg with hg | hg
              · rcases List.mem_append.1 hg with hg | hg
                · exact lt_of_groups? hbs g hg
                · rw [(List.mem_replicate.1 hg).2]
                  decide
              · exact lt_of_groups? has g hg
        · cases h
    · cases h

end Version6

end Url
end RequestGuard
