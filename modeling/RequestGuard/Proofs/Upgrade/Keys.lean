import RequestGuard.Host.Lemmas
import RequestGuard.Proofs.Text.Numerals
import RequestGuard.Proofs.Upgrade.Walk

/-!
# The keys of a host

Which keys a walk asks for, said by the order "equal to or below" of names.

* `mem_wildcards_iff`: the names that stand behind `*.` are the names with a dot that the host
  lies strictly below.
* `wildcardLast?_append`: the last key has `*` in place of what follows the last dot.
* `nodup_keyChars`: in a host without `*` no key is that of another kind.
* `keys_exact` says all of this of the keys, and of what a walk asks a store for.
-/

namespace RequestGuard
namespace Upgrade

open Text

section Wildcards

universe u

/-- Where a property is handed down from a member to those before it, the longest run of
members with it holds all of them. -/
theorem takeWhile_eq_filter_of_pairwise {α : Type u} {p : α → Bool} {xs : List α}
    (h : xs.Pairwise fun a b => p b = true → p a = true) : xs.takeWhile p = xs.filter p := by
  induction xs with
  | nil => rfl
  | cons x more ih =>
      obtain ⟨hx, hmore⟩ := List.pairwise_cons.1 h
      by_cases hp : p x = true
      · rw [List.takeWhile_cons_of_pos hp, List.filter_cons_of_pos hp, ih hmore]
      · have hnone : more.filter p = [] :=
          List.filter_eq_nil_iff.2 fun y hy hpy => hp (hx y hy hpy)
        rw [List.takeWhile_cons_of_neg hp, List.filter_cons_of_neg hp, hnone]

theorem hasDot_iff {cs : List Char} : hasDot cs = true ↔ '.' ∈ cs :=
  List.contains_iff_mem

/-- The names that stand behind `*.` in the keys of a host. -/
def wildcards (host : List Char) : List (List Char) :=
  ((Host.chainChars host).drop 1).takeWhile hasDot

/-- Every wildcard stands behind a dot of those before it. -/
theorem pairwise_wildcards (host : List Char) :
    (wildcards host).Pairwise fun a b => ('.' :: b) <:+ a :=
  ((Host.pairwise_chainChars host).drop).sublist (List.takeWhile_sublist _)

theorem mem_wildcards_iff (host d : List Char) :
    d ∈ wildcards host ↔ '.' ∈ d ∧ ('.' :: d) <:+ host := by
  have hdown : ((Host.chainChars host).drop 1).Pairwise fun a b =>
      hasDot b = true → hasDot a = true :=
    (Host.pairwise_chainChars host).drop.imp fun hs hb =>
      hasDot_iff.2 (hs.subset (List.mem_cons_of_mem _ (hasDot_iff.1 hb)))
  rw [wildcards, takeWhile_eq_filter_of_pairwise hdown, List.mem_filter,
    Host.mem_drop_chainChars_iff, hasDot_iff]
  constructor
  · rintro ⟨⟨-, hs⟩, hdot⟩
    exact ⟨hdot, hs⟩
  · rintro ⟨hdot, hs⟩
    exact ⟨⟨List.ne_nil_of_mem hdot, hs⟩, hdot⟩

/-- A wildcard is a name with a dot that the host lies strictly below. -/
theorem toList_mem_wildcards_iff (host d : String) :
    d.toList ∈ wildcards host.toList ↔
      d ≠ host ∧ '.' ∈ d.toList ∧ Host.isWithin host d = true := by
  rw [mem_wildcards_iff, Host.isWithin_iff]
  constructor
  · rintro ⟨hdot, hs⟩
    refine ⟨?_, hdot, ?_, Or.inr hs⟩
    · rintro rfl
      exact absurd (Host.length_lt_of_dotted_suffix hs) (Nat.lt_irrefl _)
    · rintro rfl
      cases hdot
  · rintro ⟨hne, hdot, -, heq | hs⟩
    · exact absurd heq.symm hne
    · exact ⟨hdot, hs⟩

end Wildcards

section LastLabel

theorem wildcardLast?_of_not_mem {host : List Char} (h : '.' ∉ host) :
    wildcardLast? host = none := by
  rw [wildcardLast?, fields_of_not_mem h]
  rfl

theorem wildcardLast?_append {before last : List Char} (h : '.' ∉ last) :
    wildcardLast? (before ++ '.' :: last) = some (before ++ ['.', '*']) := by
  rw [wildcardLast?, fields_append_of_not_mem h, List.dropLast_concat]
  split
  · next hnil => exact absurd hnil (fields_ne_nil '.' before)
  · rw [join_fields]

/-- A name with a dot is cut at its last one. -/
theorem exists_last_dot {host : List Char} (h : '.' ∈ host) :
    ∃ before last, host = before ++ '.' :: last ∧ '.' ∉ last := by
  obtain ⟨last, before, heq, hlast⟩ := List.eq_append_cons_of_mem (List.mem_reverse.2 h)
  refine ⟨before.reverse, last.reverse, ?_, by simpa using hlast⟩
  rw [← List.reverse_reverse host, heq]
  simp

/-- In a host without `*`, no key starts with `*` because of the last label. -/
theorem head?_ne_star_of_wildcardLast? {host key : List Char} (hstar : '*' ∉ host)
    (h : wildcardLast? host = some key) : key.head? ≠ some '*' ∧ '*' ∈ key := by
  by_cases hdot : '.' ∈ host
  · obtain ⟨before, last, rfl, hlast⟩ := exists_last_dot hdot
    rw [wildcardLast?_append hlast] at h
    obtain rfl := Option.some.inj h
    refine ⟨?_, by simp⟩
    cases before with
    | nil => decide
    | cons c more =>
        intro hc
        obtain rfl : c = '*' := Option.some.inj hc
        exact hstar List.mem_cons_self
  · rw [wildcardLast?_of_not_mem hdot] at h
    cases h

end LastLabel

section Distinct

variable {host : List Char}

theorem keyChars_eq (host : List Char) :
    keyChars host =
      host :: ((wildcards host).map fun p => '*' :: '.' :: p) ++ (wildcardLast? host).toList :=
  rfl

/-- In a host without `*`, the key of a name below which it lies is none of the others. -/
theorem wildcard_mem_keyChars_iff (hstar : '*' ∉ host) (d : List Char) :
    '*' :: '.' :: d ∈ keyChars host ↔ d ∈ wildcards host := by
  rw [keyChars_eq, List.cons_append, List.mem_cons, List.mem_append, List.mem_map,
    Option.mem_toList]
  constructor
  · rintro (hself | ⟨p, hp, heq⟩ | hlast)
    · exact absurd (hself ▸ List.mem_cons_self) hstar
    · obtain rfl : p = d := by simpa using heq
      exact hp
    · exact absurd rfl (head?_ne_star_of_wildcardLast? hstar hlast).1
  · intro hd
    exact Or.inr (Or.inl ⟨d, hd, rfl⟩)

theorem nodup_wildcards (host : List Char) : (wildcards host).Nodup := by
  refine (pairwise_wildcards host).imp ?_
  rintro a b hs rfl
  exact absurd (Host.length_lt_of_dotted_suffix hs) (Nat.lt_irrefl _)

/-- A host without `*` has no key twice. -/
theorem nodup_keyChars (hstar : '*' ∉ host) : (keyChars host).Nodup := by
  have hmap : ((wildcards host).map fun p => '*' :: '.' :: p).Nodup :=
    List.Pairwise.map _ (fun p q hne heq => hne (by simpa using heq)) (nodup_wildcards host)
  have hlast : (wildcardLast? host).toList.Nodup := by
    cases wildcardLast? host with
    | none => exact List.nodup_nil
    | some key => exact List.pairwise_singleton _ key
  rw [keyChars_eq, List.cons_append, List.nodup_cons, List.nodup_append]
  refine ⟨?_, hmap, hlast, ?_⟩
  · -- every other key has a `*`
    intro hself
    rcases List.mem_append.1 hself with hself | hself
    · obtain ⟨p, -, heq⟩ := List.mem_map.1 hself
      exact hstar (heq ▸ List.mem_cons_self)
    · exact hstar (head?_ne_star_of_wildcardLast? hstar (Option.mem_toList.1 hself)).2
  · rintro a ha b hb rfl
    obtain ⟨p, -, rfl⟩ := List.mem_map.1 ha
    exact absurd rfl (head?_ne_star_of_wildcardLast? hstar (Option.mem_toList.1 hb)).1

end Distinct

section Results

/-- What a walk asks for are the first keys, in their order. -/
theorem map_fst_walkLookups_isPrefix {σ : Type} (ask : Ask σ) (url : String) (ks : List String)
    (s : σ) : (walkLookups ask url ks s).map Prod.fst <+: ks := by
  have hfront := (walked_walk ask url ks s).isPrefix.map Prod.fst
  rwa [map_fst_heard] at hfront

theorem keys_eq (host : String) :
    keys host = host :: ((wildcards host.toList).map String.ofList).map ("*." ++ ·) ++
      ((wildcardLast? host.toList).map String.ofList).toList := by
  have hstar : (String.ofList ∘ fun p => '*' :: '.' :: p) = ("*." ++ ·) ∘ String.ofList := by
    funext p
    rw [← String.toList_inj]
    simp
  rw [keys, keyChars_eq, List.cons_append, List.map_cons, List.map_append, List.map_map, hstar,
    List.map_map, String.ofList_toList, List.cons_append]
  cases wildcardLast? host.toList <;> rfl

theorem wildcard_mem_keys_iff {host : String} (hstar : '*' ∉ host.toList) (d : String) :
    "*." ++ d ∈ keys host ↔ d ≠ host ∧ '.' ∈ d.toList ∧ Host.isWithin host d = true := by
  have hchars : ("*." ++ d).toList = '*' :: '.' :: d.toList := by simp
  rw [← toList_mem_wildcards_iff, ← wildcard_mem_keyChars_iff hstar, ← hchars, keys,
    List.mem_map]
  constructor
  · rintro ⟨k, hk, heq⟩
    rwa [← heq, String.toList_ofList]
  · intro hk
    exact ⟨_, hk, String.ofList_toList⟩

/-- **The keys of a host are exact.**  They are the host itself, then `*.` and each name with a
dot that the host lies strictly below, the longest first, and last, if the host has a dot, the
host with `*` in place of what follows its last dot.

If the host has no `*` itself, the key `*.` with a name that has a dot is one of them exactly
where the host lies strictly below the name, and none of them is there twice.  Whatever the
store, a walk asks for the first of them, in this order and each only once, and for all of them
where it comes to no address. -/
theorem keys_exact (host : String) :
    (∃ above last : List String,
      keys host = host :: above.map ("*." ++ ·) ++ last ∧
      (∀ d, d ∈ above ↔ d ≠ host ∧ '.' ∈ d.toList ∧ Host.isWithin host d = true) ∧
      above.Pairwise (fun a b => b.length < a.length) ∧
      ('.' ∉ host.toList → last = []) ∧
      ∀ before label : List Char, host.toList = before ++ '.' :: label → '.' ∉ label →
        last = [String.ofList before ++ ".*"]) ∧
    ('*' ∉ host.toList →
      (∀ d : String, '.' ∈ d.toList →
        ("*." ++ d ∈ keys host ↔ d ≠ host ∧ Host.isWithin host d = true)) ∧
      (keys host).Nodup ∧
      ∀ (σ : Type) (ask : Ask σ) (url : String) (s : σ),
        let asked := (walkLookups ask url (keys host) s).map Prod.fst
        asked <+: keys host ∧ asked.Nodup ∧
          (∀ ending ∈ [Ending.nothing, .failed],
            (walk ask url (keys host) false s).1 = ending → asked = keys host)) := by
  constructor
  · refine ⟨(wildcards host.toList).map String.ofList,
      ((wildcardLast? host.toList).map String.ofList).toList, keys_eq host, ?_, ?_, ?_, ?_⟩
    · intro d
      rw [← toList_mem_wildcards_iff, List.mem_map]
      constructor
      · rintro ⟨p, hp, rfl⟩
        rwa [String.toList_ofList]
      · intro hd
        exact ⟨_, hd, String.ofList_toList⟩
    · refine List.Pairwise.map _ (fun a b hs => ?_) (pairwise_wildcards host.toList)
      rw [String.length_ofList, String.length_ofList]
      exact Host.length_lt_of_dotted_suffix hs
    · intro hdot
      rw [wildcardLast?_of_not_mem hdot]
      rfl
    · intro before label hhost hlabel
      have hlast : String.ofList (before ++ ['.', '*']) = String.ofList before ++ ".*" := by
        rw [← String.toList_inj]
        simp
      rw [hhost, wildcardLast?_append hlabel, Option.map_some, hlast]
      rfl
  · intro hstar
    have hnodup : (keys host).Nodup :=
      List.Pairwise.map _ (fun a b hne heq => hne (String.ofList_inj.1 heq)) (nodup_keyChars hstar)
    refine ⟨fun d hdot => ?_, hnodup, fun σ ask url s => ?_⟩
    · rw [wildcard_mem_keys_iff hstar]
      constructor
      · rintro ⟨hne, -, hwithin⟩
        exact ⟨hne, hwithin⟩
      · rintro ⟨hne, hwithin⟩
        exact ⟨hne, hdot, hwithin⟩
    · have hfront := map_fst_walkLookups_isPrefix ask url (keys host) s
      refine ⟨hfront, hnodup.sublist hfront.sublist, fun ending hending hwalk => ?_⟩
      have hwalked := walked_walk ask url (keys host) s
      rw [hwalk] at hwalked
      cases hwalked with
      | nothing hlookups | failed hlookups => rw [hlookups, map_fst_heard]
      | upgrade | panicked => simp at hending

/-- Rules for `*.b.io` are asked for, and rules for `*.io` are not. -/
theorem keys_exact_below :
    '*' ∉ "a.b.io".toList ∧ "*." ++ "b.io" ∈ keys "a.b.io" ∧ "*." ++ "a.b.io" ∉ keys "a.b.io" ∧
      (keys "a.b.io").Nodup := by
  have hstar : '*' ∉ "a.b.io".toList := by decide
  obtain ⟨hbelow, hnodup, -⟩ := (keys_exact "a.b.io").2 hstar
  refine ⟨hstar, (hbelow "b.io" (by decide)).2 ⟨by decide, by decide +kernel⟩, ?_, hnodup⟩
  exact fun hself => ((hbelow "a.b.io" (by decide)).1 hself).1 rfl

-- A host that starts with `*` itself is asked for twice.
example : keys "*.b.io" = ["*.b.io", "*.b.io", "*.b.*"] := by decide +kernel

end Results

end Upgrade
end RequestGuard
