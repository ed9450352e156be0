import RequestGuard.Host.Lemmas
import RequestGuard.Host.Site
import RequestGuard.Proofs.Text.Numerals

/-!
# The site of a site

A host stands for the label in front of its public suffix, with the suffix.  Whatever rules there
are for suffixes, that name stands for itself.

* `suffixSize_of_suffix`: a name that loses labels in front keeps its public suffix, as long as
  one label is left in front of it.
* `of_registrable?`: the registrable domain is one label longer than the suffix, so it has the
  same suffix (`getD_registrable?`).
* `sites_settle` puts together what holds of the sites of hosts without blanks.
-/

namespace RequestGuard
namespace Host

open Text

section Sizes

variable {rules : SuffixRules} {ls t : List (List Char)} {n : Nat}

/-- Where no exception applies to a name, none applies to an end of it. -/
theorem exceptionSize?_of_suffix_of_eq_none (h : rules.exceptionSize? ls = none) (ht : t <:+ ls) :
    rules.exceptionSize? t = none := by
  induction ls with
  | nil => rw [List.suffix_nil.1 ht]; rfl
  | cons l rest ih =>
      rcases List.suffix_cons_iff.1 ht with rfl | ht
      · exact h
      · rw [SuffixRules.exceptionSize?] at h
        split at h
        · cases h
        · exact ih h ht

/-- An exception applies to every end of a name that it is found in. -/
theorem exceptionSize?_of_suffix (h : rules.exceptionSize? ls = some n) (ht : t <:+ ls)
    (hn : n < t.length) : rules.exceptionSize? t = some n := by
  induction ls with
  | nil => cases h
  | cons l rest ih =>
      rcases List.suffix_cons_iff.1 ht with rfl | ht
      · exact h
      · rw [SuffixRules.exceptionSize?] at h
        split at h
        · -- the exception is longer than the end
          have hle := ht.length_le
          have hsize : rest.length = n := Option.some.inj h
          omega
        · exact ih h ht

/-- The longest rule of a name is that of every end that is long enough for it. -/
theorem head?_sizes_of_suffix (h : (rules.sizes ls).head? = some n) (ht : t <:+ ls)
    (hn : n ≤ t.length) : (rules.sizes t).head? = some n := by
  induction ls with
  | nil => cases h
  | cons l rest ih =>
      rcases List.suffix_cons_iff.1 ht with rfl | ht
      · exact h
      · have hle := ht.length_le
        cases rest with
        | nil =>
            have hsize : 1 = n := Option.some.inj h
            rw [List.length_nil] at hle
            omega
        | cons next more =>
            simp only [SuffixRules.sizes] at h
            split at h
            · have hsize : (next :: more).length + 1 = n := Option.some.inj h
              omega
            · exact ih h ht

/-- The last label is a suffix by itself. -/
theorem exists_head?_sizes (rules : SuffixRules) (hne : ls ≠ []) :
    ∃ n, (rules.sizes ls).head? = some n := by
  induction ls with
  | nil => exact absurd rfl hne
  | cons l rest ih =>
      cases rest with
      | nil => exact ⟨1, rfl⟩
      | cons next more =>
          simp only [SuffixRules.sizes]
          split
          · exact ⟨_, rfl⟩
          · exact ih (by simp)

/-- An end of a name that is longer than its public suffix has the same public suffix. -/
theorem suffixSize_of_suffix (ht : t <:+ ls) (hlt : rules.suffixSize ls < t.length) :
    rules.suffixSize t = rules.suffixSize ls := by
  have hne : ls ≠ [] := by
    rintro rfl
    rw [List.suffix_nil.1 ht] at hlt
    exact absurd hlt (Nat.not_lt_zero _)
  rw [SuffixRules.suffixSize] at hlt
  rw [SuffixRules.suffixSize, SuffixRules.suffixSize]
  cases hexception : rules.exceptionSize? ls with
  | some n =>
      rw [hexception] at hlt
      rw [exceptionSize?_of_suffix hexception ht hlt, Option.getD_some, Option.getD_some]
  | none =>
      obtain ⟨n, hn⟩ := exists_head?_sizes rules hne
      rw [hexception, Option.getD_none, List.headD_eq_head?_getD, hn, Option.getD_some] at hlt
      rw [exceptionSize?_of_suffix_of_eq_none hexception ht, Option.getD_none, Option.getD_none,
        List.headD_eq_head?_getD, List.headD_eq_head?_getD, hn,
        head?_sizes_of_suffix hn ht (Nat.le_of_lt hlt)]

end Sizes

section Labels

variable {host : String} {t : List (List Char)}

theorem ofLabels_labels (host : String) : ofLabels (labels host) = host := by
  rw [ofLabels, labels, join_fields, String.ofList_toList]

/-- An end of the labels of a host writes the host, or what follows one of its dots. -/
theorem ofLabels_eq_or_suffix (hne : t ≠ []) (ht : t <:+ labels host) :
    ofLabels t = host ∨ ('.' :: (ofLabels t).toList) <:+ host.toList := by
  obtain ⟨before, hsplit⟩ := ht
  by_cases hbefore : before = []
  · left
    rw [hbefore, List.nil_append] at hsplit
    rw [hsplit, ofLabels_labels]
  · right
    refine ⟨join '.' before, ?_⟩
    rw [ofLabels, String.toList_ofList, ← join_append hbefore hne, hsplit, labels, join_fields]

/-- The labels of such an end are those it was made of. -/
theorem labels_ofLabels (hne : t ≠ []) (ht : t <:+ labels host) : labels (ofLabels t) = t := by
  rw [labels, ofLabels, String.toList_ofList]
  refine fields_join hne fun label hlabel => ?_
  exact not_mem_of_mem_fields (ht.subset hlabel)

end Labels

section Normal

variable {host other d : String}

theorem mem_of_mem_normalize (hblank : ∀ c ∈ host.toList, isBlank c = false) {c : Char}
    (hc : c ∈ (normalize host).toList) : isBlank c = false ∧ lowerChar c = c := by
  obtain ⟨tail, htail, -⟩ := dropTrailing_append (· == '.') host.toList
  rw [toList_normalize hblank] at hc
  obtain ⟨b, hb, rfl⟩ := List.mem_map.1 hc
  have hmem : b ∈ host.toList := htail ▸ List.mem_append_left tail hb
  exact ⟨(isBlank_lowerChar b).trans (hblank b hmem), lowerChar_lowerChar b⟩

/-- An end of a normal form is its own normal form. -/
theorem normalize_of_suffix (hblank : ∀ c ∈ host.toList, isBlank c = false)
    (hd : d.toList <:+ (normalize host).toList) : normalize d = d := by
  have hchars : ∀ c ∈ d.toList, isBlank c = false ∧ lowerChar c = c := fun c hc =>
    mem_of_mem_normalize hblank (hd.subset hc)
  have hlast : ∀ c, d.toList.getLast? = some c → (c == '.') = false := by
    intro c hc
    obtain ⟨front, hfront⟩ := hd
    have hwhole := getLast?_normalize host
    rw [← hfront, List.getLast?_append, hc, Option.some_or] at hwhole
    exact beq_eq_false_iff_ne.2 fun hdot => hwhole (congrArg some hdot)
  rw [← String.toList_inj, toList_normalize fun c hc => (hchars c hc).1,
    dropTrailing_of_getLast? hlast]
  exact (List.map_congr_left fun c hc => (hchars c hc).2).trans (List.map_id _)

theorem normalize_append_dots (hblank : ∀ c ∈ host.toList, isBlank c = false) (n : Nat) :
    normalize (host ++ String.ofList (List.replicate n '.')) = normalize host := by
  have hblank' : ∀ c ∈ (host ++ String.ofList (List.replicate n '.')).toList,
      isBlank c = false := by
    intro c hc
    rw [String.toList_append, String.toList_ofList] at hc
    rcases List.mem_append.1 hc with hc | hc
    · exact hblank c hc
    · rw [List.eq_of_mem_replicate hc]
      decide
  have hdots : ((List.replicate n '.').reverse ++ host.toList.reverse).dropWhile (· == '.') =
      host.toList.reverse.dropWhile (· == '.') :=
    List.dropWhile_append_of_pos fun c hc => by
      rw [List.eq_of_mem_replicate (List.mem_reverse.1 hc)]
      rfl
  rw [← String.toList_inj, toList_normalize hblank', toList_normalize hblank,
    String.toList_append, String.toList_ofList, dropTrailing, List.reverse_append, hdots,
    dropTrailing]

/-- Texts of the same letters have the same normal form. -/
theorem normalize_of_sameLetters (hblank : ∀ c ∈ host.toList, isBlank c = false)
    (h : sameLetters other host = true) : normalize other = normalize host := by
  have hmap : other.toList.map lowerChar = host.toList.map lowerChar := by
    have hlower : lower other = lower host := by simpa [sameLetters] using h
    rwa [lower, lower, ← String.toList_inj, String.toList_ofList, String.toList_ofList] at hlower
  have hblank' : ∀ c ∈ other.toList, isBlank c = false := by
    intro c hc
    have hmem : lowerChar c ∈ host.toList.map lowerChar := hmap ▸ List.mem_map_of_mem hc
    obtain ⟨b, hb, hlower⟩ := List.mem_map.1 hmem
    rw [← isBlank_lowerChar c, ← hlower, isBlank_lowerChar, hblank b hb]
  rw [← normalize_map_lowerChar hblank', hmap, normalize_map_lowerChar hblank]

end Normal

section Registrable

variable {rules : SuffixRules} {host d : String}

/-- The registrable domain is an end of the host with one label more than its suffix. -/
theorem of_registrable? (h : registrable? rules host = some d) :
    ∃ t, t <:+ labels host ∧ t.length = rules.suffixSize (labels host) + 1 ∧
      join '.' (t.drop 1) ≠ [] ∧ d = ofLabels t := by
  unfold registrable? at h
  dsimp only at h
  split at h
  · cases h
  · next hshown =>
      simp only [Bool.or_eq_true, List.isEmpty_iff, not_or] at hshown
      obtain ⟨hsuffix, hbefore⟩ := hshown
      have hlength : 0 < (labels host).length - rules.suffixSize (labels host) := by
        refine Nat.pos_of_ne_zero fun hzero => hbefore ?_
        rw [hzero, List.take_zero, join]
      refine ⟨_, List.drop_suffix _ _, ?_, ?_, (Option.some.inj h).symm⟩
      · rw [List.length_drop]
        omega
      · rw [List.drop_drop, Nat.sub_add_cancel hlength]
        exact hsuffix

/-- A host with one label in front of its suffix has no other registrable domain. -/
theorem getD_registrable? (h : (labels host).length = rules.suffixSize (labels host) + 1) :
    (registrable? rules host).getD host = host := by
  cases hd : registrable? rules host with
  | none => rfl
  | some d =>
      obtain ⟨t, ht, hlength, -, rfl⟩ := of_registrable? hd
      rw [ht.eq_of_length (hlength.trans h.symm), Option.getD_some, ofLabels_labels]

/-- The registrable domain of a host: the host lies within it, and it has itself for its own. -/
theorem registrable?_spec (h : registrable? rules host = some d) :
    isWithin host d = true ∧ (registrable? rules d).getD d = d := by
  obtain ⟨t, ht, hlength, hrest, rfl⟩ := of_registrable? h
  have hne : t ≠ [] := List.length_pos_iff.1 (by omega)
  have hlabels := labels_ofLabels hne ht
  constructor
  · refine (isWithin_iff _ _).2 ⟨fun hempty => ?_, ?_⟩
    · -- there is a dot at least
      obtain ⟨first, rest, rfl⟩ := List.exists_cons_of_ne_nil hne
      have hrest' : rest ≠ [] := by
        rintro rfl
        exact hrest rfl
      rw [ofLabels, ← String.toList_inj, String.toList_ofList, ← List.singleton_append,
        join_append (List.cons_ne_nil first []) hrest'] at hempty
      exact absurd hempty (by simp)
    · exact (ofLabels_eq_or_suffix hne ht).imp_left Eq.symm
  · have hsize : rules.suffixSize t = rules.suffixSize (labels host) :=
      suffixSize_of_suffix ht (by omega)
    exact getD_registrable? (by rw [hlabels, hsize, hlength])

end Registrable

section Sites

variable {rules : SuffixRules} {host other : String}

/-- What the sites of hosts have to keep to, for one host. -/
structure SiteLaws (rules : SuffixRules) (host : String) : Prop where
  /-- Final dots do not count. -/
  dots : ∀ n, siteOf rules (host ++ String.ofList (List.replicate n '.')) = siteOf rules host
  /-- The case of Latin letters does not count. -/
  letters : ∀ other, sameLetters other host = true → siteOf rules other = siteOf rules host
  /-- The host is its site or a name below it. -/
  within : normalize host ≠ "" → isWithin (normalize host) (siteOf rules host) = true
  /-- The site is its own site. -/
  again : siteOf rules (siteOf rules host) = siteOf rules host

theorem siteOf_of_normalize_eq (h : normalize other = normalize host) :
    siteOf rules other = siteOf rules host := by
  rw [siteOf, siteOf, h]

/-- The site is the normal form, or its registrable domain. -/
theorem siteOf_eq_or (rules : SuffixRules) (host : String) :
    siteOf rules host = normalize host ∨
      registrable? rules (normalize host) = some (siteOf rules host) := by
  rw [siteOf]
  split
  · exact Or.inl rfl
  · cases hd : registrable? rules (normalize host) with
    | none => exact Or.inl rfl
    | some d => exact Or.inr rfl

/-- A name in normal form that has no other registrable domain is its own site. -/
theorem siteOf_eq_self (hnormal : normalize host = host)
    (hown : (registrable? rules host).getD host = host) : siteOf rules host = host := by
  rw [siteOf, hnormal, hown, ite_self]

theorem siteOf_siteOf (hblank : ∀ c ∈ host.toList, isBlank c = false) :
    siteOf rules (siteOf rules host) = siteOf rules host := by
  rcases siteOf_eq_or rules host with hself | hdomain
  · rw [hself, siteOf_of_normalize_eq (normalize_of_suffix hblank (List.suffix_refl _)), hself]
  · obtain ⟨hwithin, hown⟩ := registrable?_spec hdomain
    have hsuffix : (siteOf rules host).toList <:+ (normalize host).toList := by
      rcases ((isWithin_iff _ _).1 hwithin).2 with heq | hdot
      · exact heq ▸ List.suffix_refl _
      · exact (List.suffix_cons '.' _).trans hdot
    exact siteOf_eq_self (normalize_of_suffix hblank hsuffix) hown

theorem siteLaws (rules : SuffixRules) (hblank : ∀ c ∈ host.toList, isBlank c = false) :
    SiteLaws rules host where
  dots n := siteOf_of_normalize_eq (normalize_append_dots hblank n)
  letters _ h := siteOf_of_normalize_eq (normalize_of_sameLetters hblank h)
  within hne := by
    rcases siteOf_eq_or rules host with hself | hdomain
    · rw [hself]
      exact isWithin_self hne
    · exact (registrable?_spec hdomain).1
  again := siteOf_siteOf hblank

/-- Whatever the rules for suffixes are, the site of a host without blanks does not depend on
final dots and on the case of letters, holds the host, and is its own site.  So a host is of one
site with its registrable domain, and two hosts are of one site as their domains are. -/
theorem sites_settle (hhost : ∀ c ∈ host.toList, isBlank c = false)
    (hother : ∀ c ∈ other.toList, isBlank c = false) :
    (∀ rules, SiteLaws rules host) ∧ sameSite host (site host) = true ∧
      sameSite host other = sameSite (site host) (site other) := by
  have hagain : site (site host) = site host := siteOf_siteOf hhost
  have hagain' : site (site other) = site other := siteOf_siteOf hother
  refine ⟨fun rules => siteLaws rules hhost, ?_, ?_⟩
  · rw [sameSite, hagain, beq_self_eq_true]
  · rw [sameSite, sameSite, hagain, hagain']

theorem sites_settle_of_shop :
    (∀ rules, SiteLaws rules "Shop.Example.co.uk.") ∧
      sameSite "Shop.Example.co.uk." (site "Shop.Example.co.uk.") = true ∧
      sameSite "Shop.Example.co.uk." "10.0.0.1" =
        sameSite (site "Shop.Example.co.uk.") (site "10.0.0.1") :=
  sites_settle (by decide) (by decide)

end Sites

end Host
end RequestGuard
