import RequestGuard.Proofs.Host.Site

/-!
# Normal forms of normal forms

The normal form of a host is found in one pass: first the blanks at both ends go, then the final
dots.  What stands in front of those dots is then the end, and it may be a blank.

* `BlankBeforeDots`: the hosts of which the pass leaves a blank at the end.
* `normalize_normalize_iff`: of all other hosts, and of no more, the normal form is its own.
* `normalize_settles`: what holds of every normal form, and what of those without such a blank.
-/

namespace RequestGuard
namespace Host

open Text

section Ends

variable {host : String} {c : Char}

/-- Without the blanks around it the host ends in a blank and dots. -/
def BlankBeforeDots (host : String) : Prop :=
  ∃ front b n, isBlank b = true ∧ trimChars host.toList = front ++ b :: List.replicate n '.'

/-- A blank has no other case, so it ends a normal form where it ended what was left. -/
theorem getLast?_normalize_of_blank (hc : isBlank c = true) :
    (normalize host).toList.getLast? = some c ↔
      (dropTrailing (· == '.') (trimChars host.toList)).getLast? = some c := by
  have hlower : ∀ d, lowerChar d = c ↔ d = c := by
    intro d
    constructor
    · intro h
      have hd : isBlank d = true := by rw [← isBlank_lowerChar, h, hc]
      rw [← h, lowerChar_of_isBlank hd]
    · rintro rfl
      exact lowerChar_of_isBlank hc
  rw [normalize, String.toList_ofList, List.getLast?_map, Option.map_eq_some_iff]
  simp [hlower]

/-- A normal form does not start with a blank. -/
theorem head?_normalize (h : (normalize host).toList.head? = some c) : isBlank c = false := by
  rw [normalize, String.toList_ofList, List.head?_map] at h
  obtain ⟨d, hd, rfl⟩ := Option.map_eq_some_iff.1 h
  rw [isBlank_lowerChar]
  exact head?_trimChars (head?_of_head?_dropTrailing hd)

/-- A normal form ends in a blank exactly where the final dots stood behind one. -/
theorem blankBeforeDots_iff (host : String) :
    BlankBeforeDots host ↔
      ∃ c, (normalize host).toList.getLast? = some c ∧ isBlank c = true := by
  constructor
  · rintro ⟨front, b, n, hb, htrim⟩
    refine ⟨b, (getLast?_normalize_of_blank hb).2 ?_, hb⟩
    have hdot : (b == '.') = false := by
      refine beq_eq_false_iff_ne.2 ?_
      rintro rfl
      exact absurd hb (by decide)
    have hdots : dropTrailing (· == '.') (front ++ b :: List.replicate n '.') = front ++ [b] := by
      rw [dropTrailing, List.reverse_append, List.reverse_cons, List.reverse_replicate,
        List.append_assoc, List.dropWhile_append_of_pos fun x hx => by
          rw [List.eq_of_mem_replicate hx]; rfl,
        List.singleton_append, List.dropWhile_cons_of_neg (by simp [hdot])]
      simp
    rw [htrim, hdots, List.getLast?_concat]
  · rintro ⟨b, hlast, hb⟩
    obtain ⟨front, hfront⟩ :=
      List.getLast?_eq_some_iff.1 ((getLast?_normalize_of_blank hb).1 hlast)
    obtain ⟨tail, htail, hdots⟩ := dropTrailing_append (· == '.') (trimChars host.toList)
    have hreplicate : tail = List.replicate tail.length '.' :=
      List.eq_replicate_iff.2 ⟨rfl, fun x hx => beq_iff_eq.1 (hdots x hx)⟩
    refine ⟨front, b, tail.length, hb, ?_⟩
    rw [← htail, hfront, List.append_assoc, List.singleton_append, ← hreplicate]

end Ends

section Passes

variable {host : String}

/-- A second pass changes nothing if the first one left no blank at the end. -/
theorem normalize_normalize (h : ¬BlankBeforeDots host) :
    normalize (normalize host) = normalize host := by
  have hlast : ∀ c, (normalize host).toList.getLast? = some c → isBlank c = false := by
    intro c hc
    refine Bool.eq_false_iff.2 fun hb => h ((blankBeforeDots_iff host).2 ⟨c, hc, hb⟩)
  have htrim : trimChars (normalize host).toList = (normalize host).toList :=
    trimChars_of_ends (fun c => head?_normalize) hlast
  have hdots : dropTrailing (· == '.') (normalize host).toList = (normalize host).toList :=
    dropTrailing_of_getLast? fun c hc =>
      beq_eq_false_iff_ne.2 fun hdot => getLast?_normalize host (hdot ▸ hc)
  have hlower : (normalize host).toList.map lowerChar = (normalize host).toList := by
    rw [normalize, String.toList_ofList, List.map_map]
    exact List.map_congr_left fun c _ => lowerChar_lowerChar c
  rw [normalize.eq_1 (normalize host), htrim, hdots, hlower, String.ofList_toList]

/-- A second pass takes away the blank that the first one left at the end. -/
theorem length_normalize_normalize_lt (h : BlankBeforeDots host) :
    (normalize (normalize host)).length < (normalize host).length := by
  obtain ⟨c, hc, hb⟩ := (blankBeforeDots_iff host).1 h
  have hshorter : (trimChars (normalize host).toList).length < (normalize host).toList.length := by
    refine Nat.lt_of_le_of_ne (trimChars_sublist _).length_le fun hlength => ?_
    have hwhole := (trimChars_sublist (normalize host).toList).eq_of_length hlength
    exact absurd hb (Bool.eq_false_iff.1 (getLast?_trimChars (hwhole ▸ hc)))
  obtain ⟨tail, htail, -⟩ :=
    dropTrailing_append (· == '.') (trimChars (normalize host).toList)
  have hdots := congrArg List.length htail
  rw [List.length_append] at hdots
  rw [normalize.eq_1 (normalize host), String.length_ofList, List.length_map, ← String.length_toList]
  omega

/-- One pass is enough exactly for hosts without a blank in front of their final dots. -/
theorem normalize_normalize_iff (host : String) :
    normalize (normalize host) = normalize host ↔ ¬BlankBeforeDots host := by
  refine ⟨fun heq h => ?_, normalize_normalize⟩
  have hlt := length_normalize_normalize_lt h
  rw [heq] at hlt
  exact Nat.lt_irrefl _ hlt

/-- **One pass settles a host that has no blank in front of its final dots.**  Every normal form
starts without a blank and ends without a dot.  It ends without a blank, and is its own normal
form, exactly if no blank stood in front of the final dots; and then a host and its normal form
have the same site, whatever the public suffixes are. -/
theorem normalize_settles (host : String) :
    (∀ c, (normalize host).toList.head? = some c → isBlank c = false) ∧
      (normalize host).toList.getLast? ≠ some '.' ∧
      ((∀ c, (normalize host).toList.getLast? = some c → isBlank c = false) ↔
        ¬BlankBeforeDots host) ∧
      (normalize (normalize host) = normalize host ↔ ¬BlankBeforeDots host) ∧
      (¬BlankBeforeDots host →
        (∀ rules, siteOf rules (normalize host) = siteOf rules host) ∧
          site (normalize host) = site host) := by
  refine ⟨fun c => head?_normalize, getLast?_normalize host, ?_, normalize_normalize_iff host,
    fun h => ⟨fun rules => ?_, ?_⟩⟩
  · rw [blankBeforeDots_iff]
    simp
  · exact siteOf_of_normalize_eq (normalize_normalize h)
  · exact siteOf_of_normalize_eq (normalize_normalize h)

/-- Blanks around the host, and within it, do not stand in front of its final dots. -/
theorem normalize_settles_padded :
    let host := " Shop. Example.COM.. "
    normalize host = "shop. example.com" ∧ ¬BlankBeforeDots host ∧
      normalize (normalize host) = normalize host ∧ site (normalize host) = site host := by
  intro host
  obtain ⟨-, -, hlast, hagain, hsite⟩ := normalize_settles host
  have hnormal : normalize host = "shop. example.com" := by decide +kernel
  have hend : (normalize host).toList.getLast? = some 'm' := by rw [hnormal]; rfl
  have hsettled : ¬BlankBeforeDots host := by
    refine hlast.1 fun c hc => ?_
    rw [← Option.some_inj.1 (hend.symm.trans hc)]
    rfl
  exact ⟨hnormal, hsettled, hagain.2 hsettled, (hsite hsettled).2⟩

end Passes

section Sites

variable {rules : SuffixRules} {host : String}

/-- A host of one label is its own site. -/
theorem siteOf_of_no_dot (h : '.' ∉ (normalize host).toList) :
    siteOf rules host = normalize host := by
  refine (siteOf_eq_or rules host).resolve_right fun hdomain => ?_
  obtain ⟨t, ht, -, hrest, -⟩ := of_registrable? hdomain
  have hlength := ht.length_le
  rw [labels, fields_of_not_mem h, List.length_singleton] at hlength
  rw [List.drop_of_length_le hlength] at hrest
  exact hrest rfl

/-- With a blank in front of the final dot, one pass leaves a blank, and the next one takes it
away: the host and its normal form are not of one site. -/
theorem normalize_leaves_blank :
    normalize "a ." = "a " ∧ isBlank ' ' = true ∧ normalize (normalize "a .") = "a" ∧
      site (normalize "a .") ≠ site "a ." := by
  have hfirst : site "a ." = "a " := siteOf_of_no_dot (by decide)
  have hsecond : site "a " = "a" := siteOf_of_no_dot (by decide)
  have hnormal : normalize "a ." = "a " := by decide
  refine ⟨hnormal, by decide, by decide, ?_⟩
  rw [hnormal, hfirst, hsecond]
  decide

end Sites

end Host
end RequestGuard
