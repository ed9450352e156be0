import RequestGuard.Proofs.Url.FrontPage

/-!
# The scheme of an address

An address has the scheme that its text starts with (`scheme_of_parse`), whatever stands
behind it.  A text that starts with visible characters starts with them also after its
margin and its line ends were taken away (`clean_append`).

Nothing of an address of the web depends on its scheme, except which port is the usual one:
`exists_port_of_parse` puts another scheme in its place.
-/

namespace RequestGuard
namespace Url

open Text

section Clean

/-- Visible characters at the start of a text stay there. -/
theorem clean_append {cs : List Char} (hne : cs ≠ []) (hvisible : ∀ c ∈ cs, 32 < c.toNat)
    (rest : List Char) :
    clean (cs ++ rest) = cs ++ (dropTrailing isMargin rest).filter (!isLineSpace ·) := by
  have hfront : (cs ++ rest).dropWhile isMargin = cs ++ rest := by
    obtain ⟨c, more, rfl⟩ := List.exists_cons_of_ne_nil hne
    have hc := not_isMargin_of_visible (hvisible c List.mem_cons_self)
    rw [List.cons_append, List.dropWhile_cons_of_neg (by rw [hc]; decide)]
  have hback := dropTrailing_append_of_forall
    (fun c hc => not_isMargin_of_visible (hvisible c hc)) rest
  have hlines : cs.filter (!isLineSpace ·) = cs := by
    refine List.filter_eq_self.2 fun c hc => ?_
    rw [not_isLineSpace_of_visible (hvisible c hc)]
    rfl
  rw [clean, hfront, hback, List.filter_append, hlines]

end Clean

section Scheme

/-- An address has the scheme that its text starts with. -/
theorem scheme_of_parse {text : String} {u : Url} (hread : parse text = .ok u) :
    ∃ cs rest, scheme? (clean text.toList) = some (cs, rest) ∧ u.scheme = String.ofList cs := by
  unfold parse at hread
  split at hread
  · cases hread
  · next cs rest hscheme =>
      refine ⟨cs, rest, hscheme, ?_⟩
      extract_lets scheme special ofAuthority at hread
      have hof : ∀ cs, ofAuthority cs = .ok u → u.scheme = scheme := by
        intro cs hu
        obtain ⟨a, -, hu⟩ := of_bind_eq_ok hu
        cases hu
        rfl
      split at hread
      · next hfile => exact (scheme_of_parseFile hread).trans hfile.symm
      · split at hread
        · exact hof _ hread
        · split at hread
          · exact hof _ hread
          · cases hread
            rfl

end Scheme

section Exchange

theorem ok_bind {ε α β : Type} (a : α) (f : α → Except ε β) : (Except.ok a >>= f) = f a := rfl

/-- The usual port decides only whether the port is left out. -/
theorem exists_port_of_portOf {usual : Option Nat} {cs rest : List Char} {port : Option Nat}
    (hread : portOf usual cs = .ok (port, rest)) (usual' : Option Nat) :
    ∃ port', portOf usual' cs = .ok (port', rest) := by
  unfold portOf at hread ⊢
  extract_lets at hread ⊢
  split at hread
  · cases hread
  · next hgood =>
      obtain ⟨-, rfl⟩ := Prod.mk.inj (Except.ok.inj hread)
      exact ⟨_, if_neg hgood⟩

theorem exists_port_of_hostAndPort {scheme : String} {cs tail rest : List Char}
    {host : Option Host} {port : Option Nat}
    (hread : hostAndPort scheme true cs tail = .ok (host, port, rest)) (scheme' : String) :
    ∃ port', hostAndPort scheme' true cs tail = .ok (host, port', rest) := by
  unfold hostAndPort at hread ⊢
  generalize cutHost false cs = cut at hread ⊢
  obtain ⟨hostChars, behind⟩ := cut
  simp only [Bool.true_and, if_true] at hread ⊢
  split at hread
  · cases hread
  · next hempty =>
      obtain ⟨h, hhost, hread⟩ := of_bind_eq_ok hread
      have hname := ne_name_empty_of_sound (sound_of_parse hhost)
      simp only [if_neg hname, Option.isNone_some, Bool.false_eq_true, if_false] at hread
      simp only [if_neg hempty, hhost, ok_bind, if_neg hname, Option.isNone_some,
        Bool.false_eq_true, if_false]
      split at hread
      · obtain ⟨⟨p, behind⟩, hport, hread⟩ := of_bind_eq_ok hread
        cases hread
        obtain ⟨port', hport'⟩ := exists_port_of_portOf hport (usualPort? scheme')
        exact ⟨port', by rw [hport', ok_bind]⟩
      · cases hread
        exact ⟨none, rfl⟩

theorem exists_port_of_authority {scheme scheme' : String} (hspecial : isSpecial scheme = true)
    (hspecial' : isSpecial scheme' = true) {cs : List Char} {a : Authority}
    (hread : authority scheme cs = .ok a) :
    ∃ port, authority scheme' cs = .ok { a with port := port } := by
  unfold authority at hread ⊢
  simp only [hspecial, hspecial'] at hread ⊢
  split at hread
  · obtain ⟨⟨host, port, rest⟩, hparts, hread⟩ := of_bind_eq_ok hread
    cases hread
    obtain ⟨port', hparts'⟩ := exists_port_of_hostAndPort hparts scheme'
    exact ⟨port', by rw [hparts', ok_bind]⟩
  · next info hostPart _ =>
      split at hread
      · cases hread
      · next hfull =>
          obtain ⟨⟨host, port, rest⟩, hparts, hread⟩ := of_bind_eq_ok hread
          obtain ⟨port', hparts'⟩ := exists_port_of_hostAndPort hparts scheme'
          refine ⟨port', ?_⟩
          rw [if_neg hfull, hparts', ok_bind]
          simp only at hread ⊢
          split at hread
          · cases hread
          · next hhost =>
              cases hread
              rw [if_neg hhost]

/-- A text that starts with a scheme and a colon has that scheme. -/
theorem scheme?_clean {scheme : String} {usual : Nat} (husual : usualPort? scheme = some usual)
    (rest : List Char) :
    scheme? (clean (scheme.toList ++ ':' :: rest)) =
      some (scheme.toList, (dropTrailing isMargin rest).filter (!isLineSpace ·)) := by
  have hvisible : ∀ c ∈ scheme.toList ++ [':'], 32 < c.toNat := by
    intro c hc
    rcases List.mem_append.1 hc with hc | hc
    · exact visible_of_usualPort? husual c hc
    · obtain rfl := List.mem_singleton.1 hc
      decide
  rw [List.append_cons, clean_append (by simp) hvisible, ← List.append_cons,
    scheme?_front husual]

/-- **Exchange of the scheme.**  A text that is an address, and starts with a scheme that has
a usual port, is an address also with another such scheme in its place.  All that changes is
the scheme, and whether the port is left out as the usual one. -/
theorem exists_port_of_parse {scheme scheme' : String} {usual usual' : Nat}
    (husual : usualPort? scheme = some usual) (husual' : usualPort? scheme' = some usual')
    {text text' : String} {rest : List Char}
    (htext : text.toList = scheme.toList ++ ':' :: rest)
    (htext' : text'.toList = scheme'.toList ++ ':' :: rest) {u : Url}
    (hread : parse text = .ok u) :
    ∃ port, parse text' = .ok { u with scheme := scheme', port := port } := by
  have hspecial : ∀ {s n}, usualPort? s = some n → isSpecial s = true ∧ s ≠ "file" := by
    intro s n hs
    refine ⟨by simp [isSpecial, hs], ?_⟩
    rintro rfl
    cases hs
  unfold parse at hread ⊢
  rw [htext, scheme?_clean husual] at hread
  rw [htext', scheme?_clean husual']
  simp only [String.ofList_toList, hspecial husual, hspecial husual', if_false, if_true]
    at hread ⊢
  obtain ⟨a, ha, hread⟩ := of_bind_eq_ok hread
  obtain ⟨port, ha'⟩ := exists_port_of_authority (hspecial husual).1 (hspecial husual').1 ha
  cases hread
  exact ⟨port, by rw [ha', ok_bind]⟩

end Exchange

end Url
end RequestGuard
