import RequestGuard.Host.Lemmas
import RequestGuard.Proofs.Name.Latin
import RequestGuard.Proofs.Url.FrontPage
import RequestGuard.Upgrade.Keys

/-!
# Host texts and the hosts read from them

The host of `http://h/` is not read from `h` as it stands: percent signs are decoded, other
letters are mapped, and numbers become version 4 addresses.  The normal form of `h` as a text
knows nothing of this.

* `insecureHost?_front`: the host of `http://h/` is the normal form of what `h` is read as.
* `normalize_eq_iff_kept`: both normal forms agree exactly for the texts that stay as they are
  (`KeptAsWritten`).
-/

namespace RequestGuard
namespace Url

open Text Name

section Normal

theorem isBlank_of_isPlain {c : Char} (h : IsPlain c) : isBlank c = false := by
  have hall : ∀ n < 128, isForbidden (Char.ofNat n) = false → isBlank (Char.ofNat n) = false := by
    decide +kernel
  exact of_isBasic (P := fun c => isForbidden c = false → isBlank c = false) hall h.1 h.2.1

/-- A text whose last piece is not empty has no final dots. -/
theorem dropTrailing_of_fields {cs : List Char} (h : (fields '.' cs).getLast? ≠ some []) :
    dropTrailing (· == '.') cs = cs := by
  refine dropTrailing_of_getLast? fun c hc => beq_eq_false_iff_ne.2 ?_
  rintro rfl
  obtain ⟨front, rfl⟩ := List.getLast?_eq_some_iff.1 hc
  rw [fields_concat] at h
  exact h List.getLast?_concat

/-- The usual form of a version 4 address is in normal form. -/
theorem normalize_version4Text (n : Nat) :
    RequestGuard.Host.normalize (version4Text n) = version4Text n := by
  have hplain : ∀ c ∈ (version4Text n).toList, IsPlain c := fun c hc =>
    isPlain_of_mem_version4Text hc
  rw [← String.toList_inj, Host.toList_normalize fun c hc => isBlank_of_isPlain (hplain c hc),
    dropTrailing_of_fields (getLast?_fields_version4Text n), map_lowerChar_of_plain hplain]

end Normal

section Reading

/-- A text that is read as it stands: nothing in it has to be decoded or mapped, no character is
kept out of host names, and no label starts like an encoded one. -/
structure IsDirect (cs : List Char) : Prop where
  ne_nil : cs ≠ []
  basic : ∀ c ∈ cs, isBasic c = true ∧ isForbidden c = false
  unmarked : ∀ label ∈ fields '.' (cs.map lowerChar), ¬ encodedMark <+: label

instance (cs : List Char) : Decidable (IsDirect cs) :=
  decidable_of_iff (cs ≠ [] ∧ (∀ c ∈ cs, isBasic c = true ∧ isForbidden c = false) ∧
      ∀ label ∈ fields '.' (cs.map lowerChar), ¬ encodedMark <+: label)
    ⟨fun ⟨hne, hbasic, hmark⟩ => ⟨hne, hbasic, hmark⟩, fun h => ⟨h.ne_nil, h.basic, h.unmarked⟩⟩

/-- Such a text is a version 4 address or a name in small letters. -/
theorem IsDirect.parse_eq {cs : List Char} (h : IsDirect cs) :
    Host.parse cs =
      if endsInNumber (cs.map lowerChar) then
        match version4Of? (cs.map lowerChar) with
        | some n => .ok (.version4 n)
        | none => .error .invalidVersion4
      else .ok (.name (String.ofList (cs.map lowerChar))) := by
  have hascii := toAscii?_eq_map_lowerChar h.basic h.unmarked
  exact parse_of_toAscii? (fun c hc => (h.basic c hc).2) hascii (by simpa using h.ne_nil)

end Reading

section Pages

variable {h host : String}

/-- The characters of a host text: none is blank, a colon or a delimiter. -/
def IsHostText (h : String) : Prop :=
  ∀ c ∈ h.toList, isBlank c = false ∧ isDelimiter c = false ∧ c ≠ ':'

theorem IsHostText.colon_not_mem (hh : IsHostText h) : ':' ∉ h.toList :=
  fun hc => (hh ':' hc).2.2 rfl

theorem IsHostText.not_blank (hh : IsHostText h) : ∀ c ∈ h.toList, isBlank c = false :=
  fun c hc => (hh c hc).1

theorem cutHost_of_no_colon {cs : List Char} (hcolon : ':' ∉ cs) (inside : Bool) :
    cutHost inside cs = (cs, []) := by
  induction cs generalizing inside with
  | nil => rfl
  | cons c more ih =>
      obtain ⟨hc, hmore⟩ : ':' ≠ c ∧ ':' ∉ more := by simpa using hcolon
      rw [cutHost, if_neg (fun e => hc e.1.symm)]
      simp only [ih hmore]

theorem IsHostText.hostChars (hh : IsHostText h) (hne : h.toList ≠ []) :
    HostChars h.toList none where
  ne_nil := hne
  not_delimiter c hc := by
    obtain ⟨hblank, hdelimiter, -⟩ := hh c hc
    refine ⟨?_, hdelimiter⟩
    have hlines : ∀ d : Char, isBlank d = true → c ≠ d := by
      rintro d hd rfl
      rw [hblank] at hd
      cases hd
    simp [isLineSpace, hlines '\t' (by decide), hlines '\n' (by decide), hlines '\r' (by decide)]
  cut := by
    rw [portChars, List.append_nil]
    exact cutHost_of_no_colon hh.colon_not_mem false

/-- The rules that are asked for `http://h/` are those of the host that `h` is read as, in normal
form. -/
theorem insecureHost?_front (hh : IsHostText h) :
    Upgrade.insecureHost? ("http://" ++ h ++ "/") = some host ↔
      ∃ read, Host.parse h.toList = .ok read ∧
        RequestGuard.Host.normalize read.text = host := by
  by_cases hne : h.toList = []
  · obtain rfl : h = "" := String.toList_inj.1 hne
    have hnone : Upgrade.insecureHost? ("http://" ++ "" ++ "/") = none := by decide +kernel
    rw [hnone]
    refine ⟨nofun, fun ⟨read, hread, _⟩ => ?_⟩
    have hplain : ∀ c ∈ ([] : List Char), IsPlain c := List.forall_mem_nil _
    rcases of_parse_plain hplain hread with ⟨hnumber, -⟩ | ⟨-, rfl⟩
    · cases hnumber
    · exact absurd String.toList_ofList (sound_of_parse hread).1
  · have hparse : Url.parse ("http://" ++ h ++ "/") = (Host.parse h.toList).map fun read =>
        ⟨"http", "", "", some read, none, .segments [""], none, none⟩ :=
      parse_front rfl (hh.hostChars hne) nofun (by simp [portChars])
    rw [Upgrade.insecureHost?, hparse]
    cases hread : Host.parse h.toList with
    | error fault => simp [Except.map]
    | ok read =>
      have hname : read ≠ .name "" := ne_name_empty_of_sound (sound_of_parse hread)
      have hkept : (some read).filter (fun h => h != .name "") = some read := by simp [hname]
      simp [Except.map, hostText?, hkept]

theorem IsDirect.isHostText (hdirect : IsDirect h.toList) : IsHostText h := by
  have hall : ∀ n < 128, isForbidden (Char.ofNat n) = false →
      isBlank (Char.ofNat n) = false ∧ isDelimiter (Char.ofNat n) = false ∧
        Char.ofNat n ≠ ':' := by
    decide +kernel
  intro c hc
  obtain ⟨hbasic, hforbidden⟩ := hdirect.basic c hc
  exact of_isBasic (P := fun c => isForbidden c = false →
    isBlank c = false ∧ isDelimiter c = false ∧ c ≠ ':') hall hbasic hforbidden

/-- A name that is read as it stands is its own host, in normal form. -/
theorem insecureHost?_of_direct (hdirect : IsDirect h.toList)
    (hname : endsInNumber (h.toList.map lowerChar) = false) :
    Upgrade.insecureHost? ("http://" ++ h ++ "/") = some (RequestGuard.Host.normalize h) := by
  have hh := hdirect.isHostText
  refine (insecureHost?_front hh).2 ⟨.name (String.ofList (h.toList.map lowerChar)), ?_, ?_⟩
  · rw [hdirect.parse_eq, hname]
    rfl
  · rw [Host.text, Host.normalize_map_lowerChar hh.not_blank]

end Pages

section Agreement

variable {h host : String}

/-- A host text that stays as it is, final dots and capital letters apart: there is nothing to
decode or to map in it, and if it is read as a version 4 address it is in the usual form of
one. -/
structure KeptAsWritten (h : String) : Prop where
  basic : ∀ c ∈ h.toList, isBasic c = true ∧ c ≠ '%'
  number : endsInNumber (h.toList.map lowerChar) = true →
    (RequestGuard.Host.version4? (RequestGuard.Host.normalize h).toList).isSome = true

/-- A text in Latin letters without percent signs is read in small letters. -/
theorem read_of_basic (hh : IsHostText h) (hbasic : ∀ c ∈ h.toList, isBasic c = true ∧ c ≠ '%')
    {read : Host} (hread : Host.parse h.toList = .ok read) :
    (endsInNumber (h.toList.map lowerChar) = true ∧
        ∃ n, version4Of? (h.toList.map lowerChar) = some n ∧ read = .version4 n) ∨
      (endsInNumber (h.toList.map lowerChar) = false ∧
        read = .name (String.ofList (h.toList.map lowerChar))) := by
  obtain ⟨decoded, ascii, hdecoded, hascii, hkind⟩ :=
    of_parse_name hh.colon_not_mem hread
  rw [decode_of_not_mem fun hc => (hbasic '%' hc).2 rfl, Utf8.decode_encode] at hdecoded
  obtain rfl := Except.ok.inj hdecoded
  rw [toAscii?_of_basic (fun c hc => (hbasic c hc).1) hascii] at hkind
  exact hkind

/-- What is read from a text without colons is plain. -/
theorem isPlain_of_mem_text (hh : IsHostText h) {read : Host}
    (hread : Host.parse h.toList = .ok read) : ∀ c ∈ read.text.toList, IsPlain c := by
  obtain ⟨decoded, ascii, -, hascii, hkind⟩ := of_parse_name hh.colon_not_mem hread
  rcases hkind with ⟨-, n, -, rfl⟩ | ⟨-, rfl⟩
  · exact fun c hc => isPlain_of_mem_version4Text hc
  · intro c hc
    rw [Host.text, String.toList_ofList] at hc
    exact isPlain_of_mem_toAscii? hascii c hc

/-- The text in small letters is its normal form and final dots. -/
theorem exists_dots (hblank : ∀ c ∈ h.toList, isBlank c = false) :
    ∃ dots, h.toList.map lowerChar = (RequestGuard.Host.normalize h).toList ++ dots ∧
      ∀ c ∈ dots, c = '.' := by
  obtain ⟨dots, hsplit, hdots⟩ := dropTrailing_append (· == '.') (h.toList.map lowerChar)
  refine ⟨dots, ?_, fun c hc => beq_iff_eq.1 (hdots c hc)⟩
  rw [Host.toList_normalize hblank, ← dropTrailing_map_lowerChar, hsplit]

/-- A number in small letters whose normal form is the usual form of an address is read as that
address: there is one final dot at most. -/
theorem version4Of?_of_normalize {n : Nat} (hn : n < 4294967296)
    (hblank : ∀ c ∈ h.toList, isBlank c = false)
    (hnumber : endsInNumber (h.toList.map lowerChar) = true)
    (husual : RequestGuard.Host.normalize h = version4Text n) :
    version4Of? (h.toList.map lowerChar) = some n := by
  obtain ⟨dots, hsplit, hdots⟩ := exists_dots hblank
  rw [husual] at hsplit
  rw [hsplit] at hnumber ⊢
  obtain hlength | hlength | ⟨more, hlength⟩ :
      dots.length = 0 ∨ dots.length = 1 ∨ ∃ more, dots.length = more + 2 := by
    rcases dots.length with _ | _ | more
    · exact Or.inl rfl
    · exact Or.inr (Or.inl rfl)
    · exact Or.inr (Or.inr ⟨more, rfl⟩)
  · rw [List.length_eq_zero_iff.1 hlength, List.append_nil, version4Of?_version4Text hn]
  · have hone : dots = ['.'] := by rw [List.eq_replicate_of_mem hdots, hlength]; rfl
    rw [hone, version4Of?_concat_dot (getLast?_fields_version4Text n), version4Of?_version4Text hn]
  · have hall : dots = List.replicate more '.' ++ ['.', '.'] := by
      rw [List.eq_replicate_of_mem hdots, hlength, ← List.replicate_append_replicate]
      rfl
    rw [hall, ← List.append_assoc, endsInNumber_two_dots] at hnumber
    cases hnumber

/-- A character is below 128 if its small letter is. -/
theorem isBasic_of_lowerChar {c : Char} (hc : isBasic (lowerChar c) = true) :
    isBasic c = true := by
  have hlower := toNat_lowerChar c
  simp only [isBasic, decide_eq_true_eq] at hc ⊢
  split at hlower <;> omega

/-- A text whose normal form is plain is below 128 and has no percent signs: what is left out of
the normal form are dots. -/
theorem basic_of_plain_normalize (hblank : ∀ c ∈ h.toList, isBlank c = false)
    (hplain : ∀ c ∈ (RequestGuard.Host.normalize h).toList, IsPlain c) :
    ∀ c ∈ h.toList, isBasic c = true ∧ c ≠ '%' := by
  intro c hc
  obtain ⟨dots, hsplit, hdots⟩ := exists_dots hblank
  have hlower : lowerChar c ∈ h.toList.map lowerChar := List.mem_map_of_mem hc
  rw [hsplit, List.mem_append] at hlower
  rcases hlower with hlower | hlower
  · refine ⟨isBasic_of_lowerChar (hplain _ hlower).1, ?_⟩
    rintro rfl
    exact ne_of_isPlain (d := '%') (hplain _ hlower) (by decide) (by decide)
  · have hdot := (lowerChar_eq_iff_of_lt (by decide)).1 (hdots _ hlower)
    rw [hdot]
    decide

/-- The normal form of a plain text is plain. -/
theorem isPlain_of_mem_normalize (hplain : ∀ c ∈ h.toList, IsPlain c) :
    ∀ c ∈ (RequestGuard.Host.normalize h).toList, IsPlain c := by
  rw [Host.toList_normalize fun c hc => isBlank_of_isPlain (hplain c hc)]
  intro c hc
  obtain ⟨d, hd, rfl⟩ := List.mem_map.1 hc
  obtain ⟨tail, hsplit, -⟩ := dropTrailing_append (· == '.') h.toList
  have hd' := hplain d (hsplit ▸ List.mem_append_left tail hd)
  rwa [hd'.2.2]

/-- The normal form of a host text is the host of its address exactly if the text is kept as it
is written. -/
theorem normalize_eq_iff_kept (hh : IsHostText h)
    (hhost : Upgrade.insecureHost? ("http://" ++ h ++ "/") = some host) :
    RequestGuard.Host.normalize h = host ↔ KeptAsWritten h := by
  obtain ⟨read, hread, rfl⟩ := (insecureHost?_front hh).1 hhost
  constructor
  · intro heq
    have hplain := isPlain_of_mem_normalize (isPlain_of_mem_text hh hread)
    rw [← heq] at hplain
    have hbasic := basic_of_plain_normalize hh.not_blank hplain
    refine ⟨hbasic, fun hnumber => ?_⟩
    rcases read_of_basic hh hbasic hread with ⟨-, n, -, rfl⟩ | ⟨hname, -⟩
    · rw [heq, Host.text, normalize_version4Text, version4?_version4Text]
      rfl
    · rw [hname] at hnumber
      cases hnumber
  · intro hkept
    rcases read_of_basic hh hkept.basic hread with ⟨hnumber, n, hn, rfl⟩ | ⟨-, rfl⟩
    · -- the text is written as the address of a number, and that is the number that was read
      obtain ⟨ns, hns⟩ := Option.isSome_iff_exists.1 (hkept.number hnumber)
      obtain ⟨m, hm, husual⟩ := exists_of_version4? hns
      have husual := String.toList_inj.1 husual
      rw [version4Of?_of_normalize hm hh.not_blank hnumber husual] at hn
      rw [Host.text, normalize_version4Text, husual, Option.some.inj hn]
    · rw [Host.text, Host.normalize_map_lowerChar hh.not_blank]

end Agreement

end Url
end RequestGuard
