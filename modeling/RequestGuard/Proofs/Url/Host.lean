import RequestGuard.Proofs.Name.Ascii
import RequestGuard.Proofs.Text.Utf8
import RequestGuard.Proofs.Url.Address

/-!
# Hosts that are read again

* `Host.ReadFrom` are the ways in which a host is read (`readFrom_of_parse`), and `Host.Sound` is
  what is known of a host that was read (`sound_of_parse`).
* `of_parse_name`: how a text without colons is read.
* `of_parse_plain`: a plain text is read as it is, or as the version 4 address that it must
  be.
* `parse_text_version4` and `parse_text_version6`: the written form of a numeric host is
  read as that host.
* `eq_of_parse_text`: a host that was read is read from its own written form as the same.
-/

namespace RequestGuard
namespace Url

open Text Name

section Bytes

theorem decode_of_not_mem {cs : List Char} (h : '%' ∉ cs) :
    Percent.decode cs = Utf8.encode cs := by
  induction cs with
  | nil => rw [Percent.decode]; rfl
  | cons c rest ih =>
      obtain ⟨hc, hrest⟩ : '%' ≠ c ∧ '%' ∉ rest := by simpa using h
      rw [Percent.decode.eq_def]
      simp only [if_neg hc.symm, ih hrest, Utf8.encode_cons]

end Bytes

section Sound

/-- How a host is read from a text: between brackets, or from the written form of what the text
stands for. -/
inductive Host.ReadFrom (cs : List Char) : Host → Prop
  | version6 {rest : List Char} {gs : List Nat} (htext : cs = '[' :: rest)
      (hgroups : RequestGuard.Host.version6? rest.dropLast = some gs) : ReadFrom cs (.version6 gs)
  | version4 {decoded ascii : List Char} {n : Nat}
      (hdecoded : Utf8.decode (Percent.decode cs) = .ok decoded)
      (hascii : toAscii? decoded = some ascii) (hnumber : endsInNumber ascii = true)
      (hn : version4Of? ascii = some n) : ReadFrom cs (.version4 n)
  | name {decoded ascii : List Char} (hdecoded : Utf8.decode (Percent.decode cs) = .ok decoded)
      (hascii : toAscii? decoded = some ascii) (hne : ascii ≠ [])
      (hname : endsInNumber ascii = false) : ReadFrom cs (.name (String.ofList ascii))

theorem readFrom_of_parse {cs : List Char} {h : Host} (hread : Host.parse cs = .ok h) :
    Host.ReadFrom cs h := by
  unfold Host.parse at hread
  split at hread
  · rw [bracketed] at hread
    split at hread
    · next hgroups =>
        cases hread
        exact .version6 rfl hgroups
    · cases hread
  · split at hread
    · cases hread
    · next decoded hdecoded =>
        split at hread
        · cases hread
        · next ascii hascii =>
            split at hread
            · cases hread
            · next hne =>
                split at hread
                · next hnumber =>
                    split at hread
                    · next n hn =>
                        cases hread
                        exact .version4 hdecoded hascii hnumber hn
                    · cases hread
                · next hname =>
                    cases hread
                    exact .name hdecoded hascii (by simpa using hne) (by simpa using hname)

/-- A host as it is read. -/
def Host.Sound : Host → Prop
  | .name s => s.toList ≠ [] ∧ (∀ c ∈ s.toList, IsPlain c) ∧ endsInNumber s.toList = false
  | .version4 n => n < 4294967296
  | .version6 gs => gs.length = 8 ∧ ∀ g ∈ gs, g < 65536

theorem sound_of_parse {cs : List Char} {h : Host} (hread : Host.parse cs = .ok h) :
    h.Sound := by
  cases readFrom_of_parse hread with
  | version6 _ hgroups => exact groups_of_version6? hgroups
  | version4 _ _ _ hn => exact lt_of_version4Of? hn
  | name _ hascii hne hname =>
      rw [Host.Sound, String.toList_ofList]
      exact ⟨hne, fun c hc => isPlain_of_mem_toAscii? hascii c hc, hname⟩

/-- A host that was read from a text. -/
def Host.IsRead (h : Host) : Prop :=
  ∃ cs, Host.parse cs = .ok h

theorem Host.IsRead.sound {h : Host} (hread : h.IsRead) : h.Sound := by
  obtain ⟨cs, hcs⟩ := hread
  exact sound_of_parse hcs

end Sound

section Again

/-- A text that holds nothing to decode is read as what it is written as. -/
theorem parse_of_toAscii? {cs ascii : List Char} (hcs : ∀ c ∈ cs, isForbidden c = false)
    (hascii : toAscii? cs = some ascii) (hne : ascii ≠ []) :
    Host.parse cs =
      if endsInNumber ascii then
        match version4Of? ascii with
        | some n => .ok (.version4 n)
        | none => .error .invalidVersion4
      else .ok (.name (String.ofList ascii)) := by
  have hpercent : '%' ∉ cs := fun hc => nomatch hcs '%' hc
  have hsome : ascii.isEmpty = false := by simpa using hne
  unfold Host.parse
  split
  · -- a bracket is kept out of host names
    exact nomatch hcs '[' List.mem_cons_self
  · simp only [decode_of_not_mem hpercent, Utf8.decode_encode, hascii, hsome]
    rfl

/-- A text without colons is decoded and written in Latin letters, and is then a version 4
address or a name. -/
theorem of_parse_name {cs : List Char} (hcolon : ':' ∉ cs) {h : Host}
    (hread : Host.parse cs = .ok h) :
    ∃ decoded ascii, Utf8.decode (Percent.decode cs) = .ok decoded ∧
      toAscii? decoded = some ascii ∧
      ((endsInNumber ascii = true ∧ ∃ n, version4Of? ascii = some n ∧ h = .version4 n) ∨
        (endsInNumber ascii = false ∧ h = .name (String.ofList ascii))) := by
  cases readFrom_of_parse hread with
  | version6 htext hgroups =>
      have hmem := List.dropLast_subset _ (colon_mem_of_version6? hgroups)
      rw [htext] at hcolon
      exact absurd (List.mem_cons_of_mem _ hmem) hcolon
  | version4 hdecoded hascii hnumber hn =>
      exact ⟨_, _, hdecoded, hascii, Or.inl ⟨hnumber, _, hn, rfl⟩⟩
  | name hdecoded hascii _ hname =>
      exact ⟨_, _, hdecoded, hascii, Or.inr ⟨hname, rfl⟩⟩

theorem of_parse_plain {cs : List Char} (hplain : ∀ c ∈ cs, IsPlain c) {h : Host}
    (hread : Host.parse cs = .ok h) :
    (endsInNumber cs = true ∧ ∃ n, version4Of? cs = some n ∧ h = .version4 n) ∨
      (endsInNumber cs = false ∧ h = .name (String.ofList cs)) := by
  have hpercent : '%' ∉ cs := fun hc => nomatch (hplain '%' hc).2.1
  have hcolon : ':' ∉ cs := fun hc => nomatch (hplain ':' hc).2.1
  obtain ⟨decoded, ascii, hdecoded, hascii, hkind⟩ := of_parse_name hcolon hread
  rw [decode_of_not_mem hpercent, Utf8.decode_encode] at hdecoded
  obtain rfl := Except.ok.inj hdecoded
  rw [toAscii?_of_basic (fun c hc => (hplain c hc).1) hascii, map_lowerChar_of_plain hplain]
    at hkind
  exact hkind

theorem mem_version4Text {n : Nat} {c : Char} (h : c ∈ (version4Text n).toList) :
    c = '.' ∨ isDigit c = true := by
  rw [toList_version4Text] at h
  rcases mem_join h with hdot | ⟨piece, hpiece, hc⟩
  · exact Or.inl hdot
  · obtain ⟨x, -, rfl⟩ := List.mem_map.1 hpiece
    exact Or.inr (isDigit_of_mem_toDigits hc)

theorem isPlain_of_isDigit {c : Char} (h : isDigit c = true) : IsPlain c := by
  have hrange := (isDigit_iff c).1 h
  have hall : ∀ n < 58, 48 ≤ n → isBasic (Char.ofNat n) = true ∧
      isForbidden (Char.ofNat n) = false ∧ lowerChar (Char.ofNat n) = Char.ofNat n := by
    decide
  have hc := hall c.toNat (Nat.lt_succ_of_le hrange.2) hrange.1
  rwa [Char.ofNat_toNat] at hc

theorem isPlain_of_mem_version4Text {n : Nat} {c : Char} (h : c ∈ (version4Text n).toList) :
    IsPlain c := by
  rcases mem_version4Text h with rfl | hdigit
  · exact ⟨by decide, by decide, by decide⟩
  · exact isPlain_of_isDigit hdigit

theorem parse_text_version4 {n : Nat} (hn : n < 4294967296) {h : Host}
    (hread : Host.parse (Host.version4 n).text.toList = .ok h) : h = .version4 n := by
  have hplain : ∀ c ∈ (version4Text n).toList, IsPlain c := fun c hc =>
    isPlain_of_mem_version4Text hc
  rcases of_parse_plain hplain hread with ⟨-, m, hm, rfl⟩ | ⟨hname, -⟩
  · rw [version4Of?_version4Text hn] at hm
    rw [Option.some.inj hm]
  · rw [endsInNumber_version4Text] at hname
    cases hname

theorem parse_text_version6 {gs : List Nat} (hgs : gs.length = 8 ∧ ∀ g ∈ gs, g < 65536) :
    Host.parse (Host.version6 gs).text.toList = .ok (.version6 gs) := by
  have htext : (Host.version6 gs).text.toList = '[' :: ((version6Text gs).toList ++ [']']) := by
    simp [Host.text]
  rw [htext, Host.parse, bracketed]
  simp [version6?_version6Text hgs.1 hgs.2]

/-- A host that was read is read from its own written form as the same. -/
theorem eq_of_parse_text {h h' : Host} (hsound : h.Sound)
    (hread : Host.parse h.text.toList = .ok h') : h' = h := by
  cases h with
  | version4 n => exact parse_text_version4 hsound hread
  | version6 gs =>
      rw [parse_text_version6 hsound] at hread
      cases hread
      rfl
  | name s =>
      obtain ⟨-, hplain, hname⟩ := hsound
      rcases of_parse_plain hplain hread with ⟨hnumber, -⟩ | ⟨-, rfl⟩
      · rw [hname] at hnumber
        cases hnumber
      · rw [String.ofList_toList]

end Again

end Url
end RequestGuard
