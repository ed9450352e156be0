import RequestGuard.Proofs.Name.Ideographs
import RequestGuard.Proofs.Url.HostText

/-!
# Which front pages there are

A front page is read from the written form of a host, so that there is one exactly if the host
can be read again.

* `parse_text_iff`: a host can be read again exactly if its labels are short, and numeric hosts
  always can.
* `IsFrontOf` is what a front page has of the page: scheme, host and port, and nothing else.
* `exists_originUrl?_iff`: which addresses have a front page.
* `exists_page_of_ideographs`: a host of ideographs is read, but there is no front page if its
  encoding is too long.
-/

namespace RequestGuard
namespace Url

open Text Name

section Hosts

/-- A host without encodings that are too long to be read. -/
def Host.IsShort (h : Host) : Prop :=
  ∀ label ∈ fields '.' h.text.toList, Name.IsShort label

variable {h : Host}

/-- Without its first letter there is no encoding. -/
theorem not_encodedMark_prefix_of_mem_fields {cs label : List Char} (hx : 'x' ∉ cs)
    (hlabel : label ∈ fields '.' cs) : ¬ encodedMark <+: label := by
  intro hmark
  have hmem : 'x' ∈ label := hmark.subset (by decide)
  exact hx (mem_of_mem_fields hlabel hmem)

theorem isShort_of_not_mem (hx : 'x' ∉ h.text.toList) : h.IsShort :=
  fun _ hlabel hmark => absurd hmark (not_encodedMark_prefix_of_mem_fields hx hlabel)

theorem not_mem_version4Text (n : Nat) : 'x' ∉ (version4Text n).toList := by
  intro hx
  rcases mem_version4Text hx with heq | hdigit
  · exact absurd heq (by decide)
  · exact absurd hdigit (by decide)

theorem isShort_version6 (gs : List Nat) : (Host.version6 gs).IsShort := by
  refine isShort_of_not_mem fun hx => ?_
  have htext : 'x' = '[' ∨ 'x' ∈ (version6Text gs).toList ∨ 'x' = ']' := by
    simpa [Host.text, or_assoc] using hx
  rcases htext with heq | hmem | heq
  · exact absurd heq (by decide)
  · have hchar := mem_version6Text hmem
    revert hchar
    decide
  · exact absurd heq (by decide)

/-- The usual form of a version 4 address is read as that address. -/
theorem parse_text_version4_eq {n : Nat} (hn : n < 4294967296) :
    Host.parse (Host.version4 n).text.toList = .ok (.version4 n) := by
  have hplain : ∀ c ∈ (version4Text n).toList, IsPlain c := fun c hc =>
    isPlain_of_mem_version4Text hc
  have hdirect : IsDirect (version4Text n).toList :=
    { ne_nil := @text_ne_nil_of_sound (.version4 n) hn
      basic := fun c hc => ⟨(hplain c hc).1, (hplain c hc).2.1⟩
      unmarked := by
        rw [map_lowerChar_of_plain hplain]
        exact fun _ => not_encodedMark_prefix_of_mem_fields (not_mem_version4Text n) }
  rw [Host.text, hdirect.parse_eq, map_lowerChar_of_plain hplain, endsInNumber_version4Text,
    if_pos rfl, version4Of?_version4Text hn]

/-- What the name of a host that was read is written for. -/
theorem exists_toAscii?_of_parse_name {cs : List Char} {s : String}
    (hread : Host.parse cs = .ok (.name s)) :
    ∃ decoded, Utf8.decode (Percent.decode cs) = .ok decoded ∧
      toAscii? decoded = some s.toList := by
  cases readFrom_of_parse hread with
  | name hdecoded hascii _ _ => exact ⟨_, hdecoded, by rw [String.toList_ofList, hascii]⟩

/-- A name is read again exactly if it is its own written form. -/
theorem parse_text_name_iff {s : String} (hsound : (Host.name s).Sound) :
    Host.parse s.toList = .ok (.name s) ↔ toAscii? s.toList = some s.toList := by
  obtain ⟨hne, hplain, hname⟩ := hsound
  constructor
  · intro hread
    obtain ⟨decoded, hdecoded, hascii⟩ := exists_toAscii?_of_parse_name hread
    have hpercent : '%' ∉ s.toList := fun hc => nomatch (hplain '%' hc).2.1
    rw [decode_of_not_mem hpercent, Utf8.decode_encode] at hdecoded
    obtain rfl := Except.ok.inj hdecoded
    exact hascii
  · intro hascii
    rw [parse_of_toAscii? (fun c hc => (hplain c hc).2.1) hascii hne, hname, if_neg nofun,
      String.ofList_toList]

/-- A host that was read can be read again exactly if its labels are short. -/
theorem parse_text_iff (hread : h.IsRead) :
    Host.parse h.text.toList = .ok h ↔ h.IsShort := by
  cases h with
  | version4 n =>
      exact iff_of_true (parse_text_version4_eq hread.sound)
        (isShort_of_not_mem (not_mem_version4Text n))
  | version6 gs => exact iff_of_true (parse_text_version6 hread.sound) (isShort_version6 gs)
  | name s =>
      obtain ⟨cs, hcs⟩ := hread
      obtain ⟨decoded, -, hdecoded⟩ := exists_toAscii?_of_parse_name hcs
      exact (parse_text_name_iff (sound_of_parse hcs)).trans (toAscii?_toAscii? hdecoded)

end Hosts

section FrontPages

/-- What the front page of a page is: scheme, host and port of the page, and nothing else. -/
structure IsFrontOf (page front : Url) : Prop where
  scheme : front.scheme = page.scheme
  host : front.host = page.host
  port : front.port = page.port
  path : front.path = .segments [""]
  query : front.query = none
  fragment : front.fragment = none
  username : front.username = ""
  password : front.password = ""
  /-- The front page of the front page is the same. -/
  again : front.originUrl? = some front

variable {page : Url} {usual : Nat}

/-- A front page is read from the written host of the page. -/
theorem IsRead.originUrl?_eq (hpage : page.IsRead) (husual : usualPort? page.scheme = some usual) :
    ∃ h, page.host = some h ∧ h.IsRead ∧
      page.originUrl? = ((Host.parse h.text.toList).map fun h' => (⟨page.scheme, "", "", some h',
        page.port, .segments [""], none, none⟩ : Url)).toOption := by
  obtain ⟨⟨h, hh, hread⟩, hport, -⟩ := hpage.settled husual
  refine ⟨h, hh, hread, ?_⟩
  have hwritten : (⟨page.scheme, h, page.port.getD usual⟩ : Origin).port? = page.port := by
    rw [Origin.port?, husual]
    cases hp : page.port with
    | none => exact if_pos rfl
    | some p => exact if_neg fun heq => (hport p hp).2 (heq.symm.trans husual.symm)
  have hparse := parse_front husual (hostChars_text hread.sound page.port) hport
    (show (String.ofList (front page.scheme h page.port)).toList = _ from String.toList_ofList)
  rw [originUrl?, origin?_of_host husual hh, Option.bind_some, toList_text_slash, hwritten]
  exact congrArg Except.toOption hparse

/-- A front page has the scheme, the host and the port of the page. -/
theorem IsRead.isFrontOf (hpage : page.IsRead) (husual : usualPort? page.scheme = some usual)
    {front : Url} (hfront : page.originUrl? = some front) : IsFrontOf page front := by
  obtain ⟨o, ho, ho', -⟩ := hpage.front_of_originUrl? hfront
  have hagain : front.originUrl? = some front := by
    rw [← hfront, originUrl?, originUrl?, ho, ho']
  obtain ⟨h, hh, hread, heq⟩ := hpage.originUrl?_eq husual
  rw [hfront] at heq
  cases hhost : Host.parse h.text.toList with
  | error fault =>
      rw [hhost] at heq
      cases heq
  | ok h' =>
      obtain rfl := eq_of_parse_text hread.sound hhost
      rw [hhost] at heq
      cases heq
      exact ⟨rfl, hh.symm, rfl, rfl, rfl, rfl, rfl, rfl, hagain⟩

/-- An address with a usual port has a front page exactly if its host can be read again. -/
theorem IsRead.exists_originUrl?_iff (hpage : page.IsRead)
    (husual : usualPort? page.scheme = some usual) :
    (∃ front, page.originUrl? = some front) ↔ ∃ h, page.host = some h ∧ h.IsShort := by
  obtain ⟨h, hh, hread, heq⟩ := hpage.originUrl?_eq husual
  rw [heq]
  constructor
  · rintro ⟨front, hfront⟩
    cases hhost : Host.parse h.text.toList with
    | error fault =>
        rw [hhost] at hfront
        cases hfront
    | ok h' =>
        obtain rfl := eq_of_parse_text hread.sound hhost
        exact ⟨h', hh, (parse_text_iff hread).1 hhost⟩
  · rintro ⟨h', hh', hshort⟩
    obtain rfl : h = h' := Option.some.inj (hh.symm.trans hh')
    rw [(parse_text_iff hread).2 hshort]
    exact ⟨_, rfl⟩

end FrontPages

section Ideographs

open RequestGuard.Normal

variable {label : List Char}

theorem contains_of_isIdeograph {c : Char} (hc : IsIdeograph c) {ds : List Char}
    (hds : ds.all (fun d => isOutside d.toNat) = true) : ds.contains c = false := by
  rw [List.contains_eq_mem, decide_eq_false_iff_not]
  exact fun hmem => hc.ne (List.all_eq_true.1 hds c hmem) rfl

theorem isForbidden_of_isIdeograph {c : Char} (hc : IsIdeograph c) : isForbidden c = false := by
  have hlow := hc.low
  rw [isForbidden, contains_of_isIdeograph hc (by decide), Bool.or_false, Bool.or_eq_false_iff]
  exact ⟨decide_eq_false (by omega), beq_eq_false_iff_ne.2 (by omega)⟩

theorem hostChars_of_ideographs (hne : label ≠ []) (h : ∀ c ∈ label, IsIdeograph c) :
    HostChars label none where
  ne_nil := hne
  not_delimiter c hc := by
    have hlow := (h c hc).low
    exact ⟨not_isLineSpace_of_visible (by omega), contains_of_isIdeograph (h c hc) (by decide)⟩
  cut := by
    rw [portChars, List.append_nil]
    exact cutHost_of_no_colon (fun hcolon => (h ':' hcolon).ne (by decide) rfl) false

/-- A single label that starts with a letter beyond the digits is no number. -/
theorem endsInNumber_encoded {code : List Char} (hdot : '.' ∉ encodedMark ++ code) :
    endsInNumber (encodedMark ++ code) = false := by
  rw [endsInNumber, fields_of_not_mem hdot]
  rfl

/-- The encoding of a label without dots has no dots. -/
theorem dot_not_mem_encoded (hne : label ≠ []) (h : ∀ c ∈ label, IsIdeograph c)
    (hlength : label.length ≤ encodeLimit) : '.' ∉ encodedMark ++ Punycode.encode label :=
  (Label.read_of_ofMapped? (Label.ofMapped?_of_ideographs hne h hlength)).dot_not_mem_written
    fun hdot => (h '.' hdot).ne (by decide) rfl

theorem parse_of_ideographs (hne : label ≠ []) (h : ∀ c ∈ label, IsIdeograph c)
    (hlength : label.length ≤ encodeLimit) :
    Host.parse label = .ok (.name (String.ofList (encodedMark ++ Punycode.encode label))) := by
  rw [parse_of_toAscii? (fun c hc => isForbidden_of_isIdeograph (h c hc))
      (toAscii?_of_ideographs hne h hlength) (List.cons_ne_nil _ _),
    endsInNumber_encoded (dot_not_mem_encoded hne h hlength)]
  rfl

/-- A host of ideographs has no front page if its encoding is too long to be read. -/
theorem exists_page_of_ideographs (hne : label ≠ []) (h : ∀ c ∈ label, IsIdeograph c)
    (hlength : label.length ≤ encodeLimit)
    (hlong : decodeLimit < (Punycode.encode label).length) :
    ∃ page, parse ("http://" ++ String.ofList label ++ "/") = .ok page ∧
      page.isWeb = true ∧ page.originUrl? = none := by
  have htext : ("http://" ++ String.ofList label ++ "/").toList =
      "http".toList ++ ':' :: '/' :: '/' :: (label ++ (portChars none ++ ['/'])) := by
    simp [portChars]
  have hport : ∀ p, (none : Option Nat) = some p → p ≤ 65535 ∧ some p ≠ usualPort? "http" := by
    intro p hp
    cases hp
  have hread := parse_front rfl (hostChars_of_ideographs hne h) hport htext
  rw [parse_of_ideographs hne h hlength] at hread
  refine ⟨_, hread, rfl, ?_⟩
  have hpage : IsRead _ := ⟨_, hread⟩
  refine Option.eq_none_iff_forall_ne_some.2 fun front hfront => ?_
  obtain ⟨host, hhost, hshort⟩ := (hpage.exists_originUrl?_iff rfl).1 ⟨front, hfront⟩
  obtain rfl := Option.some.inj hhost
  have hdot := dot_not_mem_encoded hne h hlength
  rw [Host.IsShort, Host.text, String.toList_ofList, fields_of_not_mem hdot] at hshort
  have hle := hshort _ List.mem_cons_self (List.prefix_append _ _)
  rw [List.length_append] at hle
  omega

end Ideographs

end Url
end RequestGuard
