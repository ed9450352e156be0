import RequestGuard.Proofs.Url.Host
import RequestGuard.Url.Origin

/-!
# Front pages

The front page of an origin is read from its scheme, its host and its port.

* `of_parse_front`: what can be read from such a text has no credentials, no query and no
  fragment, the path `/`, and the host that is read from the written host.
* `Settled` is what is known of an address that was read and that has a usual port;
  `Origin.Settled` is what is known of an origin, also of that of a wrapped address.
* `IsRead.eq_of_originUrl?_originUrl?`: the front page of a front page is the same.
-/

namespace RequestGuard
namespace Url

open Text Name

section HostText

theorem visible_of_isPlain {c : Char} (h : IsPlain c) : 32 < c.toNat := by
  have hforbidden := h.2.1
  simp only [isForbidden, Bool.or_eq_false_iff, decide_eq_false_iff_not] at hforbidden
  omega

theorem ne_of_isPlain {c d : Char} (h : IsPlain c) (hd : isForbidden d = true) : c ≠ d := by
  rintro rfl
  rw [h.2.1] at hd
  cases hd

theorem mem_version6Text {gs : List Nat} {c : Char} (h : c ∈ (version6Text gs).toList) :
    c = ':' ∨ (48 ≤ c.toNat ∧ c.toNat ≤ 57) ∨ (97 ≤ c.toNat ∧ c.toNat ≤ 102) := by
  have hgroups : ∀ xs : List Nat, c ∈ (":".intercalate (xs.map groupText)).toList →
      c = ':' ∨ (48 ≤ c.toNat ∧ c.toNat ≤ 57) ∨ (97 ≤ c.toNat ∧ c.toNat ≤ 102) := by
    intro xs hc
    rw [toList_groups] at hc
    rcases mem_join hc with hcolon | ⟨piece, hpiece, hc⟩
    · exact Or.inl hcolon
    · obtain ⟨x, -, rfl⟩ := List.mem_map.1 hpiece
      exact Or.inr (toNat_of_mem_toDigits hc)
  rw [version6Text] at h
  generalize longestZeroRun 0 gs = run at h
  by_cases hshort : run.2 < 2
  · simp only [if_pos hshort] at h
    exact hgroups gs h
  · simp only [if_neg hshort, String.toList_append, List.mem_append] at h
    rcases h with (h | h) | h
    · exact hgroups _ h
    · have hcolons : ∀ d ∈ "::".toList, d = ':' := by simp
      exact Or.inl (hcolons c h)
    · exact hgroups _ h

/-- What ends a host, or may not stand in front of it. -/
def isDelimiter (c : Char) : Bool :=
  ['/', '\\', '?', '#', '@'].contains c

theorem not_delimiter_of_isPlain {c : Char} (h : IsPlain c) :
    32 < c.toNat ∧ isDelimiter c = false := by
  refine ⟨visible_of_isPlain h, ?_⟩
  rw [isDelimiter, List.contains_eq_mem, decide_eq_false_iff_not]
  intro hmem
  have hall : ['/', '\\', '?', '#', '@'].all isForbidden = true := by decide
  exact ne_of_isPlain h (List.all_eq_true.1 hall c hmem) rfl

/-- Nothing in a written host is blank or ends it. -/
theorem not_delimiter_of_mem_text {h : Host} (hsound : h.Sound) {c : Char}
    (hc : c ∈ h.text.toList) : 32 < c.toNat ∧ isDelimiter c = false := by
  cases h with
  | name s => exact not_delimiter_of_isPlain (hsound.2.1 c hc)
  | version4 n => exact not_delimiter_of_isPlain (isPlain_of_mem_version4Text hc)
  | version6 gs =>
      have hall : ∀ n < 103, n = 58 ∨ n = 91 ∨ n = 93 ∨ (48 ≤ n ∧ n ≤ 57) ∨ 97 ≤ n →
          isDelimiter (Char.ofNat n) = false := by decide
      have hchar : c = '[' ∨ c ∈ (version6Text gs).toList ∨ c = ']' := by
        simpa [Host.text, or_assoc] using hc
      have hrange : 32 < c.toNat ∧ c.toNat < 103 ∧ (c.toNat = 58 ∨ c.toNat = 91 ∨ c.toNat = 93 ∨
          (48 ≤ c.toNat ∧ c.toNat ≤ 57) ∨ 97 ≤ c.toNat) := by
        rcases hchar with rfl | hc | rfl
        · decide
        · rcases mem_version6Text hc with rfl | hdigit | hletter
          · decide
          · omega
          · omega
        · decide
      refine ⟨hrange.1, ?_⟩
      have hc' := hall c.toNat hrange.2.1 hrange.2.2
      rwa [Char.ofNat_toNat] at hc'

/-- A host goes on over characters that are neither colons nor brackets. -/
theorem cutHost_append {cs : List Char} (h : ∀ c ∈ cs, c ≠ ':' ∧ c ≠ '[' ∧ c ≠ ']')
    (tail : List Char) :
    cutHost false (cs ++ tail) = (cs ++ (cutHost false tail).1, (cutHost false tail).2) := by
  induction cs with
  | nil => rfl
  | cons c more ih =>
      obtain ⟨hcolon, hopen, hclose⟩ := h c List.mem_cons_self
      rw [List.cons_append, cutHost, if_neg (fun e => hcolon e.1)]
      simp only [if_neg hopen, if_neg hclose, ih fun d hd => h d (List.mem_cons_of_mem _ hd),
        List.cons_append]

/-- Between brackets it goes on over colons, too. -/
theorem cutHost_inside {cs : List Char} (h : ∀ c ∈ cs, c ≠ '[' ∧ c ≠ ']') (tail : List Char) :
    cutHost true (cs ++ ']' :: tail) =
      (cs ++ ']' :: (cutHost false tail).1, (cutHost false tail).2) := by
  induction cs with
  | nil =>
      rw [List.nil_append, cutHost, if_neg (by decide)]
      rfl
  | cons c more ih =>
      obtain ⟨hopen, hclose⟩ := h c List.mem_cons_self
      rw [List.cons_append, cutHost, if_neg (by simp)]
      simp only [if_neg hopen, if_neg hclose, ih fun d hd => h d (List.mem_cons_of_mem _ hd),
        List.cons_append]

/-- A written host ends where a port begins. -/
theorem cutHost_text {h : Host} (hsound : h.Sound) {behind : List Char}
    (hbehind : cutHost false behind = ([], behind)) :
    cutHost false (h.text.toList ++ behind) = (h.text.toList, behind) := by
  have hplain : (∀ c ∈ h.text.toList, IsPlain c) →
      cutHost false (h.text.toList ++ behind) = (h.text.toList, behind) := by
    intro hplain
    rw [cutHost_append, hbehind, List.append_nil]
    exact fun c hc => ⟨ne_of_isPlain (hplain c hc) (by decide),
      ne_of_isPlain (hplain c hc) (by decide), ne_of_isPlain (hplain c hc) (by decide)⟩
  cases h with
  | name s => exact hplain hsound.2.1
  | version4 n => exact hplain fun c hc => isPlain_of_mem_version4Text hc
  | version6 gs =>
      have htext : (Host.version6 gs).text.toList ++ behind =
          '[' :: ((version6Text gs).toList ++ ']' :: behind) := by
        simp [Host.text]
      have hinside : ∀ c ∈ (version6Text gs).toList, c ≠ '[' ∧ c ≠ ']' := by
        intro c hc
        constructor
        · rintro rfl
          have := mem_version6Text hc
          revert this
          decide
        · rintro rfl
          have := mem_version6Text hc
          revert this
          decide
      -- the colons of a version 6 address stand between its brackets
      rw [htext, cutHost, if_neg (by decide)]
      simp only [if_true, cutHost_inside hinside, hbehind]
      simp [Host.text]

theorem text_ne_nil_of_sound {h : Host} (hsound : h.Sound) : h.text.toList ≠ [] := by
  cases h with
  | name s => exact hsound.1
  | version4 n =>
      intro hempty
      have hnumber := endsInNumber_version4Text n
      have htext : (version4Text n).toList = [] := hempty
      rw [htext] at hnumber
      cases hnumber
  | version6 gs => simp [Host.text]

theorem not_isMargin_of_visible {c : Char} (h : 32 < c.toNat) : isMargin c = false :=
  decide_eq_false (Nat.not_le_of_lt h)

theorem not_isLineSpace_of_visible {c : Char} (h : 32 < c.toNat) : isLineSpace c = false := by
  have hne : ∀ d : Char, d.toNat ≤ 32 → c ≠ d := by
    rintro d hd rfl
    omega
  simp [isLineSpace, hne '\t' (by decide), hne '\n' (by decide), hne '\r' (by decide)]

end HostText

section Front

/-- A port behind its colon. -/
def portChars : Option Nat → List Char
  | none => []
  | some p => ':' :: Nat.toDigits 10 p

/-- Characters that are read as one host in front of a port. -/
structure HostChars (cs : List Char) (port : Option Nat) : Prop where
  ne_nil : cs ≠ []
  not_delimiter : ∀ c ∈ cs, isLineSpace c = false ∧ isDelimiter c = false
  cut : cutHost false (cs ++ portChars port) = (cs, portChars port)

/-- The text of a front page. -/
def front (scheme : String) (h : Host) (port : Option Nat) : List Char :=
  scheme.toList ++ ':' :: '/' :: '/' :: (h.text.toList ++ (portChars port ++ ['/']))

variable {scheme : String} {h : Host} {port : Option Nat} {cs : List Char}

theorem not_delimiter_of_mem_portChars {c : Char} (hc : c ∈ portChars port) :
    32 < c.toNat ∧ isDelimiter c = false := by
  cases port with
  | none => cases hc
  | some p =>
      rcases List.mem_cons.1 hc with rfl | hc
      · decide
      · exact not_delimiter_of_isPlain (isPlain_of_isDigit (isDigit_of_mem_toDigits hc))

theorem cutHost_portChars (port : Option Nat) :
    cutHost false (portChars port) = ([], portChars port) := by
  cases port with
  | none => rfl
  | some p => rw [portChars, cutHost, if_pos (by decide)]

theorem hostChars_text (hsound : h.Sound) (port : Option Nat) : HostChars h.text.toList port where
  ne_nil := text_ne_nil_of_sound hsound
  not_delimiter _ hc :=
    (not_delimiter_of_mem_text hsound hc).imp_left not_isLineSpace_of_visible
  cut := cutHost_text hsound (cutHost_portChars port)

/-- A text without line ends that does not start or end with a margin stays as it is. -/
theorem clean_eq_self {cs : List Char} (hhead : ∀ c, cs.head? = some c → isMargin c = false)
    (hlast : ∀ c, cs.getLast? = some c → isMargin c = false)
    (hlines : ∀ c ∈ cs, isLineSpace c = false) : clean cs = cs := by
  have hfront : cs.dropWhile isMargin = cs := by
    cases cs with
    | nil => rfl
    | cons c more => rw [List.dropWhile_cons_of_neg (by simp [hhead c rfl])]
  rw [clean, hfront, dropTrailing_of_getLast? hlast, List.filter_eq_self]
  intro c hc
  rw [hlines c hc]
  rfl

theorem portOf_portChars {p : Nat} (hp : p ≤ 65535) {usual : Option Nat} (hne : some p ≠ usual) :
    portOf usual (Nat.toDigits 10 p ++ ['/']) = .ok (some p, ['/']) := by
  have hdigits : ∀ c ∈ Nat.toDigits 10 p, isDigit c = true := fun c hc =>
    isDigit_of_mem_toDigits hc
  have htake : (Nat.toDigits 10 p ++ ['/']).takeWhile isDigit = Nat.toDigits 10 p := by
    rw [List.takeWhile_append_of_pos hdigits]
    simp [isDigit]
  have hdrop : (Nat.toDigits 10 p ++ ['/']).dropWhile isDigit = ['/'] := by
    rw [List.dropWhile_append_of_pos hdigits]
    rfl
  rw [portOf, htake, hdrop]
  simp [decimal_toDigits, endsAuthority, Nat.toDigits_ne_nil, hne]
  omega

theorem ne_name_empty_of_sound (hsound : h.Sound) : h ≠ .name "" := by
  rintro rfl
  exact hsound.1 rfl

theorem hostAndPort_front (hcs : HostChars cs port)
    (hport : ∀ p, port = some p → p ≤ 65535 ∧ some p ≠ usualPort? scheme) :
    hostAndPort scheme true (cs ++ portChars port) ['/'] =
      (Host.parse cs).map fun h => (some h, port, ['/']) := by
  have hne := hcs.ne_nil
  rw [hostAndPort, hcs.cut]
  cases hread : Host.parse cs with
  | error fault => simp [hne, hread, bind, Except.bind, Except.map]
  | ok h =>
      have hname := ne_name_empty_of_sound (sound_of_parse hread)
      cases port with
      | none =>
        simp [hne, hread, hname, portChars, bind, Except.bind, Except.map]
      | some p =>
          obtain ⟨hp, husual⟩ := hport p rfl
          simp [hne, hread, hname, portChars, portOf_portChars hp husual, bind, Except.bind,
            Except.map]

theorem not_endsAuthority_of_not_delimiter {c : Char} (hc : isDelimiter c = false) :
    endsAuthority true c = false := by
  simp only [isDelimiter, List.contains_eq_mem, decide_eq_false_iff_not, List.mem_cons,
    List.not_mem_nil, or_false, not_or] at hc
  obtain ⟨hslash, hback, hquestion, hnumber, -⟩ := hc
  simp [endsAuthority, hslash, hback, hquestion, hnumber]

theorem authority_front (hspecial : isSpecial scheme = true) (hcs : HostChars cs port)
    (hport : ∀ p, port = some p → p ≤ 65535 ∧ some p ≠ usualPort? scheme) :
    authority scheme (cs ++ (portChars port ++ ['/'])) =
      (Host.parse cs).map fun h => ⟨[], [], some h, port, ['/']⟩ := by
  have hbody : ∀ c ∈ cs ++ portChars port, isDelimiter c = false := by
    intro c hc
    rcases List.mem_append.1 hc with hc | hc
    · exact (hcs.not_delimiter c hc).2
    · exact (not_delimiter_of_mem_portChars hc).2
  have hgoes : ∀ c ∈ cs ++ portChars port, (!endsAuthority true c) = true := by
    intro c hc
    rw [not_endsAuthority_of_not_delimiter (hbody c hc)]
    rfl
  have htake : (cs ++ (portChars port ++ ['/'])).takeWhile (!endsAuthority true ·) =
      cs ++ portChars port := by
    rw [← List.append_assoc, List.takeWhile_append_of_pos hgoes]
    exact List.append_nil _
  have hdrop : (cs ++ (portChars port ++ ['/'])).dropWhile (!endsAuthority true ·) = ['/'] := by
    rw [← List.append_assoc, List.dropWhile_append_of_pos hgoes]
    rfl
  have hcut : cutLastAt? (cs ++ portChars port) = none := by
    rw [cutLastAt?, if_neg]
    rw [List.contains_eq_mem, decide_eq_true_eq]
    intro hat
    exact nomatch hbody '@' hat
  rw [authority, hspecial]
  simp only [htake, hdrop, hcut, hostAndPort_front hcs hport]
  cases Host.parse cs <;> rfl

theorem mem_specialPorts {usual : Nat} (husual : usualPort? scheme = some usual) :
    scheme ∈ ["http", "https", "ws", "wss", "ftp"] := by
  obtain ⟨before, after, hsplit, -⟩ := List.lookup_eq_some_iff.1 husual
  have hmem : (scheme, usual) ∈ specialPorts := by
    rw [hsplit]
    simp
  exact List.mem_map_of_mem (f := Prod.fst) hmem

/-- The characters of a scheme with a usual port are visible. -/
theorem visible_of_usualPort? {usual : Nat} (husual : usualPort? scheme = some usual) :
    ∀ c ∈ scheme.toList, 32 < c.toNat := by
  have hall : (["http", "https", "ws", "wss", "ftp"].all fun s =>
      s.toList.all fun c => 32 < c.toNat) = true := by decide
  intro c hc
  exact of_decide_eq_true
    (List.all_eq_true.1 (List.all_eq_true.1 hall scheme (mem_specialPorts husual)) c hc)

theorem scheme?_front {usual : Nat} (husual : usualPort? scheme = some usual)
    (rest : List Char) : scheme? (scheme.toList ++ ':' :: rest) = some (scheme.toList, rest) := by
  have hscheme := mem_specialPorts husual
  simp only [List.mem_cons, List.not_mem_nil, or_false] at hscheme
  rcases hscheme with rfl | rfl | rfl | rfl | rfl <;> rfl

/-- A front page is read with the host that is read from its host text. -/
theorem parse_front {usual : Nat} (husual : usualPort? scheme = some usual)
    (hcs : HostChars cs port)
    (hport : ∀ p, port = some p → p ≤ 65535 ∧ some p ≠ usualPort? scheme) {text : String}
    (htext : text.toList =
      scheme.toList ++ ':' :: '/' :: '/' :: (cs ++ (portChars port ++ ['/']))) :
    parse text =
      (Host.parse cs).map fun h =>
        ⟨scheme, "", "", some h, port, .segments [""], none, none⟩ := by
  have hscheme := visible_of_usualPort? husual
  have hlines : ∀ c ∈ text.toList, isLineSpace c = false := by
    intro c hc
    rw [htext] at hc
    simp only [List.mem_cons, List.mem_append, List.not_mem_nil, or_false] at hc
    rcases hc with hc | rfl | rfl | rfl | hc | hc | rfl
    · exact not_isLineSpace_of_visible (hscheme c hc)
    · rfl
    · rfl
    · rfl
    · exact (hcs.not_delimiter c hc).1
    · exact not_isLineSpace_of_visible (not_delimiter_of_mem_portChars hc).1
    · rfl
  have hclean : clean text.toList = text.toList := by
    refine clean_eq_self (fun c hc => ?_) (fun c hc => ?_) hlines
    · rw [htext] at hc
      cases hchars : scheme.toList with
      | nil =>
          rw [hchars] at hc
          cases hc
          rfl
      | cons d more =>
          rw [hchars] at hc
          obtain rfl := Option.some.inj hc
          exact not_isMargin_of_visible (hscheme d (hchars ▸ List.mem_cons_self))
    · have hslash : text.toList =
          (scheme.toList ++ ':' :: '/' :: '/' :: (cs ++ portChars port)) ++ ['/'] := by
        simp [htext]
      rw [hslash, List.getLast?_concat] at hc
      cases hc
      rfl
  have hspecial : isSpecial scheme = true := by simp [isSpecial, husual]
  have hfile : scheme ≠ "file" := by
    rintro rfl
    cases husual
  have hslashes : ('/' :: '/' :: (cs ++ (portChars port ++ ['/']))).dropWhile
      (fun c => c == '/' || c == '\\') = cs ++ (portChars port ++ ['/']) := by
    obtain ⟨c, more, rfl⟩ := List.exists_cons_of_ne_nil hcs.ne_nil
    have hc := (hcs.not_delimiter c List.mem_cons_self).2
    simp only [isDelimiter, List.contains_eq_mem, decide_eq_false_iff_not, List.mem_cons,
      List.not_mem_nil, or_false, not_or] at hc
    simp [hc.1, hc.2.1]
  unfold parse
  rw [hclean, htext, scheme?_front husual]
  simp only [String.ofList_toList, if_neg hfile, hspecial, if_true, hslashes,
    authority_front hspecial hcs hport]
  cases Host.parse cs <;> rfl

theorem of_parse_front {usual : Nat} (husual : usualPort? scheme = some usual) (hsound : h.Sound)
    (hport : ∀ p, port = some p → p ≤ 65535 ∧ some p ≠ usualPort? scheme) {u : Url}
    (hread : parse (String.ofList (front scheme h port)) = .ok u) :
    ∃ h', Host.parse h.text.toList = .ok h' ∧
      u = ⟨scheme, "", "", some h', port, .segments [""], none, none⟩ := by
  rw [parse_front husual (hostChars_text hsound port) hport
    (show (String.ofList (front scheme h port)).toList = _ from String.toList_ofList)] at hread
  cases hhost : Host.parse h.text.toList with
  | error fault =>
      rw [hhost] at hread
      cases hread
  | ok h' =>
      rw [hhost] at hread
      cases hread
      exact ⟨h', rfl, rfl⟩

end Front

section Usual

theorem of_bind_eq_ok {ε α β : Type} {x : Except ε α} {f : α → Except ε β} {b : β}
    (h : (x >>= f) = .ok b) : ∃ a, x = .ok a ∧ f a = .ok b := by
  cases x with
  | error e => cases h
  | ok a => exact ⟨a, rfl, h⟩

theorem of_portOf {usual : Option Nat} {cs rest : List Char} {port : Option Nat}
    (hread : portOf usual cs = .ok (port, rest)) :
    ∀ p, port = some p → p ≤ 65535 ∧ some p ≠ usual := by
  intro p hp
  unfold portOf at hread
  extract_lets ds behind stops at hread
  split at hread
  · cases hread
  · next given hlarge =>
      have hle : decimal ds ≤ 65535 := by
        simp only [Bool.or_eq_true, not_or, decide_eq_true_eq] at hlarge
        omega
      obtain ⟨hport, -⟩ := Prod.mk.inj (Except.ok.inj hread)
      rw [← hport] at hp
      split at hp
      · cases hp
      · next hne =>
          rw [hp] at hne
          simp only [given] at hp
          split at hp
          · cases hp
          · cases hp
            exact ⟨hle, hne⟩

theorem of_hostAndPort {scheme : String} {cs tail rest : List Char} {host : Option Host}
    {port : Option Nat} (hread : hostAndPort scheme true cs tail = .ok (host, port, rest)) :
    (∃ h, host = some h ∧ h.IsRead) ∧
      ∀ p, port = some p → p ≤ 65535 ∧ some p ≠ usualPort? scheme := by
  unfold hostAndPort at hread
  generalize cutHost false cs = cut at hread
  obtain ⟨hostChars, behind⟩ := cut
  simp only [Bool.true_and, if_true] at hread
  split at hread
  · cases hread
  · obtain ⟨h, hhost, hread⟩ := of_bind_eq_ok hread
    have hname := ne_name_empty_of_sound (sound_of_parse hhost)
    simp only [if_neg hname, Option.isNone_some, Bool.false_eq_true,
      if_false] at hread
    split at hread
    · obtain ⟨⟨p, behind⟩, hport, hread⟩ := of_bind_eq_ok hread
      cases hread
      exact ⟨⟨h, rfl, _, hhost⟩, of_portOf hport⟩
    · cases hread
      exact ⟨⟨h, rfl, _, hhost⟩, nofun⟩

theorem of_authority {scheme : String} (hspecial : isSpecial scheme = true) {cs : List Char}
    {a : Authority} (hread : authority scheme cs = .ok a) :
    (∃ h, a.host = some h ∧ h.IsRead) ∧
      ∀ p, a.port = some p → p ≤ 65535 ∧ some p ≠ usualPort? scheme := by
  unfold authority at hread
  rw [hspecial] at hread
  extract_lets special body tail at hread
  split at hread
  · obtain ⟨⟨host, port, rest⟩, hparts, hread⟩ := of_bind_eq_ok hread
    cases hread
    exact of_hostAndPort hparts
  · next info hostPart _ =>
      extract_lets go at hread
      by_cases hempty : (info.isEmpty && hostPart.isEmpty && !tail.isEmpty) = true
      · rw [if_pos hempty] at hread
        cases hread
      · rw [if_neg hempty] at hread
        obtain ⟨⟨host, port, rest⟩, hparts, hread⟩ := of_bind_eq_ok hread
        have hknown := of_hostAndPort hparts
        simp only at hread
        split at hread
        · cases hread
        · cases hread
          exact hknown

/-- An address that was read from a text. -/
def IsRead (u : Url) : Prop :=
  ∃ text, parse text = .ok u

/-- What is known of an address that was read and has a usual port. -/
structure Settled (u : Url) : Prop where
  host : ∃ h, u.host = some h ∧ h.IsRead
  port : ∀ p, u.port = some p → p ≤ 65535 ∧ some p ≠ usualPort? u.scheme
  path : ['/'] <+: u.path.text.toList

/-- Every path that starts behind a slash has a segment. -/
theorem resolve_ne_nil (isFile : Bool) (done rest : List (List Char))
    (h : done ≠ [] ∨ rest ≠ []) : resolve isFile done rest ≠ [] := by
  -- behind dots, the last segment leaves an empty one
  have hend : ∀ (rest done : List (List Char)),
      (if rest.isEmpty then [[]] else []) ++ done ≠ [] ∨ rest ≠ [] := by
    intro rest done
    cases rest with
    | nil => exact Or.inl (by simp)
    | cons s more => exact Or.inr (by simp)
  fun_induction resolve isFile done rest with
  | case1 done => simpa using h
  | case2 done segment rest ending hdots shorter ih => exact ih (hend rest shorter)
  | case3 done segment rest ending hdots hdot ih => exact ih (hend rest done)
  | case4 done segment rest hdots hdot hdrive ih => exact ih (Or.inl (by simp))
  | case5 done segment rest hdots hdot hdrive ih => exact ih (Or.inl (by simp))

theorem slash_prefix_pathOf (cs : List Char) : ['/'] <+: (pathOf true cs).text.toList := by
  have hsegments : ∀ list : List String, list ≠ [] →
      ['/'] <+: (Path.segments list).text.toList := by
    intro list hne
    cases list with
    | nil => exact absurd rfl hne
    | cons s more =>
        refine ⟨s.toList ++ (String.join (more.map ("/" ++ ·))).toList, ?_⟩
        rw [Path.text, List.map_cons, String.join_cons, String.toList_append,
          String.toList_append]
        rfl
  have hsome : ∀ cs, segmentsOf true false cs ≠ [] := by
    intro cs
    rw [segmentsOf]
    simp [resolve_ne_nil, fields_ne_nil]
  simp only [pathOf]
  split
  · exact hsegments [""] (by simp)
  · split
    · exact hsegments _ (hsome _)
    · exact hsegments _ (hsome _)

theorem scheme_of_parseFile {cs : List Char} {u : Url} (hread : parseFile cs = .ok u) :
    u.scheme = "file" := by
  unfold parseFile at hread
  extract_lets isSlash make at hread
  split at hread
  · split at hread
    · extract_lets hostChars behind at hread
      split at hread
      · cases hread
        rfl
      · obtain ⟨host, -, hread⟩ := of_bind_eq_ok hread
        cases hread
        rfl
    · cases hread
      rfl
  · cases hread
    rfl

theorem IsRead.settled {u : Url} (hu : u.IsRead) {usual : Nat}
    (husual : usualPort? u.scheme = some usual) : u.Settled := by
  obtain ⟨text, hread⟩ := hu
  unfold parse at hread
  split at hread
  · cases hread
  · extract_lets scheme special ofAuthority at hread
    split at hread
    · rw [scheme_of_parseFile hread] at husual
      cases husual
    · split at hread
      · next hspecial =>
          obtain ⟨a, ha, hread⟩ := of_bind_eq_ok hread
          obtain ⟨⟨h, hhost, hsound⟩, hport⟩ := of_authority hspecial ha
          cases hread
          rw [hspecial, hhost]
          exact ⟨⟨h, rfl, hsound⟩, hport, slash_prefix_pathOf a.rest⟩
      · next hspecial =>
          -- an address of no special scheme has no usual port
          have hscheme : u.scheme = scheme := by
            split at hread
            · obtain ⟨a, ha, hread⟩ := of_bind_eq_ok hread
              cases hread
              rfl
            · cases hread
              rfl
          refine absurd ?_ hspecial
          show isSpecial scheme = true
          rw [isSpecial, ← hscheme, husual]
          simp

end Usual

section Origins

/-- Where an origin comes from. -/
structure Origin.Settled (o : Origin) : Prop where
  usual : ∃ usual, usualPort? o.scheme = some usual
  host : o.host.Sound
  port : o.port ≤ 65535

theorem IsRead.settled_of_tupleOrigin? {u : Url} (hu : u.IsRead) {o : Origin}
    (ho : u.tupleOrigin? = some o) : o.Settled := by
  simp only [tupleOrigin?, bind, Option.bind_eq_some_iff] at ho
  obtain ⟨usual, husual, h, hh, ho⟩ := ho
  cases ho
  obtain ⟨⟨h', hh', hread⟩, hport, -⟩ := hu.settled husual
  obtain rfl : h = h' := Option.some.inj (hh.symm.trans hh')
  refine ⟨⟨usual, husual⟩, hread.sound, ?_⟩
  cases hp : u.port with
  | some p => exact (hport p hp).1
  | none =>
      have hall : ∀ e ∈ specialPorts, e.2 ≤ 65535 := by decide
      obtain ⟨before, after, hsplit, -⟩ := List.lookup_eq_some_iff.1 husual
      exact hall (u.scheme, usual) (by rw [hsplit]; simp)

/-- The origin of an address is that of an address that was read, also where it is
wrapped. -/
theorem IsRead.settled_of_originWithin? {depth : Nat} {u : Url} (hu : u.IsRead) {o : Origin}
    (ho : originWithin? depth u = some o) : o.Settled := by
  induction depth generalizing u with
  | zero => cases ho
  | succ depth ih =>
      -- what an address wraps was read from its path
      rw [originWithin?] at ho
      split at ho
      · split at ho
        · next inner hinner => exact ih ⟨_, hinner⟩ ho
        · cases ho
      · exact hu.settled_of_tupleOrigin? ho

/-- The port of an origin as its text writes it. -/
def Origin.port? (o : Origin) : Option Nat :=
  if usualPort? o.scheme = some o.port then none else some o.port

theorem toList_text_slash (o : Origin) :
    o.text ++ "/" = String.ofList (front o.scheme o.host o.port?) := by
  rw [← String.toList_inj, String.toList_ofList, front, Origin.text, Origin.port?]
  split <;> simp [portChars, toString]

theorem of_parse_origin {o : Origin} (ho : o.Settled) {p : Url}
    (hread : parse (o.text ++ "/") = .ok p) :
    ∃ h, Host.parse o.host.text.toList = .ok h ∧
      p = ⟨o.scheme, "", "", some h, o.port?, .segments [""], none, none⟩ := by
  obtain ⟨usual, husual⟩ := ho.usual
  rw [toList_text_slash] at hread
  refine of_parse_front husual ho.host ?_ hread
  intro q hq
  rw [Origin.port?] at hq
  split at hq
  · cases hq
  · next hne =>
      cases hq
      exact ⟨ho.port, fun h => hne h.symm⟩

/-- What is known of a front page. -/
theorem IsRead.of_originUrl? {u p : Url} (hu : u.IsRead) (hp : u.originUrl? = some p) :
    ∃ o : Origin, u.origin? = some o ∧ o.Settled ∧ p.IsRead ∧
      ∃ h, Host.parse o.host.text.toList = .ok h ∧
        p = ⟨o.scheme, "", "", some h, o.port?, .segments [""], none, none⟩ := by
  obtain ⟨o, ho, hparse⟩ := Option.bind_eq_some_iff.1 hp
  have hsettled := hu.settled_of_originWithin? ho
  cases hfront : parse (o.text ++ "/") with
  | error fault =>
      rw [hfront] at hparse
      cases hparse
  | ok p' =>
      rw [hfront] at hparse
      cases hparse
      exact ⟨o, ho, hsettled, ⟨_, hfront⟩, of_parse_origin hsettled hfront⟩

/-- An address of a scheme with a usual port has an origin of its own. -/
theorem origin?_of_host {u : Url} {usual : Nat} (husual : usualPort? u.scheme = some usual)
    {h : Host} (hh : u.host = some h) :
    u.origin? = some ⟨u.scheme, h, u.port.getD usual⟩ := by
  have hblob : u.scheme ≠ "blob" := by
    intro hscheme
    rw [hscheme] at husual
    cases husual
  rw [origin?, originWithin?, if_neg hblob, tupleOrigin?, husual, hh]
  rfl

theorem origin?_front {o : Origin} (ho : o.Settled) (h : Host) :
    (⟨o.scheme, "", "", some h, o.port?, .segments [""], none, none⟩ : Url).origin? =
      some ⟨o.scheme, h, o.port⟩ := by
  obtain ⟨usual, husual⟩ := ho.usual
  have hport : o.port?.getD usual = o.port := by
    rw [Origin.port?, husual]
    split
    · next h => exact Option.some.inj h
    · rfl
  rw [origin?_of_host husual rfl, hport]

/-- A front page has the origin that it is the front page of. -/
theorem IsRead.front_of_originUrl? {u p : Url} (hu : u.IsRead) (hp : u.originUrl? = some p) :
    ∃ o : Origin, u.origin? = some o ∧ p.origin? = some o ∧ p.scheme = o.scheme := by
  obtain ⟨o, ho, hsettled, -, h, hhost, rfl⟩ := hu.of_originUrl? hp
  obtain rfl := eq_of_parse_text hsettled.host hhost
  exact ⟨o, ho, origin?_front hsettled o.host, rfl⟩

/-- The front page of a front page is the same. -/
theorem IsRead.eq_of_originUrl?_originUrl? {u p q : Url} (hu : u.IsRead)
    (hp : u.originUrl? = some p) (hq : p.originUrl? = some q) : q = p := by
  obtain ⟨o, ho, ho', -⟩ := hu.front_of_originUrl? hp
  have hsame : u.originUrl? = p.originUrl? := by rw [originUrl?, originUrl?, ho, ho']
  exact Option.some.inj (hq.symm.trans (hsame.symm.trans hp))

end Origins

end Url
end RequestGuard
