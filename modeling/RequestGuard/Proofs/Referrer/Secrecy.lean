import RequestGuard.Proofs.Url.FrontPage
import RequestGuard.Referrer.Override

/-!
# What an overridden referrer shows

Whether a referrer is replaced, and what is written then, tells little of the addresses.

* `View` is what decides whether the referrer is replaced.  Two situations that look alike
  are decided alike (`overrides_congr`): the masks of the exemptions take any path.
* `shown_front`: of a front page a policy shows nothing or the front page, since the front
  page of a front page is the same.
* `Confines` says what may be written.  `confines_sanitize`: nothing or the front page of
  the new referrer, and nothing at all to a request that gives up encryption, unless the
  policy asks for that.
-/

namespace RequestGuard
namespace Referrer

section Exempt

/-- The masks of all exemptions. -/
def masks : List String :=
  exemptions.flatMap Prod.snd

/-- A mask for any path of encrypted addresses. -/
def takesAnyPath (mask : String) : Bool :=
  match Text.cutAt? [':', '/', '/'] mask.toList with
  | none => false
  | some (scheme, rest) => scheme == "https".toList && (cutPath rest).2 == ['/', '*']

theorem takesAnyPath_of_mem_masks {mask : String} (h : mask ∈ masks) :
    takesAnyPath mask = true := by
  have hall : ∀ mask ∈ masks, takesAnyPath mask = true := by decide
  exact hall mask h

theorem mem_masks_of_mem_masksOf {u : Url} {mask : String} (h : mask ∈ masksOf u) :
    mask ∈ masks := by
  rw [masksOf] at h
  split at h
  · cases h
  · obtain ⟨e, he, hmask⟩ := List.mem_flatMap.1 h
    exact List.mem_flatMap.2 ⟨e, (List.mem_filter.1 he).1, hmask⟩

/-- A mask for any path looks at the scheme and the host only. -/
theorem maskFits_of_takesAnyPath {mask : String} (hmask : takesAnyPath mask = true) :
    ∃ host, ∀ u : Url, u.IsRead →
      maskFits mask u = (u.scheme == "https" && hostFits host (u.hostText?.getD "")) := by
  rw [takesAnyPath] at hmask
  split at hmask
  · cases hmask
  · next scheme rest hcut =>
      rw [Bool.and_eq_true, beq_iff_eq, beq_iff_eq] at hmask
      refine ⟨(cutPath rest).1, fun u hu => ?_⟩
      simp only [maskFits, hcut, hmask]
      by_cases hscheme : u.scheme = "https"
      · -- the path of an address that was read starts with a slash, as the mask asks
        have husual : Url.usualPort? u.scheme = some 443 := by rw [hscheme]; rfl
        have hpath : pathFits ['/', '*'] u.path.text = true :=
          List.isPrefixOf_iff_prefix.2 (hu.settled husual).path
        rw [hpath, Bool.and_true, hscheme]
        rfl
      · have hfits : schemeFits "https".toList u.scheme = false := by
          rw [schemeFits, Bool.or_eq_false_iff]
          refine ⟨by decide, beq_eq_false_iff_ne.2 fun h => hscheme ?_⟩
          exact (String.toList_inj.1 h).symm
        rw [hfits, beq_eq_false_iff_ne.2 hscheme, Bool.false_and, Bool.false_and]

/-- Exemptions look at the front page of the tab and at the scheme and the host of the
request. -/
theorem isExempt_congr {tab tab' target target' : Url} (htarget : target.IsRead)
    (htarget' : target'.IsRead) (hfront : tab.originUrl? = tab'.originUrl?)
    (hscheme : target.scheme = target'.scheme)
    (hhost : target.hostText? = target'.hostText?) :
    isExempt tab target = isExempt tab' target' := by
  have hmasks : masksOf tab = masksOf tab' := by rw [masksOf, masksOf, hfront]
  rw [isExempt, isExempt, hmasks, Bool.eq_iff_iff, List.any_eq_true, List.any_eq_true]
  refine exists_congr fun mask => and_congr_right fun hmask => ?_
  obtain ⟨host, hfits⟩ :=
    maskFits_of_takesAnyPath (takesAnyPath_of_mem_masks (mem_masks_of_mem_masksOf hmask))
  rw [hfits target htarget, hfits target' htarget', hscheme, hhost]

end Exempt

section View

/-- What of a situation decides whether the referrer is replaced. -/
structure View where
  /-- Does the user allow overriding at all? -/
  allowReferrers : Bool
  /-- Is protection on for the page? -/
  shieldsUp : Bool
  /-- Is there a referrer? -/
  hasReferrer : Bool
  /-- The front page of the tab. -/
  tabFront : Option Url
  /-- The host of the tab. -/
  tabHost : Option String
  /-- The scheme of the request. -/
  targetScheme : String
  /-- The host of the request. -/
  targetHost : Option String

/-- What decides whether the referrer is replaced. -/
def Situation.view (s : Situation) : View where
  allowReferrers := s.allowReferrers
  shieldsUp := s.shieldsUp
  hasReferrer := s.current.isSome
  tabFront := s.tab.originUrl?
  tabHost := s.tab.hostText?
  targetScheme := s.target.scheme
  targetHost := s.target.hostText?

/-- The requested address and the new referrer were read from texts. -/
structure Situation.IsRead (s : Situation) : Prop where
  target : s.target.IsRead
  replacement : s.replacement.IsRead

theorem overrides_congr {s s' : Situation} (hs : s.IsRead) (hs' : s'.IsRead)
    (hview : s.view = s'.view) : s.overrides = s'.overrides := by
  obtain ⟨hallow, hshields, hreferrer, hfront, htab, hscheme, hhost⟩ := View.mk.inj hview
  have hstays : s.staysOnSite = s'.staysOnSite := by
    rw [Situation.staysOnSite, Situation.staysOnSite, htab, hhost]
  have hexempt : isExempt s.tab s.target = isExempt s'.tab s'.target :=
    isExempt_congr hs.target hs'.target hfront hscheme hhost
  rw [Situation.overrides, Situation.overrides, hallow, hshields, hreferrer, hstays, hexempt]

end View

section Shown

/-- The policies that show nothing to a request that gives up encryption. -/
def guarded : List Policy :=
  [.default, .noReferrerWhenDowngrade, .noReferrerWhenDowngradeOriginWhenCrossOrigin,
    .strictOrigin, .sameOrigin, .never]

/-- A front page has no credentials and no fragment to leave out. -/
theorem bare_of_originUrl? {u front : Url} (hu : u.IsRead) (hfront : u.originUrl? = some front) :
    front.bare = front := by
  obtain ⟨o, -, -, -, h, -, rfl⟩ := hu.of_originUrl? hfront
  rfl

/-- Of a front page a policy shows nothing or the front page. -/
theorem shown_front {u front : Url} (hu : u.IsRead) (hfront : u.originUrl? = some front)
    (policy : Policy) (request : Url) :
    policy.shown request front = none ∨ policy.shown request front = some front := by
  have hagain : front.originUrl? = none ∨ front.originUrl? = some front := by
    cases h : front.originUrl? with
    | none => exact Or.inl rfl
    | some again => exact Or.inr (congrArg some (hu.eq_of_originUrl?_originUrl? hfront h))
  cases policy with
  | always => exact Or.inr rfl
  | never => exact Or.inl rfl
  | origin => exact hagain
  | default | noReferrerWhenDowngrade | sameOrigin =>
      simp only [Policy.shown]
      split
      · exact Or.inl rfl
      · exact Or.inr rfl
  | originWhenCrossOrigin =>
      simp only [Policy.shown]
      split
      · exact hagain
      · exact Or.inr rfl
  | noReferrerWhenDowngradeOriginWhenCrossOrigin =>
      simp only [Policy.shown]
      split
      · exact Or.inl rfl
      · split
        · exact hagain
        · exact Or.inr rfl
  | strictOrigin =>
      simp only [Policy.shown]
      split
      · exact Or.inl rfl
      · exact hagain

theorem scheme_of_origin? {u : Url} (hblob : u.scheme ≠ "blob") {o : Url.Origin}
    (ho : u.origin? = some o) : o.scheme = u.scheme := by
  rw [Url.origin?, Url.originWithin?, if_neg hblob] at ho
  simp only [Url.tupleOrigin?, bind, Option.bind_eq_some_iff] at ho
  obtain ⟨usual, -, h, -, ho⟩ := ho
  cases ho
  rfl

theorem not_blob_of_isWeb {u : Url} (hweb : u.isWeb = true) : u.scheme ≠ "blob" := by
  intro hscheme
  rw [Url.isWeb, hscheme] at hweb
  exact absurd hweb (by decide)

theorem exists_usualPort?_of_isWeb {page : Url} (hweb : page.isWeb = true) :
    ∃ usual, Url.usualPort? page.scheme = some usual := by
  rw [Url.isWeb, Bool.or_eq_true, beq_iff_eq, beq_iff_eq] at hweb
  rcases hweb with h | h <;> rw [h]
  · exact ⟨80, rfl⟩
  · exact ⟨443, rfl⟩

/-- Every page of the web belongs to a site. -/
theorem origin?_of_isWeb {page : Url} (hpage : page.IsRead) (hweb : page.isWeb = true) :
    ∃ o, page.origin? = some o ∧ o.scheme = page.scheme := by
  obtain ⟨usual, husual⟩ := exists_usualPort?_of_isWeb hweb
  obtain ⟨⟨h, hh, -⟩, -, -⟩ := hpage.settled husual
  exact ⟨_, Url.origin?_of_host husual hh, rfl⟩

/-- A request that gives up the encryption of a page has another origin. -/
theorem isCrossOrigin_of_isDowngrade {page request : Url} (hpage : page.IsRead)
    (hweb : request.isWeb = true) (hdown : isDowngrade page request = true) :
    isCrossOrigin page request = true := by
  rw [isDowngrade, Bool.and_eq_true, beq_iff_eq, bne_iff_ne] at hdown
  have hpageWeb : page.isWeb = true := by simp [Url.isWeb, hdown.1]
  obtain ⟨o, ho, hscheme⟩ := origin?_of_isWeb hpage hpageWeb
  rw [isCrossOrigin, bne_iff_ne, ho]
  intro hsame
  -- only a wrapped address has an origin of another scheme than its own
  have hrequest := scheme_of_origin? (not_blob_of_isWeb hweb) hsame.symm
  exact hdown.2 (hrequest.symm.trans (hscheme.trans hdown.1))

theorem shown_of_isDowngrade {u front request : Url} (hu : u.IsRead)
    (hfront : u.originUrl? = some front) (hweb : request.isWeb = true)
    (hdown : isDowngrade front request = true) {policy : Policy} (hpolicy : policy ∈ guarded) :
    policy.shown request front = none := by
  simp only [guarded, List.mem_cons, List.not_mem_nil, or_false] at hpolicy
  obtain ⟨-, -, -, hread, -⟩ := hu.of_originUrl? hfront
  rcases hpolicy with rfl | rfl | rfl | rfl | rfl | rfl
  · exact if_pos hdown
  · exact if_pos hdown
  · exact if_pos hdown
  · exact if_pos hdown
  · exact if_pos (isCrossOrigin_of_isDowngrade hread hweb hdown)
  · rfl

end Shown

section Override

/-- What may be written in place of the referrer of a situation. -/
structure Situation.Confines (s : Situation) (written : Referrer) : Prop where
  /-- The policy is the one that was asked for. -/
  policy : written.policy = s.policy
  /-- The address is nothing or the front page of the new referrer. -/
  url : written.url = none ∨ written.url = s.replacement.originUrl?
  /-- A request that does not go to the web carries nothing. -/
  target : s.target.isWeb = false → written.url = none
  /-- An origin that is not of the web is not shown. -/
  origin : ∀ front, s.replacement.originUrl? = some front → front.isWeb = false →
    written.url = none
  /-- An encrypted origin is not shown where the request gives up encryption. -/
  downgrade : ∀ front, s.replacement.originUrl? = some front → front.scheme = "https" →
    s.target.scheme ≠ "https" → s.policy ∈ guarded → written.url = none

theorem confines_sanitize {s : Situation} (hs : s.IsRead) :
    s.Confines (sanitize s.target ⟨s.replacement.originUrl?, s.policy⟩) := by
  cases hfront : s.replacement.originUrl? with
  | none =>
      exact ⟨rfl, Or.inl rfl, fun _ => rfl, fun _ _ _ => rfl, fun _ _ _ _ _ => rfl⟩
  | some front =>
      simp only [sanitize, bare_of_originUrl? hs.replacement hfront]
      by_cases hweb : (s.target.isWeb && front.isWeb) = true
      · rw [if_pos hweb]
        rw [Bool.and_eq_true] at hweb
        refine ⟨rfl, ?_, ?_, ?_, ?_⟩
        · rw [hfront]
          exact shown_front hs.replacement hfront s.policy s.target
        · intro htarget
          rw [htarget] at hweb
          cases hweb.1
        · intro other hother horigin
          obtain rfl := Option.some.inj (hfront.symm.trans hother)
          rw [horigin] at hweb
          cases hweb.2
        · intro other hother hhttps htarget hpolicy
          obtain rfl := Option.some.inj (hfront.symm.trans hother)
          have hdown : isDowngrade front s.target = true := by
            rw [isDowngrade, Bool.and_eq_true, beq_iff_eq, bne_iff_ne]
            exact ⟨hhttps, htarget⟩
          exact shown_of_isDowngrade hs.replacement hfront hweb.1 hdown hpolicy
      · -- one of the two ends is not of the web
        rw [if_neg hweb]
        exact ⟨rfl, Or.inl rfl, fun _ => rfl, fun _ _ _ => rfl, fun _ _ _ _ _ => rfl⟩

theorem decide_of_not_overrides {s : Situation} (h : s.overrides = false) (output : Referrer) :
    s.decide output = (false, output) := by
  simp [Situation.decide, Situation.override?, h]

theorem decide_of_overrides {s : Situation} (h : s.overrides = true) (output : Referrer) :
    s.decide output =
      (true, sanitize s.target ⟨s.replacement.originUrl?, s.policy⟩) := by
  simp [Situation.decide, Situation.override?, h]

theorem decide_fst (s : Situation) (output : Referrer) : (s.decide output).1 = s.overrides := by
  cases h : s.overrides with
  | false => rw [decide_of_not_overrides h]
  | true => rw [decide_of_overrides h]

/-- Situations that look alike are decided alike.  A referrer that is kept is left as it is;
one that is replaced shows an origin at most, whatever else the new referrer holds. -/
theorem decide_shows_origin_only {s s' : Situation} (hs : s.IsRead) (hs' : s'.IsRead)
    (output output' : Referrer) :
    (s.view = s'.view → (s.decide output).1 = (s'.decide output').1) ∧
    ((s.decide output).1 = false → (s.decide output).2 = output) ∧
    ((s.decide output).1 = true → s.Confines (s.decide output).2) ∧
    ((s.decide output).1 = true → (s'.decide output').1 = true → s.target = s'.target →
      s.policy = s'.policy → s.replacement.originUrl? = s'.replacement.originUrl? →
      (s.decide output).2 = (s'.decide output').2) := by
  refine ⟨?_, ?_, ?_, ?_⟩
  · intro hview
    rw [decide_fst, decide_fst, overrides_congr hs hs' hview]
  · intro hkept
    rw [decide_fst] at hkept
    rw [decide_of_not_overrides hkept]
  · intro hreplaced
    rw [decide_fst] at hreplaced
    rw [decide_of_overrides hreplaced]
    exact confines_sanitize hs
  · intro hreplaced hreplaced' htarget hpolicy hfront
    rw [decide_fst] at hreplaced hreplaced'
    rw [decide_of_overrides hreplaced, decide_of_overrides hreplaced', htarget, hpolicy, hfront]

/-- Two pages of one origin leave the same answer and the same trace: none at all on a
request that gives up encryption. -/
theorem decide_shows_origin_only_unencrypted :
    let page : Url := ⟨"https", "user", "", some (.version6 [0, 0, 0, 0, 0, 0, 0, 1]),
      some 8443, .segments ["a"], some "b", some "c"⟩
    let target : Url := ⟨"http", "", "", some (.version6 [0, 0, 0, 0, 0, 0, 0, 2]), none,
      .segments ["x"], some "y", none⟩
    let blank : Url := ⟨"about", "", "", none, none, .undivided "blank", none, none⟩
    let s : Situation := ⟨true, true, some page, blank, target, page, .strictOrigin⟩
    let s' : Situation := { s with replacement := page.bare, current := some target }
    let output : Referrer := ⟨some page, .always⟩
    s.decide output = (true, ⟨none, .strictOrigin⟩) ∧ s'.decide output = s.decide output := by
  intro page target blank s s' output
  have hpage : page.IsRead := ⟨"https://user@[::1]:8443/a?b#c", rfl⟩
  have hbare : page.bare.IsRead := ⟨"https://[::1]:8443/a?b", rfl⟩
  have htarget : target.IsRead := ⟨"http://[::2]/x?y", rfl⟩
  have hfront : page.originUrl? = some ⟨"https", "", "",
      some (.version6 [0, 0, 0, 0, 0, 0, 0, 1]), some 8443, .segments [""], none, none⟩ := by
    unfold page
    decide
  have hreplaced : (s.decide output).1 = true := rfl
  obtain ⟨halike, -, hconfines, hsame⟩ :=
    @decide_shows_origin_only s s' ⟨htarget, hpage⟩ ⟨htarget, hbare⟩ output output
  have hreplaced' : (s'.decide output).1 = true := (halike rfl).symm.trans hreplaced
  have hwritten : (s.decide output).2.url = none :=
    (hconfines hreplaced).downgrade _ hfront rfl (by decide) (by decide)
  have hpolicy : (s.decide output).2.policy = .strictOrigin := (hconfines hreplaced).policy
  refine ⟨Prod.ext hreplaced ?_, Prod.ext (hreplaced'.trans hreplaced.symm) ?_⟩
  · rw [← hwritten, ← hpolicy]
  · exact (hsame hreplaced hreplaced' rfl rfl rfl).symm

end Override

end Referrer
end RequestGuard
