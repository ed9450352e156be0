import RequestGuard.Proofs.Referrer.Secrecy

/-!
# What a policy lets a referrer show

The policy of a referrer bounds what a request may say of the page it comes from.

* `Policy.ShowsPage` are the cases in which a policy shows the path and the query of a page.
* `shown_of_not_showsPage`: in every other case at most the front page is shown, which is
  the same for all pages of one origin (`shown_congr`).
* `not_showsPage_of_gives_up`: to a request that gives up encryption only the policy that
  always shows the page shows it.
* `sanitize_within` puts this together: `Within` is what may be left of a page.
-/

namespace RequestGuard
namespace Referrer

section ShowsPage

/-- When a policy shows the path and the query of a page to a request. -/
def Policy.ShowsPage (policy : Policy) (request page : Url) : Prop :=
  policy = .always ∨
  ((policy = .default ∨ policy = .noReferrerWhenDowngrade) ∧
    ¬ (page.scheme = "https" ∧ request.scheme ≠ "https")) ∨
  (page.origin? = request.origin? ∧
    (policy = .originWhenCrossOrigin ∨ policy = .noReferrerWhenDowngradeOriginWhenCrossOrigin ∨
      policy = .sameOrigin))

/-- What a policy shows of the site of a page whose path and query it does not show. -/
def Policy.siteShown (policy : Policy) (request page : Url) : Option Url :=
  match policy with
  | .origin | .originWhenCrossOrigin => page.originUrl?
  | .strictOrigin | .noReferrerWhenDowngradeOriginWhenCrossOrigin =>
    if isDowngrade page request then none else page.originUrl?
  | _ => none

theorem isDowngrade_iff {page request : Url} :
    isDowngrade page request = true ↔ page.scheme = "https" ∧ request.scheme ≠ "https" := by
  rw [isDowngrade, Bool.and_eq_true, beq_iff_eq, bne_iff_ne]

theorem isCrossOrigin_iff {page request : Url} :
    isCrossOrigin page request = true ↔ page.origin? ≠ request.origin? := by
  rw [isCrossOrigin, bne_iff_ne]

/-- The page without credentials and fragment has the origin of the page. -/
theorem origin?_bare (page : Url) : page.bare.origin? = page.origin? := rfl

theorem isDowngrade_bare (page request : Url) :
    isDowngrade page.bare request = isDowngrade page request := rfl

theorem isCrossOrigin_bare (page request : Url) :
    isCrossOrigin page.bare request = isCrossOrigin page request := rfl

section Cases

variable {request page : Url} {policy : Policy}

/-- Where a policy shows the page, it shows all but credentials and fragment. -/
theorem shown_of_showsPage (hpage : page.IsRead) (hweb : request.isWeb = true)
    (h : policy.ShowsPage request page) : policy.shown request page.bare = some page.bare := by
  rcases h with rfl | ⟨hpolicy, hkept⟩ | ⟨hsame, hpolicy⟩
  · rfl
  · have hdown : ¬ isDowngrade page.bare request = true := by
      rwa [isDowngrade_bare, isDowngrade_iff]
    rcases hpolicy with rfl | rfl
    · exact if_neg hdown
    · exact if_neg hdown
  · have hcross : ¬ isCrossOrigin page.bare request = true := by
      rw [isCrossOrigin_bare, isCrossOrigin_iff]
      exact fun hne => hne hsame
    have hdown : ¬ isDowngrade page.bare request = true := by
      intro hdown
      rw [isDowngrade_bare] at hdown
      rw [isCrossOrigin_bare] at hcross
      exact hcross (isCrossOrigin_of_isDowngrade hpage hweb hdown)
    rcases hpolicy with rfl | rfl | rfl
    · exact if_neg hcross
    · exact (if_neg hdown).trans (if_neg hcross)
    · exact if_neg hcross

theorem isDowngrade_of_not_showsPage
    (hpolicy : policy = .default ∨ policy = .noReferrerWhenDowngrade)
    (h : ¬ policy.ShowsPage request page) : isDowngrade page.bare request = true := by
  rw [isDowngrade_bare, isDowngrade_iff]
  by_cases hdown : page.scheme = "https" ∧ request.scheme ≠ "https"
  · exact hdown
  · exact absurd (Or.inr (Or.inl ⟨hpolicy, hdown⟩)) h

theorem isCrossOrigin_of_not_showsPage
    (hpolicy : policy = .originWhenCrossOrigin ∨
      policy = .noReferrerWhenDowngradeOriginWhenCrossOrigin ∨ policy = .sameOrigin)
    (h : ¬ policy.ShowsPage request page) : isCrossOrigin page.bare request = true := by
  rw [isCrossOrigin_bare, isCrossOrigin_iff]
  intro hsame
  exact h (Or.inr (Or.inr ⟨hsame, hpolicy⟩))

/-- Where a policy does not show the page, what it shows is decided by its site. -/
theorem shown_of_not_showsPage (h : ¬ policy.ShowsPage request page) :
    policy.shown request page.bare = policy.siteShown request page := by
  cases policy with
  | always => exact absurd (Or.inl rfl) h
  | never => rfl
  | origin => rfl
  | default => exact if_pos (isDowngrade_of_not_showsPage (by simp) h)
  | noReferrerWhenDowngrade => exact if_pos (isDowngrade_of_not_showsPage (by simp) h)
  | originWhenCrossOrigin => exact if_pos (isCrossOrigin_of_not_showsPage (by simp) h)
  | sameOrigin => exact if_pos (isCrossOrigin_of_not_showsPage (by simp) h)
  | strictOrigin => rfl
  | noReferrerWhenDowngradeOriginWhenCrossOrigin =>
      simp only [Policy.shown, if_pos (isCrossOrigin_of_not_showsPage (by simp) h)]
      rfl

theorem originUrl?_of_shown (h : ¬ policy.ShowsPage request page) {v : Url}
    (hv : policy.shown request page.bare = some v) : page.originUrl? = some v := by
  rw [shown_of_not_showsPage h] at hv
  unfold Policy.siteShown at hv
  split at hv
  · exact hv
  · exact hv
  · exact (Option.ite_none_left_eq_some.1 hv).2
  · exact (Option.ite_none_left_eq_some.1 hv).2
  · cases hv

end Cases

end ShowsPage

section Within

/-- What may be left of a page for a request under a policy. -/
structure Within (request page : Url) (policy : Policy) (shown : Option Url) : Prop where
  /-- Neither credentials nor a fragment are left, and the origin is that of the page. -/
  bare : ∀ v, shown = some v →
    v.username = "" ∧ v.password = "" ∧ v.fragment = none ∧ v.origin? = page.origin?
  /-- Path and query are left in the cases of the policy only. -/
  front : ¬ policy.ShowsPage request page →
    ∀ v, shown = some v → v.path = .segments [""] ∧ v.query = none
  /-- In these cases they are left between two pages of the web. -/
  whole : policy.ShowsPage request page → request.isWeb = true → page.isWeb = true →
    ∃ v, shown = some v ∧ v.path = page.path ∧ v.query = page.query
  /-- A request that gives up encryption is told nothing unless the policy asks for it. -/
  guarded : page.scheme = "https" → request.scheme ≠ "https" → policy ≠ .always →
    policy ≠ .origin → policy ≠ .originWhenCrossOrigin → shown = none
  /-- Two of the policies that ask for it tell the origin at most. -/
  originOnly : page.scheme = "https" → request.scheme ≠ "https" →
    policy = .origin ∨ policy = .originWhenCrossOrigin →
    ∀ v, shown = some v → v.path = .segments [""] ∧ v.query = none

variable {request page page' : Url} {policy : Policy}

theorem eq_of_url_of_policy {r : Referrer} {u : Option Url} (hu : r.url = u)
    (hpolicy : r.policy = policy) : r = ⟨u, policy⟩ := by
  rw [← hu, ← hpolicy]

theorem sanitize_of_web (h : (request.isWeb && page.isWeb) = true) :
    sanitize request ⟨some page, policy⟩ = ⟨policy.shown request page.bare, policy⟩ :=
  if_pos h

theorem sanitize_of_not_web (h : ¬ (request.isWeb && page.isWeb) = true) :
    sanitize request ⟨some page, policy⟩ = ⟨none, policy⟩ :=
  if_neg h

/-- What is known of the front page of a page of the web. -/
theorem of_originUrl? (hpage : page.IsRead) {v : Url} (hv : page.originUrl? = some v) :
    v.username = "" ∧ v.password = "" ∧ v.fragment = none ∧ v.origin? = page.origin? ∧
      v.path = .segments [""] ∧ v.query = none := by
  obtain ⟨o, ho, ho', -⟩ := hpage.front_of_originUrl? hv
  obtain ⟨_, _, _, _, h, _, hfront⟩ := hpage.of_originUrl? hv
  exact ⟨by rw [hfront], by rw [hfront], by rw [hfront], ho'.trans ho.symm, by rw [hfront],
    by rw [hfront]⟩

/-- A request that gives up encryption has another origin, so that only one policy shows it
the page. -/
theorem not_showsPage_of_gives_up (hpage : page.IsRead) (hweb : request.isWeb = true)
    (hhttps : page.scheme = "https") (hrequest : request.scheme ≠ "https")
    (hpolicy : policy ≠ .always) : ¬ policy.ShowsPage request page := by
  have hdown : isDowngrade page request = true := isDowngrade_iff.2 ⟨hhttps, hrequest⟩
  have hcross := isCrossOrigin_iff.1 (isCrossOrigin_of_isDowngrade hpage hweb hdown)
  rintro (halways | ⟨-, hkept⟩ | ⟨hsame, -⟩)
  · exact hpolicy halways
  · exact hkept ⟨hhttps, hrequest⟩
  · exact hcross hsame

theorem within_shown (hpage : page.IsRead) (hrequest : request.isWeb = true) :
    Within request page policy (policy.shown request page.bare) := by
  refine ⟨?_, ?_, ?_, ?_, ?_⟩
  · intro v hv
    by_cases hshows : policy.ShowsPage request page
    · rw [shown_of_showsPage hpage hrequest hshows] at hv
      cases hv
      exact ⟨rfl, rfl, rfl, origin?_bare page⟩
    · obtain ⟨huser, hpassword, hfragment, horigin, -⟩ :=
        of_originUrl? hpage (originUrl?_of_shown hshows hv)
      exact ⟨huser, hpassword, hfragment, horigin⟩
  · intro hshows v hv
    exact (of_originUrl? hpage (originUrl?_of_shown hshows hv)).2.2.2.2
  · intro hshows _ _
    exact ⟨page.bare, shown_of_showsPage hpage hrequest hshows, rfl, rfl⟩
  · intro hhttps hplain halways horigin hwhen
    have hshows := not_showsPage_of_gives_up hpage hrequest hhttps hplain halways
    have hdown : isDowngrade page request = true := isDowngrade_iff.2 ⟨hhttps, hplain⟩
    rw [shown_of_not_showsPage hshows]
    cases policy with
    | always => exact absurd rfl halways
    | origin => exact absurd rfl horigin
    | originWhenCrossOrigin => exact absurd rfl hwhen
    | strictOrigin => exact if_pos hdown
    | noReferrerWhenDowngradeOriginWhenCrossOrigin => exact if_pos hdown
    | default => rfl
    | noReferrerWhenDowngrade => rfl
    | never => rfl
    | sameOrigin => rfl
  · intro hhttps hplain hpolicy v hv
    have halways : policy ≠ .always := by rcases hpolicy with rfl | rfl <;> simp
    have hshows := not_showsPage_of_gives_up hpage hrequest hhttps hplain halways
    exact (of_originUrl? hpage (originUrl?_of_shown hshows hv)).2.2.2.2

theorem within_none (hsafe : ¬ (request.isWeb && page.isWeb) = true) :
    Within request page policy none := by
  rw [Bool.and_eq_true] at hsafe
  exact ⟨fun _ h => (by cases h), fun _ _ h => (by cases h),
    fun _ hrequest hweb => absurd ⟨hrequest, hweb⟩ hsafe, fun _ _ _ _ _ => rfl,
    fun _ _ _ _ h => (by cases h)⟩

/-- Pages of one origin are told apart only where the page itself is shown. -/
theorem shown_congr (hpage : page.IsRead) (hpage' : page'.IsRead) (hweb : page.isWeb = true)
    (hweb' : page'.isWeb = true) (horigin : page'.origin? = page.origin?)
    (h : ¬ policy.ShowsPage request page) :
    policy.shown request page'.bare = policy.shown request page.bare := by
  obtain ⟨o, ho, hscheme⟩ := origin?_of_isWeb hpage hweb
  obtain ⟨o', ho', hscheme'⟩ := origin?_of_isWeb hpage' hweb'
  obtain rfl : o' = o := Option.some.inj (ho'.symm.trans (horigin.trans ho))
  have hsame : page'.scheme = page.scheme := hscheme'.symm.trans hscheme
  have h' : ¬ policy.ShowsPage request page' := by
    rwa [Policy.ShowsPage, horigin, hsame]
  have hdown : isDowngrade page' request = isDowngrade page request := by
    rw [isDowngrade, isDowngrade, hsame]
  have hfront : page'.originUrl? = page.originUrl? := by
    rw [Url.originUrl?, Url.originUrl?, horigin]
  rw [shown_of_not_showsPage h, shown_of_not_showsPage h']
  unfold Policy.siteShown
  rw [hdown, hfront]

/-- Sanitizing leaves of a page what its policy allows, and where that is not the page itself,
the same for all pages of one origin. -/
theorem sanitize_within (hpage : page.IsRead) (request : Url) (policy : Policy) :
    (sanitize request ⟨some page, policy⟩).policy = policy ∧
    Within request page policy (sanitize request ⟨some page, policy⟩).url ∧
    (¬ policy.ShowsPage request page → ∀ page' : Url, page'.IsRead → page.isWeb = true →
      page'.isWeb = true → page'.origin? = page.origin? →
      sanitize request ⟨some page', policy⟩ = sanitize request ⟨some page, policy⟩) := by
  by_cases hsafe : (request.isWeb && page.isWeb) = true
  · have hboth := Bool.and_eq_true _ _ ▸ hsafe
    rw [sanitize_of_web hsafe]
    refine ⟨rfl, within_shown hpage hboth.1, ?_⟩
    intro hshows page' hpage' hweb hweb' horigin
    rw [sanitize_of_web (by rw [hboth.1, hweb']; rfl)]
    rw [shown_congr hpage hpage' hweb hweb' horigin hshows]
  · rw [sanitize_of_not_web hsafe]
    refine ⟨rfl, within_none hsafe, ?_⟩
    intro _ page' _ hweb hweb' _
    rw [hweb] at hsafe
    exact sanitize_of_not_web (by rwa [hweb'])

/-- Two pages of one origin: under one policy the request learns the same front page from
both, under another it learns nothing since it gives up encryption. -/
theorem sanitize_within_encrypted :
    let page : Url := ⟨"https", "user", "", some (.version6 [0, 0, 0, 0, 0, 0, 0, 1]),
      some 8443, .segments ["a"], some "b", some "c"⟩
    let request : Url := ⟨"http", "", "", some (.version6 [0, 0, 0, 0, 0, 0, 0, 2]), none,
      .segments ["x"], some "y", none⟩
    let front : Url := ⟨"https", "", "", some (.version6 [0, 0, 0, 0, 0, 0, 0, 1]), some 8443,
      .segments [""], none, none⟩
    sanitize request ⟨some page, .originWhenCrossOrigin⟩ = ⟨some front, .originWhenCrossOrigin⟩ ∧
    sanitize request ⟨some front, .originWhenCrossOrigin⟩ =
      ⟨some front, .originWhenCrossOrigin⟩ ∧
    sanitize request ⟨some page, .sameOrigin⟩ = ⟨none, .sameOrigin⟩ := by
  intro page request front
  have hpage : page.IsRead := ⟨"https://user@[::1]:8443/a?b#c", rfl⟩
  have hfront : front.IsRead := ⟨"https://[::1]:8443/", rfl⟩
  have hshown : (sanitize request ⟨some front, .originWhenCrossOrigin⟩).url = some front := by
    unfold request front
    decide
  have horigin : page.origin? = front.origin? := rfl
  have hhidden : ¬ Policy.ShowsPage .originWhenCrossOrigin request front := by
    unfold request front
    simp only [Policy.ShowsPage]
    decide
  obtain ⟨hpolicy, -, hsame⟩ := sanitize_within hfront request .originWhenCrossOrigin
  obtain ⟨hpolicy', hwithin', -⟩ := sanitize_within hpage request .sameOrigin
  have hnone := hwithin'.guarded rfl (by decide) (by decide) (by decide) (by decide)
  have hfrontPage : sanitize request ⟨some front, .originWhenCrossOrigin⟩ =
      ⟨some front, .originWhenCrossOrigin⟩ := eq_of_url_of_policy hshown hpolicy
  exact ⟨(hsame hhidden page hpage rfl rfl horigin).trans hfrontPage, hfrontPage,
    eq_of_url_of_policy hnone hpolicy'⟩

end Within

end Referrer
end RequestGuard
