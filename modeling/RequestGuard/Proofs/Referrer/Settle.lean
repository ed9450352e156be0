import RequestGuard.Proofs.Referrer.Sanitize
import RequestGuard.Proofs.Url.Reread

/-!
# Sanitizing settles

What is left of a referrer for a request is left of it again.

* `shown_of_shown`: a policy shows what it showed.  If that is the page, then it is still bare;
  if it is the front page, then its origin decides as the origin of the page did.
* `sanitize_settles` puts this together with what front pages are, and says which pages of the
  web have one.
* `spaced` are ideographs that lie far apart.  Their encoding grows by three digits for each, so
  that a host of many of them is read, but its encoding is not.
-/

namespace RequestGuard
namespace Referrer

open Name RequestGuard.Normal

section Settle

variable {request page v : Url} {policy : Policy}

/-- What a policy shows of a page of the web is a page of the web, and the policy shows it. -/
theorem shown_of_shown (hpage : page.IsRead) (hrequest : request.isWeb = true)
    (hweb : page.isWeb = true) (hv : policy.shown request page.bare = some v) :
    policy.shown request v.bare = some v ∧ v.isWeb = true := by
  by_cases hshows : policy.ShowsPage request page
  · have hshown := shown_of_showsPage hpage hrequest hshows
    obtain rfl := Option.some.inj (hshown.symm.trans hv)
    exact ⟨hshown, hweb⟩
  · have hfront := originUrl?_of_shown hshows hv
    obtain ⟨usual, husual⟩ := exists_usualPort?_of_isWeb hweb
    obtain ⟨-, -, -, hread, -⟩ := hpage.of_originUrl? hfront
    have hscheme := (hpage.isFrontOf husual hfront).scheme
    have horigin : v.origin? = page.origin? := (of_originUrl? hpage hfront).2.2.2.1
    have hweb' : v.isWeb = true := by rwa [Url.isWeb, hscheme]
    -- the page is not shown, so that its origin alone decides
    rw [shown_congr hpage hread hweb hweb' horigin hshows]
    exact ⟨hv, hweb'⟩

theorem sanitize_sanitize (request : Url) {r : Referrer}
    (hr : ∀ page, r.url = some page → page.IsRead) :
    sanitize request (sanitize request r) = sanitize request r := by
  obtain ⟨url, policy⟩ := r
  cases url with
  | none => rfl
  | some page =>
      have hpage : page.IsRead := hr page rfl
      by_cases hsafe : (request.isWeb && page.isWeb) = true
      · obtain ⟨hrequest, hweb⟩ := Bool.and_eq_true_iff.1 hsafe
        rw [sanitize_of_web hsafe]
        cases hshown : policy.shown request page.bare with
        | none => rfl
        | some v =>
            obtain ⟨hagain, hweb'⟩ := shown_of_shown hpage hrequest hweb hshown
            rw [sanitize_of_web (by rw [hrequest, hweb']; rfl), hagain]
      · rw [sanitize_of_not_web hsafe]
        rfl

/-- Sanitizing twice is sanitizing once.  The front page of a page of the web has its scheme, its
host and its port and is its own front page, and there is one exactly if the host of the page has
no encoding that is too long to be read. -/
theorem sanitize_settles (request page : Url) (r : Referrer) :
    ((∀ shown, r.url = some shown → shown.IsRead) →
      sanitize request (sanitize request r) = sanitize request r) ∧
    (page.IsRead → page.isWeb = true →
      (∀ front, page.originUrl? = some front → Url.IsFrontOf page front) ∧
      ((∃ front, page.originUrl? = some front) ↔ ∃ h, page.host = some h ∧ h.IsShort)) := by
  refine ⟨fun hr => sanitize_sanitize request hr, fun hpage hweb => ?_⟩
  obtain ⟨usual, husual⟩ := exists_usualPort?_of_isWeb hweb
  exact ⟨fun front hfront => hpage.isFrontOf husual hfront, hpage.exists_originUrl?_iff husual⟩

/-- A page with credentials and a port that is not the usual one. -/
theorem sanitize_settles_encrypted :
    let page : Url := ⟨"https", "user", "", some (.version6 [0, 0, 0, 0, 0, 0, 0, 1]),
      some 8443, .segments ["a"], some "b", some "c"⟩
    let request : Url := ⟨"http", "", "", some (.version6 [0, 0, 0, 0, 0, 0, 0, 2]), none,
      .segments ["x"], some "y", none⟩
    let r : Referrer := ⟨some page, .originWhenCrossOrigin⟩
    sanitize request (sanitize request r) = sanitize request r ∧
      ∃ front, page.originUrl? = some front ∧ Url.IsFrontOf page front := by
  intro page request r
  have hpage : page.IsRead := ⟨"https://user@[::1]:8443/a?b#c", rfl⟩
  have hr : ∀ shown, r.url = some shown → shown.IsRead := by
    intro shown hshown
    rwa [← Option.some.inj hshown]
  obtain ⟨hsettles, hfronts⟩ := sanitize_settles request page r
  obtain ⟨hfront, hexists⟩ := hfronts hpage rfl
  obtain ⟨front, hsome⟩ := hexists.2 ⟨_, rfl, Url.isShort_version6 _⟩
  exact ⟨hsettles hr, front, hsome, hfront front hsome⟩

end Settle

section Spaced

/-- Ideographs with more than two dozen others between them. -/
def spaced (count : Nat) : List Char :=
  (List.range count).map fun i => Char.ofNat (0x4E00 + 26 * i)

/-- How many of them fit into the block. -/
def spacedLimit : Nat := 807

variable {count : Nat}

theorem toNat_spaced {i : Nat} (hi : i < spacedLimit) :
    (Char.ofNat (0x4E00 + 26 * i)).toNat = 0x4E00 + 26 * i := by
  rw [spacedLimit] at hi
  have hvalid : (0x4E00 + 26 * i).isValidChar := Or.inl (by omega)
  rw [Char.ofNat, dif_pos hvalid]
  rfl

theorem map_toNat_spaced (hcount : count ≤ spacedLimit) :
    (spaced count).map Char.toNat = (List.range count).map fun i => 0x4E00 + 26 * i := by
  rw [spaced, List.map_map]
  refine List.map_congr_left fun i hi => ?_
  exact toNat_spaced (Nat.lt_of_lt_of_le (List.mem_range.1 hi) hcount)

theorem isIdeograph_of_mem_spaced (hcount : count ≤ spacedLimit) :
    ∀ c ∈ spaced count, IsIdeograph c := by
  intro c hc
  have hmem := List.mem_map_of_mem (f := Char.toNat) hc
  rw [map_toNat_spaced hcount] at hmem
  obtain ⟨i, hi, heq⟩ := List.mem_map.1 hmem
  have hlt := List.mem_range.1 hi
  rw [spacedLimit] at hcount
  exact ⟨by omega, by omega⟩

/-- Each of them takes three digits, up to the first ones. -/
theorem le_length_encode_spaced (hcount : count ≤ spacedLimit) :
    3 * count ≤ (Punycode.encode (spaced count)).length + 108 := by
  have hideographs := isIdeograph_of_mem_spaced hcount
  have hpairs : (List.range count).Pairwise fun i j => i < j := List.pairwise_lt_range
  have hextended : Punycode.extended (spaced count) =
      (List.range count).map fun i => 0x4E00 + 26 * i := by
    rw [← map_toNat_spaced hcount]
    refine Punycode.extended_of_pairwise ?_ fun c hc => ?_
    · rw [map_toNat_spaced hcount, List.pairwise_map]
      exact hpairs.imp fun hlt => by omega
    · have hlow := (hideographs c hc).low
      omega
  have hlength : (Punycode.extended (spaced count)).length = count := by
    rw [hextended, List.length_map, List.length_range]
  have hwritten := @Punycode.le_length_encode (spaced count) ?_ ?_
  · rwa [hlength] at hwritten
  · rw [hextended, List.pairwise_map]
    exact hpairs.imp fun hlt => by omega
  · rw [hextended]
    intro n hn
    obtain ⟨i, -, rfl⟩ := List.mem_map.1 hn
    omega

/-- There is a page of the web without a front page. -/
theorem no_front_of_spaced :
    ∃ page, Url.parse ("http://" ++ String.ofList (spaced 800) ++ "/") = .ok page ∧
      page.isWeb = true ∧ page.originUrl? = none := by
  have hcount : 800 ≤ spacedLimit := by decide
  have hlong := le_length_encode_spaced hcount
  have hlength : (spaced 800).length = 800 := by rw [spaced, List.length_map, List.length_range]
  refine Url.exists_page_of_ideographs ?_ (isIdeograph_of_mem_spaced hcount) ?_ ?_
  · rw [ne_eq, ← List.length_eq_zero_iff, hlength]
    decide
  · rw [hlength]
    decide
  · rw [decodeLimit]
    omega

end Spaced

end Referrer
end RequestGuard
