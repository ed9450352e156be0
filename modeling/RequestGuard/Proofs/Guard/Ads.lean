import RequestGuard.Proofs.Guard.Lifecycle

/-!
# What the filter lists of a guard decide

A question about an address goes to the filter list first and to the regional lists only if
they are wanted and the filter list lets the request pass.

* `value?_adBlock_blocksRequest` and `value?_regional_blocksRequest`: the rules that a question
  has gone by are those that are loaded after it.
* `blocksRequest_iff`: a request is blocked exactly if a list that is asked for is loaded then
  and blocks it.
* `regional_answer`: what may load the regional lists.
* `AdLaws` puts together what holds of questions in any state of a guard, and
  `adLaws_run_start` says so of the states that runs lead to.
-/

namespace RequestGuard

namespace Lazy

/-- What a question finds is what is there after it, unless the load breaks off. -/
theorem join_answer?_getOrAttempt {α : Type} (l : Lazy α) {load : Load α}
    (hload : load ≠ .panicked) :
    (l.getOrAttempt fun _ => load).answer?.join =
      (l.getOrAttempt fun _ => load).lazy.value? := by
  by_cases htried : l.isLoaded ∨ l.attempted
  · rw [getOrAttempt_of_tried htried]
    rfl
  · obtain ⟨hvalue, hattempted⟩ : l.value? = none ∧ l.attempted = false := by
      simpa [isLoaded] using htried
    rw [getOrAttempt_of_fresh hvalue hattempted]
    cases load with
    | loaded a => rfl
    | failed f => rfl
    | panicked => exact absurd rfl hload

end Lazy

namespace Guard

open Files

section Requests

variable (g : Guard) (t : Tree) (r : Request) (regional : Bool)

/-- After a question the filter list is there that it has gone by. -/
theorem value?_adBlock_blocksRequest :
    (g.blocksRequest t r regional).2.2.adBlock.value? = g.now t .adBlock := by
  have hafter : ((g.adBlockNow t).2.2.rules .adBlock).value? = g.now t .adBlock :=
    (Lazy.join_answer?_getOrAttempt _ (loadOf_ne_panicked _ _ _ .adBlock)).symm
  rw [blocksRequest_eq]
  split
  · exact hafter
  · split
    · -- the regional lists are asked after it
      exact (congrArg Lazy.value? ((g.adBlockNow t).2.2.rules_blocksRegional t r .adBlock)).trans
        hafter
    · exact hafter

/-- If the regional lists are asked, those are there after a question that it has gone by. -/
theorem value?_regional_blocksRequest (hpass : g.adBlocks t r = false) :
    (g.blocksRequest t r true).2.2.regional.value? = g.now t .regional := by
  rw [blocksRequest_eq, hpass, if_neg Bool.false_ne_true, if_pos rfl]
  have hrules := (g.adBlockNow t).2.2.rules_blocksRegional t r .regional
  exact (congrArg Lazy.value? hrules).trans
    (Lazy.join_answer?_getOrAttempt _ (loadOf_ne_panicked _ _ _ .regional)).symm

theorem adBlocks_eq_true_iff :
    g.adBlocks t r = true ↔ ∃ m : Matcher, g.now t .adBlock = some m ∧ m.blocks r = true := by
  rw [adBlocks, adBlockNow_fst, Option.any_eq_true]

theorem blocksRegional_eq_true_iff :
    (g.blocksRegional t r).1 = true ↔
      ∃ ms : List Matcher, g.now t .regional = some ms ∧ ∃ m ∈ ms, m.blocks r = true := by
  rw [blocksRegional_fst, Option.any_eq_true]
  simp only [Matcher.anyBlocks, List.any_eq_true]

/-- A request is blocked exactly if a list that is asked for is there after the question and
blocks it. -/
theorem blocksRequest_iff :
    (g.blocksRequest t r regional).1 = true ↔
      let after := (g.blocksRequest t r regional).2.2
      (∃ m, after.adBlock.value? = some m ∧ m.blocks r = true) ∨
        regional = true ∧ ∃ ms, after.regional.value? = some ms ∧
          ∃ m ∈ ms, m.blocks r = true := by
  simp only [value?_adBlock_blocksRequest]
  rw [blocksRequest_fst, Bool.or_eq_true, Bool.and_eq_true, adBlocks_eq_true_iff]
  refine or_congr_right' fun hpass => and_congr_right fun hregional => ?_
  -- the filter list lets the request pass, so the regional lists are asked
  rw [← adBlocks_eq_true_iff, Bool.not_eq_true] at hpass
  rw [blocksRegional_eq_true_iff, hregional, value?_regional_blocksRequest g t r hpass]

end Requests

section Calls

/-- The request that all lists are asked about. -/
def pageRequest (url host : String) (pageHost? : Option String) (resources : ResourceSet) :
    Request where
  url := url
  host := host
  sourceHost := pageHost?.getD ""
  thirdParty := !(pageHost?.getD "").isEmpty && Host.thirdParty (pageHost?.getD "") host
  resources := resources

theorem ofUrls?_eq (url tab : String) (resources : ResourceSet) :
    Request.ofUrls? url tab resources =
      (Url.hostOf? url).map fun host => pageRequest url host (Url.hostOf? tab) resources :=
  rfl

/-- What changes the loading of the regional lists: a call that names them, or a question
that wants them and that the filter list does not settle. -/
theorem regional_answer (g : Guard) (t : Tree) {call : Call}
    (hchanged : (g.answer t call).2.2.regional ≠ g.regional) :
    call.loads? = some .regional ∨
      ∃ tab url resources r, call = .ad tab url resources true ∧
        Request.ofUrls? url tab resources = some r ∧
        ∀ m, (g.answer t call).2.2.adBlock.value? = some m → m.blocks r = false := by
  have hafter := g.rules_answer t call .regional
  cases call with
  | initRegional => exact Or.inl rfl
  | ad tab url resources regional =>
      right
      cases hr : Request.ofUrls? url tab resources with
      | none =>
          rw [asked, hr] at hafter
          exact absurd hafter hchanged
      | some r =>
          by_cases hasked : (regional && !g.adBlocks t r) = true
          · obtain ⟨rfl, hpass⟩ : regional = true ∧ g.adBlocks t r = false := by
              simpa using hasked
            refine ⟨tab, url, resources, r, rfl, hr, fun m hm => ?_⟩
            have hturn : (g.answer t (.ad tab url resources true)).2.2 =
                (g.blocksRequest t r true).2.2 := by
              show (g.blocksAd t tab url resources true).2.2 = _
              rw [blocksAd, hr]
            rw [hturn, value?_adBlock_blocksRequest] at hm
            rw [← Bool.not_eq_true]
            intro hblocks
            rw [(g.adBlocks_eq_true_iff t r).2 ⟨m, hm, hblocks⟩] at hpass
            cases hpass
          · rw [asked, hr, Option.bind_some, if_neg hasked] at hafter
            exact absurd hafter hchanged
  | _ => exact absurd hafter hchanged

end Calls

section Laws

/-- What holds of questions about addresses in a state of a guard. -/
structure AdLaws (g : Guard) : Prop where
  /-- An address is blocked exactly if it has a host and a list that is asked for is loaded
  after the question and blocks the request. -/
  blocks : ∀ t tab url resources regional,
    let turn := g.blocksAd t tab url resources regional
    turn.1 = true ↔ ∃ host, Url.hostOf? url = some host ∧
      let r := pageRequest url host (Url.hostOf? tab) resources
      (∃ m, turn.2.2.adBlock.value? = some m ∧ m.blocks r = true) ∨
        regional = true ∧ ∃ ms, turn.2.2.regional.value? = some ms ∧
          ∃ m ∈ ms, m.blocks r = true
  /-- Of the page only its host counts. -/
  page : ∀ t tab tab' url resources regional, Url.hostOf? tab = Url.hostOf? tab' →
    g.blocksAd t tab url resources regional = g.blocksAd t tab' url resources regional
  /-- What is blocked without the regional lists is blocked with them. -/
  mono : ∀ t tab url resources, (g.blocksAd t tab url resources false).1 = true →
    (g.blocksAd t tab url resources true).1 = true
  /-- An address without a host changes nothing. -/
  unread : ∀ t tab url resources regional, Url.hostOf? url = none →
    g.blocksAd t tab url resources regional = (false, [], g)
  /-- Only a call that names the regional lists touches them, or a question that wants them
  and that the filter list does not settle. -/
  lazily : ∀ t call, (g.answer t call).2.2.regional ≠ g.regional →
    call.loads? = some .regional ∨
      ∃ tab url resources r, call = .ad tab url resources true ∧
        Request.ofUrls? url tab resources = some r ∧
        ∀ m, (g.answer t call).2.2.adBlock.value? = some m → m.blocks r = false

theorem blocksAd_iff (g : Guard) (t : Tree) (tab url : String) (resources : ResourceSet)
    (regional : Bool) :
    let turn := g.blocksAd t tab url resources regional
    turn.1 = true ↔ ∃ host, Url.hostOf? url = some host ∧
      let r := pageRequest url host (Url.hostOf? tab) resources
      (∃ m, turn.2.2.adBlock.value? = some m ∧ m.blocks r = true) ∨
        regional = true ∧ ∃ ms, turn.2.2.regional.value? = some ms ∧
          ∃ m ∈ ms, m.blocks r = true := by
  intro turn
  have hturn : turn = g.blocksAd t tab url resources regional := rfl
  rw [blocksAd, ofUrls?_eq] at hturn
  cases hhost : Url.hostOf? url with
  | none =>
      rw [hhost] at hturn
      rw [hturn]
      constructor
      · intro h
        cases h
      · rintro ⟨host, h, -⟩
        cases h
  | some host =>
      rw [hhost] at hturn
      simp only [Option.map_some] at hturn
      rw [hturn, blocksRequest_iff]
      simp

theorem blocksAd_congr (g : Guard) (t : Tree) {tab tab' : String} (url : String)
    (resources : ResourceSet) (regional : Bool) (h : Url.hostOf? tab = Url.hostOf? tab') :
    g.blocksAd t tab url resources regional = g.blocksAd t tab' url resources regional := by
  rw [blocksAd, blocksAd, ofUrls?_eq, ofUrls?_eq, h]

theorem blocksAd_mono (g : Guard) (t : Tree) (tab url : String) (resources : ResourceSet)
    (h : (g.blocksAd t tab url resources false).1 = true) :
    (g.blocksAd t tab url resources true).1 = true := by
  rw [blocksAd] at h ⊢
  split at h
  · cases h
  · simp only [blocksRequest_fst, Bool.false_and, Bool.or_false] at h
    simp only [blocksRequest_fst, h, Bool.true_or]

theorem blocksAd_of_hostOf?_eq_none (g : Guard) (t : Tree) (tab : String) {url : String}
    (resources : ResourceSet) (regional : Bool) (h : Url.hostOf? url = none) :
    g.blocksAd t tab url resources regional = (false, [], g) := by
  rw [blocksAd, ofUrls?_eq, h]
  rfl

/-- Whatever was asked before and whatever files there were, a guard answers a question about
an address by the lists that are loaded when it answers. -/
theorem adLaws_run_start (c : Config) (make : Matcher.Factory) (t : Tree)
    (events : List Event) : ((start c make).run t events).2.AdLaws := by
  generalize ((start c make).run t events).2 = g
  exact
    { blocks := g.blocksAd_iff
      page := fun t _ _ url resources regional => g.blocksAd_congr t url resources regional
      mono := g.blocksAd_mono
      unread := fun t tab _ resources regional =>
        g.blocksAd_of_hostOf?_eq_none t tab resources regional
      lazily := fun t _ => g.regional_answer t }

/-- A regional list blocks what the filter list lets pass, and only if it is wanted. -/
theorem adLaws_run_start_regional :
    let make : Matcher.Factory := fun bytes => .ok (.constant (.blockIf (bytes == [1])))
    let list := { RegionalList.blank with file := ⟨"1", "de"⟩, enabled := true }
    let files := (Tree.empty.write "1/ABPFilterParserData.dat" (.file [0])).write "1/de" (.file [1])
    let g := ((start { Config.standard with regional := [list] } make).run files []).2
    (g.blocksAd files "https://[::2]/" "https://[::1]/x" (.single .script) true).1 = true ∧
      (g.blocksAd files "https://[::2]/" "https://[::1]/x" (.single .script) false).1 = false := by
  intro make list files g
  have hlaws : g.AdLaws := adLaws_run_start _ _ files []
  have hhost : Url.hostOf? "https://[::1]/x" = some "[::1]" := rfl
  refine ⟨?_, ?_⟩
  · refine (hlaws.blocks _ _ _ _ _).2 ⟨"[::1]", hhost, Or.inr ⟨rfl, [.constant .block], ?_, ?_⟩⟩
    · unfold g files list make
      rfl
    · exact ⟨.constant .block, List.mem_singleton_self _, rfl⟩
  · unfold g files list make
    rfl

end Laws

end Guard
end RequestGuard
