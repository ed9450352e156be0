import RequestGuard.Proofs.Guard.Trackers

/-!
# What a guard does for one concern does not touch the others

Trackers, advertisements and upgrades are the concerns of a guard.  Every call is about one
of them (`Call.concern`), and each has a part of the guard to itself: a guard can take over
the part of another (`adopt`).

* `answer_adopt`: a call goes by the part of its concern alone and changes no other part,
  since in a guard that has only this part in common it has the same reply and tells the
  same, and again just this part is in common afterwards.
* `Shares`: two guards have the parts of some concerns in common.  A call about one of these
  keeps this when both answer it, a call about another concern when only one does.
* `concerns_stay_apart`: so calls about other concerns can be left out of a run.
-/

namespace RequestGuard
namespace Guard

open Files Upgrade

section Concerns

/-- What calls are about. -/
inductive Concern where
  | trackers
  | ads
  | upgrades
  deriving DecidableEq, Repr

/-- What a call is about. -/
def Call.concern : Call → Concern
  | .initTracking | .tracker _ _ | .allow _ => .trackers
  | .initAdBlock | .initRegional | .ad _ _ _ _ => .ads
  | .initHttps | .initHttpsWith _ | .secure _ _ | .secureFromCache _ _ | .redirects _
  | .forget _ => .upgrades

/-- Does an event stay when only some concerns are kept?  Changes of the files stay. -/
def Event.isKept (kept : Concern → Bool) : Event → Bool
  | .call c => kept c.concern
  | .files _ => true

/-- A guard with what another one has for a concern. -/
def adopt (h : Guard) (k : Concern) (g : Guard) : Guard :=
  match k with
  | .trackers => { h with tracking := g.tracking, related := g.related, allowed := g.allowed }
  | .ads => { h with adBlock := g.adBlock, regional := g.regional }
  | .upgrades => { h with https := g.https, past := g.past, upgrader := g.upgrader }

/-- What is answered and told, with a guard that takes over what the answer leaves for a
concern. -/
def adoptTurn {α : Type} (h : Guard) (k : Concern) (turn : α × List LogLine × Guard) :
    α × List LogLine × Guard :=
  (turn.1, turn.2.1, h.adopt k turn.2.2)

/-- The configuration and the way to make matchers are the same. -/
def SetUpLike (h g : Guard) : Prop :=
  h.config = g.config ∧ h.makeMatcher = g.makeMatcher

variable (h g g' : Guard) {k j : Concern}

@[simp] theorem adopt_self (k : Concern) : g.adopt k g = g := by
  cases k <;> rfl

@[simp] theorem adopt_adopt (k : Concern) : (h.adopt k g).adopt k g' = h.adopt k g' := by
  cases k <;> rfl

/-- Parts of different concerns do not overlap. -/
theorem adopt_comm (hne : j ≠ k) :
    (h.adopt k g).adopt j g' = (h.adopt j g').adopt k g := by
  cases k <;> cases j <;> first | rfl | exact absurd rfl hne

/-- What one concern has left says nothing about the part of another. -/
theorem adopt_of_adopt (hne : j ≠ k) : h.adopt j (g.adopt k g') = h.adopt j g := by
  cases k <;> cases j <;> first | rfl | exact absurd rfl hne

theorem setUpLike_adopt (k : Concern) : (h.adopt k g).SetUpLike h := by
  cases k <;> exact ⟨rfl, rfl⟩

end Concerns

section Loading

variable {h g : Guard} (t : Tree)

/-- The trackers are loaded by what a guard has for them, and nothing else changes. -/
theorem trackingNow_adopt (hlike : h.SetUpLike g) :
    (h.adopt .trackers g).trackingNow t = h.adoptTurn .trackers (g.trackingNow t) := by
  obtain ⟨hconfig, -⟩ := hlike
  simp only [trackingNow, adoptTurn, adopt, hconfig]

theorem adBlockNow_adopt (hlike : h.SetUpLike g) :
    (h.adopt .ads g).adBlockNow t = h.adoptTurn .ads (g.adBlockNow t) := by
  obtain ⟨hconfig, hmake⟩ := hlike
  simp only [adBlockNow, adoptTurn, adopt, hconfig, hmake]

theorem regionalNow_adopt (hlike : h.SetUpLike g) :
    (h.adopt .ads g).regionalNow t = h.adoptTurn .ads (g.regionalNow t) := by
  obtain ⟨hconfig, hmake⟩ := hlike
  simp only [regionalNow, adoptTurn, adopt, hconfig, hmake]

theorem httpsNow_adopt (hlike : h.SetUpLike g) :
    (h.adopt .upgrades g).httpsNow t = h.adoptTurn .upgrades (g.httpsNow t) := by
  obtain ⟨hconfig, -⟩ := hlike
  simp only [httpsNow, adoptTurn, adopt, hconfig]

theorem initTracking_adopt (hlike : h.SetUpLike g) :
    (h.adopt .trackers g).initTracking t = h.adoptTurn .trackers (g.initTracking t) := by
  obtain ⟨hconfig, -⟩ := hlike
  simp only [initTracking, adoptTurn, adopt, hconfig]

theorem initAdBlock_adopt (hlike : h.SetUpLike g) :
    (h.adopt .ads g).initAdBlock t = h.adoptTurn .ads (g.initAdBlock t) := by
  obtain ⟨hconfig, hmake⟩ := hlike
  simp only [initAdBlock, adoptTurn, adopt, hconfig, hmake]

theorem initRegional_adopt (hlike : h.SetUpLike g) :
    (h.adopt .ads g).initRegional t = h.adoptTurn .ads (g.initRegional t) := by
  obtain ⟨hconfig, hmake⟩ := hlike
  simp only [initRegional, adoptTurn, adopt, hconfig, hmake]

theorem initHttps_adopt (hlike : h.SetUpLike g) :
    (h.adopt .upgrades g).initHttps t = h.adoptTurn .upgrades (g.initHttps t) := by
  obtain ⟨hconfig, -⟩ := hlike
  simp only [initHttps, adoptTurn, adopt, hconfig]

end Loading

section Answers

variable {h g : Guard} (t : Tree)

theorem relatedHosts_adopt (h g : Guard) (l : TrackerList) (base : String) :
    (h.adopt .trackers g).relatedHosts l base =
      ((g.relatedHosts l base).1, h.adopt .trackers (g.relatedHosts l base).2) := by
  have hrelated : (h.adopt .trackers g).related = g.related := rfl
  rw [relatedHosts, relatedHosts, hrelated]
  cases g.related.peek? base <;> rfl

theorem blocksListed_adopt (h g : Guard) (l : TrackerList) (base host : String) :
    (h.adopt .trackers g).blocksListed l base host =
      ((g.blocksListed l base host).1, h.adopt .trackers (g.blocksListed l base host).2) := by
  rw [blocksListed, blocksListed, relatedHosts_adopt]
  split
  · rfl
  · split
    · rfl
    · rfl

theorem blocksTracker_adopt (hlike : h.SetUpLike g) (base host : String) :
    (h.adopt .trackers g).blocksTracker t base host =
      h.adoptTurn .trackers (g.blocksTracker t base host) := by
  rw [blocksTracker, blocksTracker, trackingNow_adopt t hlike]
  rcases g.trackingNow t with ⟨_ | l, log, g'⟩
  · rfl
  · simp only [adoptTurn, blocksListed_adopt]

theorem allow_adopt (h g : Guard) (host : String) :
    (h.adopt .trackers g).allow host = h.adopt .trackers (g.allow host) := by
  rw [allow, allow]
  show (if _ || g.allowed.contains _ then _ else _) = _
  split <;> rfl

theorem blocksRegional_adopt (hlike : h.SetUpLike g) (r : Request) :
    (h.adopt .ads g).blocksRegional t r = h.adoptTurn .ads (g.blocksRegional t r) := by
  rw [blocksRegional, blocksRegional, regionalNow_adopt t hlike]
  rcases g.regionalNow t with ⟨_ | ms, log, g'⟩ <;> rfl

/-- The regional lists are asked of the guard that the filter list has left. -/
theorem blocksRequest_adopt (hlike : h.SetUpLike g) (r : Request) (regional : Bool) :
    (h.adopt .ads g).blocksRequest t r regional =
      h.adoptTurn .ads (g.blocksRequest t r regional) := by
  have hnow := adBlockNow_adopt t hlike
  have hafter : h.SetUpLike (g.adBlockNow t).2.2 := hlike
  have hblocks : (h.adopt .ads g).adBlocks t r = g.adBlocks t r := by
    rw [adBlocks, adBlocks, hnow]
    rfl
  have hregional : (h.adopt .ads (g.adBlockNow t).2.2).blocksRegional t r =
      h.adoptTurn .ads ((g.adBlockNow t).2.2.blocksRegional t r) :=
    blocksRegional_adopt t hafter r
  rw [blocksRequest_eq, blocksRequest_eq, hblocks, hnow]
  simp only [adoptTurn] at hregional ⊢
  rw [hregional]
  cases g.adBlocks t r <;> cases regional <;> rfl

theorem blocksAd_adopt (hlike : h.SetUpLike g) (tab url : String) (resources : ResourceSet)
    (regional : Bool) :
    (h.adopt .ads g).blocksAd t tab url resources regional =
      h.adoptTurn .ads (g.blocksAd t tab url resources regional) := by
  rw [blocksAd, blocksAd]
  cases Request.ofUrls? url tab resources with
  | none => rfl
  | some r => exact blocksRequest_adopt t hlike r regional

theorem secureUrl_adopt (hlike : h.SetUpLike g) (url : String) (request : Nat) :
    (h.adopt .upgrades g).secureUrl t url request =
      h.adoptTurn .upgrades (g.secureUrl t url request) := by
  rw [secureUrl, secureUrl, httpsNow_adopt t hlike]
  rcases g.httpsNow t with ⟨_ | s, log, g'⟩ <;> rfl

theorem secureUrlFromCache_adopt (h g : Guard) (url : String) (request : Nat) :
    (h.adopt .upgrades g).secureUrlFromCache url request =
      ((g.secureUrlFromCache url request).1,
        h.adopt .upgrades (g.secureUrlFromCache url request).2) := by
  rw [secureUrlFromCache, secureUrlFromCache]
  show (if g.https.isLoaded then _ else _) = _
  split <;> rfl

/-- A call goes by the part of its concern alone, and changes no other. -/
theorem answer_adopt (hlike : h.SetUpLike g) (call : Call) :
    (h.adopt call.concern g).answer t call = h.adoptTurn call.concern (g.answer t call) := by
  cases call with
  | initTracking =>
      show Turn.ofTruth ((h.adopt .trackers g).initTracking t) = _
      rw [initTracking_adopt t hlike]
      rfl
  | initAdBlock =>
      show Turn.ofTruth ((h.adopt .ads g).initAdBlock t) = _
      rw [initAdBlock_adopt t hlike]
      rfl
  | initRegional =>
      show Turn.ofTruth ((h.adopt .ads g).initRegional t) = _
      rw [initRegional_adopt t hlike]
      rfl
  | initHttps =>
      show Turn.ofTruth ((h.adopt .upgrades g).initHttps t) = _
      rw [initHttps_adopt t hlike]
      rfl
  | initHttpsWith store => rfl
  | tracker base host =>
      show Turn.ofTruth ((h.adopt .trackers g).blocksTracker t base host) = _
      rw [blocksTracker_adopt t hlike]
      rfl
  | allow host =>
      rw [Call.concern, answer, answer, allow_adopt, adoptTurn]
  | ad tab url resources regional =>
      show Turn.ofTruth ((h.adopt .ads g).blocksAd t tab url resources regional) = _
      rw [blocksAd_adopt t hlike]
      rfl
  | secure url request =>
      have hsecure := secureUrl_adopt t hlike url request
      show (let turn := (h.adopt .upgrades g).secureUrl t url request
        ((turn.1.map Reply.address).getD .panicked, turn.2.1, turn.2.2)) = _
      rw [hsecure]
      rfl
  | secureFromCache url request =>
      have hsecure := secureUrlFromCache_adopt h g url request
      show (let turn := (h.adopt .upgrades g).secureUrlFromCache url request
        (Reply.address turn.1, [], turn.2)) = _
      rw [hsecure]
      rfl
  | redirects request => rfl
  | forget request => rfl

/-- Of other files each concern sees what it has. -/
theorem follow_adopt (h g : Guard) (k : Concern) :
    (h.adopt k g).follow t = (h.follow t).adopt k (g.follow t) := by
  cases k <;> rfl

/-- After a call only the part of its concern can be another. -/
theorem adopt_answer (g : Guard) (call : Call) :
    g.adopt call.concern (g.answer t call).2.2 = (g.answer t call).2.2 := by
  have hself := answer_adopt t (h := g) (g := g) ⟨rfl, rfl⟩ call
  rw [adopt_self] at hself
  exact congrArg (·.2.2) hself.symm

end Answers

section Runs

/-- A call of a run, with what was answered and told. -/
structure Said where
  call : Call
  reply : Reply
  log : List LogLine

/-- Is what was said about a kept concern? -/
def Said.isKept (kept : Concern → Bool) (said : Said) : Bool :=
  kept said.call.concern

/-- What was said in a run. -/
def transcript (g : Guard) (t : Tree) : List Event → List Said
  | [] => []
  | .files t :: more => transcript (g.follow t) t more
  | .call call :: more =>
    ⟨call, (g.answer t call).1, (g.answer t call).2.1⟩ ::
      transcript (g.answer t call).2.2 t more

theorem map_reply_transcript (g : Guard) (t : Tree) (events : List Event) :
    (g.transcript t events).map (·.reply) = (g.run t events).1 := by
  induction events generalizing g t with
  | nil => rfl
  | cons event more ih =>
      cases event with
      | files t => exact ih (g.follow t) t
      | call call => exact congrArg ((g.answer t call).1 :: ·) (ih (g.answer t call).2.2 t)

theorem map_call_transcript (g : Guard) (t : Tree) (events : List Event) :
    (g.transcript t events).map (·.call) = calls events := by
  induction events generalizing g t with
  | nil => rfl
  | cons event more ih =>
      cases event with
      | files t => exact ih (g.follow t) t
      | call call => exact congrArg (call :: ·) (ih (g.answer t call).2.2 t)

/-- A guard has the parts of the kept concerns in common with another. -/
structure Shares (kept : Concern → Bool) (h g : Guard) : Prop where
  like : h.SetUpLike g
  part : ∀ k, kept k = true → h.adopt k g = h

variable {kept : Concern → Bool} {h g : Guard} {call : Call}

theorem Shares.refl (kept : Concern → Bool) (g : Guard) : g.Shares kept g :=
  ⟨⟨rfl, rfl⟩, fun k _ => g.adopt_self k⟩

theorem Shares.answer_eq (hshares : h.Shares kept g) (hkept : kept call.concern = true)
    (t : Tree) : h.answer t call = h.adoptTurn call.concern (g.answer t call) := by
  have hanswer := answer_adopt t hshares.like call
  rwa [hshares.part _ hkept] at hanswer

/-- A call about a kept concern leaves both guards with the same parts. -/
theorem Shares.answer (hshares : h.Shares kept g) (hkept : kept call.concern = true) (t : Tree) :
    (h.answer t call).2.2.Shares kept (g.answer t call).2.2 := by
  rw [hshares.answer_eq hkept t]
  refine ⟨?_, fun k hk => ?_⟩
  · have hown : (h.adopt call.concern (g.answer t call).2.2).SetUpLike h :=
      setUpLike_adopt h _ _
    have hother : (g.adopt call.concern (g.answer t call).2.2).SetUpLike g :=
      setUpLike_adopt g _ _
    rw [adopt_answer] at hother
    exact ⟨hown.1.trans (hshares.like.1.trans hother.1.symm),
      hown.2.trans (hshares.like.2.trans hother.2.symm)⟩
  · show (h.adopt call.concern (g.answer t call).2.2).adopt k (g.answer t call).2.2 = _
    by_cases hown : k = call.concern
    · rw [hown, adopt_adopt]
      rfl
    · calc (h.adopt call.concern (g.answer t call).2.2).adopt k (g.answer t call).2.2
        _ = (h.adopt k (g.answer t call).2.2).adopt call.concern (g.answer t call).2.2 :=
          adopt_comm h _ _ hown
        _ = (h.adopt k g).adopt call.concern (g.answer t call).2.2 := by
          rw [← adopt_answer t g call, adopt_of_adopt h g _ hown]
        _ = h.adopt call.concern (g.answer t call).2.2 := by rw [hshares.part k hk]

/-- A call about another concern can be left out. -/
theorem Shares.of_dropped (hshares : h.Shares kept g) (hdropped : kept call.concern = false)
    (t : Tree) : h.Shares kept (g.answer t call).2.2 := by
  have hother : (g.adopt call.concern (g.answer t call).2.2).SetUpLike g := setUpLike_adopt g _ _
  rw [← adopt_answer t g call]
  refine ⟨⟨hshares.like.1.trans hother.1.symm, hshares.like.2.trans hother.2.symm⟩,
    fun k hk => ?_⟩
  have hne : k ≠ call.concern := by
    rintro rfl
    rw [hk] at hdropped
    cases hdropped
  rw [adopt_of_adopt h g _ hne, hshares.part k hk]

/-- Other files change the parts that are shared alike. -/
theorem Shares.follow (hshares : h.Shares kept g) (t : Tree) :
    (h.follow t).Shares kept (g.follow t) := by
  refine ⟨hshares.like, fun k hk => ?_⟩
  calc (h.follow t).adopt k (g.follow t)
    _ = (h.adopt k g).follow t := (follow_adopt t h g k).symm
    _ = h.follow t := by rw [hshares.part k hk]

/-- Where guards share the parts of the kept concerns, the calls about these say the same
without the others, and the guards share the parts afterwards. -/
theorem Shares.run (hshares : h.Shares kept g) (t : Tree) (events : List Event) :
    h.transcript t (events.filter (Event.isKept kept)) =
        (g.transcript t events).filter (Said.isKept kept) ∧
      (h.run t (events.filter (Event.isKept kept))).2.Shares kept (g.run t events).2 := by
  induction events generalizing h g t with
  | nil => exact ⟨rfl, hshares⟩
  | cons event more ih =>
      cases event with
      | files t' => exact ih (hshares.follow t') t'
      | call call =>
          cases hkept : kept call.concern with
          | true =>
              have hevent : Event.isKept kept (.call call) = true := hkept
              obtain ⟨hmore, hend⟩ := ih (hshares.answer hkept t) t
              have hsaid : Said.mk call (h.answer t call).1 (h.answer t call).2.1 =
                  ⟨call, (g.answer t call).1, (g.answer t call).2.1⟩ := by
                rw [hshares.answer_eq hkept t]
                rfl
              have hlisted : Said.isKept kept
                  ⟨call, (g.answer t call).1, (g.answer t call).2.1⟩ = true := hkept
              rw [List.filter_cons_of_pos hevent, transcript, transcript, hsaid, hmore]
              exact ⟨(List.filter_cons_of_pos hlisted).symm, hend⟩
          | false =>
              have hevent : ¬Event.isKept kept (.call call) = true :=
                ne_true_of_eq_false hkept
              obtain ⟨hmore, hend⟩ := ih (hshares.of_dropped hkept t) t
              have hlisted : ¬Said.isKept kept
                  ⟨call, (g.answer t call).1, (g.answer t call).2.1⟩ = true :=
                ne_true_of_eq_false hkept
              rw [List.filter_cons_of_neg hevent, transcript, hmore]
              exact ⟨(List.filter_cons_of_neg hlisted).symm, hend⟩

/-- The concerns of a guard do not interfere.  In any run, also after any other run, the calls
about the other concerns can be left out: those that are kept have the same replies and tell
the same, and the parts of their concerns are the same afterwards. -/
theorem concerns_stay_apart (g : Guard) (t : Tree) (kept : Concern → Bool)
    (events : List Event) :
    let said := g.transcript t events
    let saidAlone := g.transcript t (events.filter (Event.isKept kept))
    said.map (·.call) = calls events ∧ said.map (·.reply) = (g.run t events).1 ∧
      saidAlone.map (·.reply) = (g.run t (events.filter (Event.isKept kept))).1 ∧
      saidAlone = said.filter (Said.isKept kept) ∧
      ∀ k, kept k = true →
        (g.run t (events.filter (Event.isKept kept))).2.adopt k (g.run t events).2 =
          (g.run t (events.filter (Event.isKept kept))).2 := by
  obtain ⟨hsaid, hend⟩ := (Shares.refl kept g).run t events
  exact ⟨map_call_transcript g t events, map_reply_transcript g t events,
    map_reply_transcript g t _, hsaid, hend.part⟩

end Runs

end Guard
end RequestGuard
