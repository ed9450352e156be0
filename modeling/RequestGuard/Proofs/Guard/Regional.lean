import RequestGuard.Proofs.Guard.Concerns
import RequestGuard.Proofs.Guard.Lifecycle

/-!
# Which regional lists are loaded

The regional family of a guard is made of the lists that are meant for the locale and can be
loaded.

* `MeantFor` and `Loads` say which lists these are; `appliesTo_iff` and
  `regionalMatcher_eq_ok_iff` say that the selection and the loader go by them.
* `Taken`: the results of those members of a list that have one, in their order.  The matchers
  and the lines that are told are taken in this way (`taken_chosenMatchers`,
  `taken_regionalLog`).
* `withLists`: a guard that knows of other regional lists; `run_withLists`: as long as these
  come to the same matchers, it gives the same replies.
* `regional_init`: what a first load of the regional family does.
-/

namespace RequestGuard

namespace RuleFile

open Files

variable {f : RuleFile} {family : Family} {dataDir : String} {t : Tree} {bytes : List UInt8}

/-- What is loaded, by what the path of a file leads to. -/
theorem load_eq (f : RuleFile) (family : Family) (dataDir : String) (t : Tree) :
    f.load family dataDir t =
      match t.find (f.path dataDir) with
      | .ok (.file []) => .error (.dataInvalid family s!"'{f.path dataDir}' is empty")
      | .ok (.file bytes) => .ok bytes
      | _ => .error (.dataMissing (f.path dataDir)) := by
  rcases hfind : t.find (f.path dataDir) with fault | entry | bytes
  · simp only [load, resolve, Tree.isFile, hfind]
    rfl
  · simp only [load, resolve, Tree.isFile, hfind]
    rfl
  · simp only [load, resolve, Tree.isFile, hfind, if_pos, bind, Except.bind, Tree.read]
    cases bytes <;> rfl

/-- A file of rule data is loaded exactly if it is there and has content. -/
theorem load_eq_ok_iff :
    f.load family dataDir t = .ok bytes ↔
      t.find (f.path dataDir) = .ok (.file bytes) ∧ bytes ≠ [] := by
  rw [load_eq]
  rcases hfind : t.find (f.path dataDir) with fault | entry | content
  · exact ⟨nofun, fun h => nomatch h.1⟩
  · exact ⟨nofun, fun h => nomatch h.1⟩
  · cases content with
    | nil =>
        refine ⟨nofun, fun ⟨hcontent, hne⟩ => ?_⟩
        cases hcontent
        exact absurd rfl hne
    | cons b more =>
        constructor
        · rintro ⟨⟩
          exact ⟨rfl, List.cons_ne_nil b more⟩
        · rintro ⟨⟨⟩, -⟩
          rfl

end RuleFile

namespace Guard

open Files

section Lists

variable {α β : Type} {P : α → β → Prop} {as : List α} {bs : List β}

/-- The results of those members of a list that have one, in their order. -/
inductive Taken (P : α → β → Prop) : List α → List β → Prop
  | nil : Taken P [] []
  | take {a : α} {b : β} {as : List α} {bs : List β} (hresult : P a b) (hrest : Taken P as bs) :
      Taken P (a :: as) (b :: bs)
  | pass {a : α} {as : List α} {bs : List β} (hnone : ∀ b, ¬P a b) (hrest : Taken P as bs) :
      Taken P (a :: as) bs

theorem Taken.ne_nil_iff (h : Taken P as bs) : bs ≠ [] ↔ ∃ a ∈ as, ∃ b, P a b := by
  induction h with
  | nil => simp
  | take hresult _ _ => simpa using Or.inl ⟨_, hresult⟩
  | pass hnone _ ih => rw [ih]; simp [hnone]

/-- A search for results takes those of the members that have one. -/
theorem taken_filterMap {f : α → Option β} (hresult : ∀ a b, f a = some b → P a b)
    (hnone : ∀ a, f a = none → ∀ b, ¬P a b) (as : List α) : Taken P as (as.filterMap f) := by
  induction as with
  | nil => exact .nil
  | cons a more ih =>
      cases hfound : f a with
      | none =>
          rw [List.filterMap_cons_none hfound]
          exact .pass (hnone a hfound) ih
      | some b =>
          rw [List.filterMap_cons_some hfound]
          exact .take (hresult a b hfound) ih

end Lists

section Selection

/-- The list is enabled, or one of its languages is the language of the locale: what stands
before its first hyphen or underscore, if that is anything. -/
def MeantFor (l : RegionalList) (locale : String) : Prop :=
  l.enabled = true ∨ ∃ lang rest, locale.toList = lang ++ rest ∧ lang ≠ [] ∧
    (∀ c ∈ lang, c ≠ '-' ∧ c ≠ '_') ∧ (∀ c, rest.head? = some c → c = '-' ∨ c = '_') ∧
    ∃ x ∈ l.langs, Text.sameLetters x (String.ofList lang) = true

theorem appliesTo_iff (l : RegionalList) (locale : String) :
    l.appliesTo locale = true ↔ MeantFor l locale := by
  have happlies : l.appliesTo locale = true ↔ l.enabled = true ∨
      RegionalList.language locale ≠ "" ∧
        ∃ x ∈ l.langs, Text.sameLetters x (RegionalList.language locale) = true := by
    simp [RegionalList.appliesTo]
  rw [happlies, MeantFor]
  refine or_congr_right ⟨?_, ?_⟩
  · rintro ⟨hne, hlangs⟩
    refine ⟨_, _, List.takeWhile_append_dropWhile.symm, ?_, ?_, ?_, hlangs⟩
    · rintro hnil
      exact hne (congrArg String.ofList hnil)
    · intro c hc
      simpa using List.all_eq_true.1 List.all_takeWhile c hc
    · intro c hc
      have hsep := List.head?_dropWhile_not (fun c => decide (c ≠ '-') && decide (c ≠ '_'))
        locale.toList
      rw [hc] at hsep
      simpa [Decidable.or_iff_not_imp_left] using hsep
  · rintro ⟨lang, rest, hsplit, hne, hlang, hrest, hlangs⟩
    have hlanguage : RegionalList.language locale = String.ofList lang := by
      rw [RegionalList.language, hsplit, Text.takeWhile_append_of_head?]
      · intro c hc
        simpa using hlang c hc
      · intro c hc
        rcases hrest c hc with rfl | rfl <;> rfl
    rw [hlanguage]
    exact ⟨fun hempty => hne (by simpa using hempty), hlangs⟩

/-- The list has a file with content, from which the matcher is made. -/
def Loads (c : Config) (make : Matcher.Factory) (t : Tree) (l : RegionalList) (m : Matcher) :
    Prop :=
  ∃ bytes, t.find (l.file.path c.dataDir) = .ok (.file bytes) ∧ bytes ≠ [] ∧ make bytes = .ok m

variable {c : Config} {make : Matcher.Factory} {t : Tree} {l : RegionalList} {m : Matcher}

theorem regionalMatcher_eq_ok_iff :
    regionalMatcher c make t l = .ok m ↔ Loads c make t l m := by
  rw [regionalMatcher]
  constructor
  · intro h
    cases hload : l.file.load .regional c.dataDir t with
    | error f =>
        rw [hload] at h
        cases h
    | ok bytes =>
        rw [hload] at h
        obtain ⟨hfind, hne⟩ := RuleFile.load_eq_ok_iff.1 hload
        exact ⟨bytes, hfind, hne, h⟩
  · rintro ⟨bytes, hfind, hne, hmake⟩
    rw [RuleFile.load_eq_ok_iff.2 ⟨hfind, hne⟩]
    exact hmake

theorem toOption_regionalMatcher_eq_some_iff :
    (regionalMatcher c make t l).toOption = some m ↔ Loads c make t l m := by
  rw [← regionalMatcher_eq_ok_iff]
  cases regionalMatcher c make t l <;> simp [Except.toOption]

/-- A list that is meant for the locale and is loaded. -/
def Chosen (c : Config) (make : Matcher.Factory) (t : Tree) (l : RegionalList) (m : Matcher) :
    Prop :=
  MeantFor l c.locale ∧ Loads c make t l m

/-- The matchers of the lists that are chosen. -/
def chosenMatchers (c : Config) (make : Matcher.Factory) (t : Tree) : List Matcher :=
  c.selected.filterMap fun l => (regionalMatcher c make t l).toOption

theorem taken_chosenMatchers (c : Config) (make : Matcher.Factory) (t : Tree) :
    Taken (Chosen c make t) c.regional (chosenMatchers c make t) := by
  rw [chosenMatchers, Config.selected, List.filterMap_filter]
  refine taken_filterMap (fun l m h => ?_) (fun l h m hm => ?_) c.regional
  · rw [Option.ite_none_right_eq_some] at h
    exact ⟨(appliesTo_iff l c.locale).1 h.1, toOption_regionalMatcher_eq_some_iff.1 h.2⟩
  · rw [if_pos ((appliesTo_iff l c.locale).2 hm.1),
      toOption_regionalMatcher_eq_some_iff.2 hm.2] at h
    cases h

/-- The regional family can be loaded exactly if a list is chosen. -/
theorem regionalMatchers_cases (c : Config) (make : Matcher.Factory) (t : Tree) :
    (chosenMatchers c make t ≠ [] ∧
        regionalMatchers c make t = .ok (chosenMatchers c make t)) ∨
      (chosenMatchers c make t = [] ∧ ∃ f, regionalMatchers c make t = .error f) := by
  rw [regionalMatchers, chosenMatchers]
  split
  · next hempty =>
      rw [List.isEmpty_iff.1 hempty]
      exact Or.inr ⟨rfl, _, rfl⟩
  · split
    · next hnil => exact Or.inr ⟨hnil, _, rfl⟩
    · next hne => exact Or.inl ⟨hne, rfl⟩

/-- The line that is told about a list: that it was loaded, or why it was passed. -/
inductive Line (c : Config) (make : Matcher.Factory) (t : Tree) (l : RegionalList) :
    LogLine → Prop
  | loaded {m : Matcher} (hloads : Loads c make t l m) :
      Line c make t l ⟨.info, s!"Regional list '{l.title}' loaded with {m.ruleCount} rules"⟩
  | passed {f : Failure} (hnone : ∀ m, ¬Loads c make t l m)
      (hfails : regionalMatcher c make t l = .error f) :
      Line c make t l ⟨.warn, s!"Skipping regional list '{l.title}': {f.message}"⟩

theorem line_regionalLine (c : Config) (make : Matcher.Factory) (t : Tree) (l : RegionalList) :
    Line c make t l (regionalLine l (regionalMatcher c make t l)) := by
  cases hload : regionalMatcher c make t l with
  | ok m => exact .loaded (regionalMatcher_eq_ok_iff.1 hload)
  | error f =>
      refine .passed (fun m hm => ?_) hload
      rw [regionalMatcher_eq_ok_iff.2 hm] at hload
      cases hload

/-- There is one line for each list that is meant for the locale. -/
theorem taken_regionalLog (c : Config) (make : Matcher.Factory) (t : Tree) :
    Taken (fun l line => MeantFor l c.locale ∧ Line c make t l line) c.regional
      (regionalLog c make t) := by
  rw [regionalLog, Config.selected, ← List.filterMap_eq_map, List.filterMap_filter]
  refine taken_filterMap (fun l line h => ?_) (fun l h line hline => ?_) c.regional
  · rw [Option.ite_none_right_eq_some] at h
    obtain ⟨happlies, hline⟩ := h
    obtain rfl := Option.some.inj hline
    exact ⟨(appliesTo_iff l c.locale).1 happlies, line_regionalLine c make t l⟩
  · rw [if_pos ((appliesTo_iff l c.locale).2 hline.1)] at h
    cases h

end Selection

section Init

variable {g : Guard} {t : Tree}

/-- What a first load of the regional family comes to. -/
theorem initRegional_eq (h : g.regional.isLoaded = false) :
    let load := Load.ofExcept (regionalMatchers g.config g.makeMatcher t)
    let turn := ({ g.regional with attempted := true } : Lazy (List Matcher)).runLoad load
    g.initRegional t = (turn.answer?.getD false,
      regionalLog g.config g.makeMatcher t ++ turn.log, { g with regional := turn.lazy }) := by
  intro load turn
  have hvalue : g.regional.value? = none := by simpa [Lazy.isLoaded] using h
  have hran : turn.ran = true := by
    unfold turn load
    cases regionalMatchers g.config g.makeMatcher t <;> rfl
  rw [initRegional, Lazy.init_of_value?_eq_none hvalue]
  show (turn.answer?.getD false, turn.told _, _) = _
  rw [Lazy.Turn.told, hran]
  rfl

/-- What is answered, kept and told when the regional family is loaded for the first time. -/
theorem initRegional_spec (h : g.regional.isLoaded = false) :
    let ms := chosenMatchers g.config g.makeMatcher t
    (g.initRegional t).1 = !ms.isEmpty ∧
      (g.initRegional t).2.2.regional.value? = (if ms = [] then none else some ms) ∧
      ∃ last, (g.initRegional t).2.1 = regionalLog g.config g.makeMatcher t ++ last ∧
        (ms ≠ [] → last = []) ∧
        (ms = [] → ∃ f, last = [Lazy.warning g.regional.family f]) := by
  intro ms
  have hvalue : g.regional.value? = none := by simpa [Lazy.isLoaded] using h
  rw [initRegional_eq h]
  rcases regionalMatchers_cases g.config g.makeMatcher t with ⟨hne, hload⟩ | ⟨hnil, f, hload⟩
  · have hanswer : true = !ms.isEmpty := by simpa [ms] using hne
    rw [hload, if_neg hne]
    exact ⟨hanswer, rfl, [], rfl, fun _ => rfl, fun hnil => absurd hnil hne⟩
  · have hanswer : false = !ms.isEmpty := by simpa [ms] using hnil
    rw [hload, if_pos hnil]
    exact ⟨hanswer, hvalue, _, rfl, fun hne => absurd hnil hne, fun _ => ⟨f, rfl⟩⟩

end Init

section OtherLists

variable {ls : List RegionalList} {g : Guard} {t : Tree}

/-- A guard that knows of other regional lists. -/
def withLists (ls : List RegionalList) (g : Guard) : Guard :=
  { g with config := { g.config with regional := ls } }

/-- It does not matter which of the lists are known: the regional family is loaded, or would be
of the same matchers. -/
def IndifferentTo (ls : List RegionalList) (g : Guard) (t : Tree) : Prop :=
  g.regional.isLoaded = true ∨
    chosenMatchers { g.config with regional := ls } g.makeMatcher t =
      chosenMatchers g.config g.makeMatcher t

/-- Two turns with the same answer, after which the guards are alike but for their lists. -/
def AlikeBut {β : Type} (ls : List RegionalList) (turn' turn : β × List LogLine × Guard) : Prop :=
  turn'.1 = turn.1 ∧ turn'.2.2 = turn.2.2.withLists ls

theorem alikeBut_of_eq {β : Type} {answer : β} {log log' : List LogLine} {g' : Guard}
    (h : g' = g.withLists ls) : AlikeBut ls (answer, log', g') (answer, log, g) :=
  ⟨rfl, h⟩

theorem AlikeBut.ofTruth {turn' turn : Bool × List LogLine × Guard}
    (h : AlikeBut ls turn' turn) : AlikeBut ls (Turn.ofTruth turn') (Turn.ofTruth turn) :=
  ⟨congrArg Reply.truth h.1, h.2⟩

/-- A value that is loaded from the same matchers, or not at all, comes to the same. -/
theorem init_regional_congr {l : Lazy (List Matcher)} {c c' : Config} {make : Matcher.Factory}
    (h : l.isLoaded = true ∨ chosenMatchers c' make t = chosenMatchers c make t) :
    let turn := l.init fun _ => .ofExcept (regionalMatchers c make t)
    let turn' := l.init fun _ => .ofExcept (regionalMatchers c' make t)
    turn'.answer? = turn.answer? ∧ turn'.lazy = turn.lazy := by
  rcases hvalue : l.value? with _ | ms
  · have hsame := h.resolve_left (by simp [Lazy.isLoaded, hvalue])
    simp only [Lazy.init_of_value?_eq_none hvalue]
    rcases regionalMatchers_cases c make t with ⟨hne, hload⟩ | ⟨hnil, f, hload⟩ <;>
      rcases regionalMatchers_cases c' make t with ⟨hne', hload'⟩ | ⟨hnil', f', hload'⟩
    · rw [hload, hload', hsame]
      exact ⟨rfl, rfl⟩
    · exact absurd (hsame.symm.trans hnil') hne
    · exact absurd (hsame.trans hnil) hne'
    · rw [hload, hload']
      exact ⟨rfl, rfl⟩
  · simp only [Lazy.init_of_value?_eq_some hvalue, and_self]

theorem getOrAttempt_regional_congr {l : Lazy (List Matcher)} {c c' : Config}
    {make : Matcher.Factory}
    (h : l.isLoaded = true ∨ chosenMatchers c' make t = chosenMatchers c make t) :
    let turn := l.getOrAttempt fun _ => .ofExcept (regionalMatchers c make t)
    let turn' := l.getOrAttempt fun _ => .ofExcept (regionalMatchers c' make t)
    turn'.answer? = turn.answer? ∧ turn'.lazy = turn.lazy := by
  by_cases htried : l.isLoaded ∨ l.attempted
  · simp only [Lazy.getOrAttempt_of_tried htried, and_self]
  · obtain ⟨hanswer, hlazy⟩ := init_regional_congr (l := { l with attempted := true }) h
    simp only [Lazy.getOrAttempt, if_neg htried, hanswer, hlazy, and_self]

theorem initRegional_withLists (h : IndifferentTo ls g t) :
    AlikeBut ls ((g.withLists ls).initRegional t) (g.initRegional t) := by
  obtain ⟨hanswer, hlazy⟩ := init_regional_congr h
  exact ⟨congrArg (Option.getD · false) hanswer,
    congrArg (fun l => { g.withLists ls with regional := l }) hlazy⟩

theorem regionalNow_withLists (h : IndifferentTo ls g t) :
    AlikeBut ls ((g.withLists ls).regionalNow t) (g.regionalNow t) := by
  obtain ⟨hanswer, hlazy⟩ := getOrAttempt_regional_congr h
  exact ⟨congrArg Option.join hanswer,
    congrArg (fun l => { g.withLists ls with regional := l }) hlazy⟩

theorem blocksRegional_withLists (h : IndifferentTo ls g t) (r : Request) :
    AlikeBut ls ((g.withLists ls).blocksRegional t r) (g.blocksRegional t r) := by
  obtain ⟨hms, hguard⟩ := regionalNow_withLists h
  rw [blocksRegional, blocksRegional]
  rcases hnow : g.regionalNow t with ⟨ms, log, g₁⟩
  rcases hnow' : (g.withLists ls).regionalNow t with ⟨ms', log', g₁'⟩
  rw [hnow, hnow'] at hms hguard
  obtain rfl : ms' = ms := hms
  obtain rfl : g₁' = g₁.withLists ls := hguard
  cases ms' <;> exact ⟨rfl, rfl⟩

/-- The regional lists are asked of the guard that the filter list has left. -/
theorem blocksRequest_withLists (h : IndifferentTo ls g t) (r : Request) (regional : Bool) :
    AlikeBut ls ((g.withLists ls).blocksRequest t r regional) (g.blocksRequest t r regional) := by
  have hblocks : (g.withLists ls).adBlocks t r = g.adBlocks t r := rfl
  have hafter : IndifferentTo ls (g.adBlockNow t).2.2 t := h
  obtain ⟨hanswer, hguard⟩ := blocksRegional_withLists hafter r
  rw [blocksRequest_eq, blocksRequest_eq, hblocks]
  cases g.adBlocks t r with
  | true => exact ⟨rfl, rfl⟩
  | false =>
      cases regional with
      | true => exact ⟨hanswer, hguard⟩
      | false => exact ⟨rfl, rfl⟩

theorem trackingNow_withLists (ls : List RegionalList) (g : Guard) (t : Tree) :
    (g.withLists ls).trackingNow t =
      ((g.trackingNow t).1, (g.trackingNow t).2.1, (g.trackingNow t).2.2.withLists ls) := by
  have hload : trackerList (g.withLists ls).config t = trackerList g.config t := rfl
  have hlog : trackingLog (g.withLists ls).config t = trackingLog g.config t := rfl
  rw [trackingNow, trackingNow, hload, hlog]
  rfl

theorem httpsNow_withLists (ls : List RegionalList) (g : Guard) (t : Tree) :
    (g.withLists ls).httpsNow t =
      ((g.httpsNow t).1, (g.httpsNow t).2.1, (g.httpsNow t).2.2.withLists ls) := by
  have hload : ruleSource (g.withLists ls).config t = ruleSource g.config t := rfl
  have hlog : httpsLog (g.withLists ls).config t = httpsLog g.config t := rfl
  rw [httpsNow, httpsNow, hload, hlog]
  rfl

theorem relatedHosts_withLists (ls : List RegionalList) (g : Guard) (l : TrackerList)
    (base : String) :
    (g.withLists ls).relatedHosts l base =
      ((g.relatedHosts l base).1, (g.relatedHosts l base).2.withLists ls) := by
  have hrelated : (g.withLists ls).related = g.related := rfl
  rw [relatedHosts, relatedHosts, hrelated]
  cases g.related.peek? base <;> rfl

theorem blocksListed_withLists (ls : List RegionalList) (g : Guard) (l : TrackerList)
    (base host : String) :
    (g.withLists ls).blocksListed l base host =
      ((g.blocksListed l base host).1, (g.blocksListed l base host).2.withLists ls) := by
  rw [blocksListed, blocksListed, relatedHosts_withLists]
  split
  · rfl
  · split <;> rfl

theorem blocksTracker_withLists (ls : List RegionalList) (g : Guard) (t : Tree)
    (base host : String) :
    AlikeBut ls ((g.withLists ls).blocksTracker t base host) (g.blocksTracker t base host) := by
  rw [blocksTracker, blocksTracker, trackingNow_withLists]
  rcases g.trackingNow t with ⟨_ | l, log, g₁⟩
  · exact ⟨rfl, rfl⟩
  · have hlisted := blocksListed_withLists ls g₁ l (Host.normalize base) (Host.normalize host)
    rcases hfirst : g₁.blocksListed l (Host.normalize base) (Host.normalize host) with ⟨b, g₂⟩
    rw [hfirst] at hlisted
    simp only [hfirst, hlisted]
    exact ⟨rfl, rfl⟩

theorem allow_withLists (ls : List RegionalList) (g : Guard) (host : String) :
    (g.withLists ls).allow host = (g.allow host).withLists ls := by
  rw [allow, allow]
  show (if _ || g.allowed.contains _ then _ else _) = _
  split <;> rfl

/-- Which regional lists are known does not matter to a call, as long as they come to the same
matchers. -/
theorem answer_withLists (h : IndifferentTo ls g t) (call : Call) :
    AlikeBut ls ((g.withLists ls).answer t call) (g.answer t call) := by
  cases call with
  | initRegional => exact (initRegional_withLists h).ofTruth
  | tracker base host => exact (blocksTracker_withLists ls g t base host).ofTruth
  | allow host =>
      rw [answer, answer]
      exact alikeBut_of_eq (allow_withLists ls g host)
  | ad tab url resources regional =>
      have hblocks : AlikeBut ls ((g.withLists ls).blocksAd t tab url resources regional)
          (g.blocksAd t tab url resources regional) := by
        rw [blocksAd, blocksAd]
        cases Request.ofUrls? url tab resources with
        | none => exact ⟨rfl, rfl⟩
        | some r => exact blocksRequest_withLists h r regional
      exact hblocks.ofTruth
  | secure url request =>
      have hsecure : AlikeBut ls ((g.withLists ls).secureUrl t url request)
          (g.secureUrl t url request) := by
        rw [secureUrl, secureUrl, httpsNow_withLists]
        rcases g.httpsNow t with ⟨_ | s, log, g₁⟩ <;> exact ⟨rfl, rfl⟩
      rw [answer, answer]
      rcases hturn : g.secureUrl t url request with ⟨address, log, g₁⟩
      rcases hturn' : (g.withLists ls).secureUrl t url request with ⟨address', log', g₁'⟩
      rw [hturn, hturn'] at hsecure
      exact ⟨congrArg (fun answer? => (answer?.map Reply.address).getD .panicked) hsecure.1,
        hsecure.2⟩
  | secureFromCache url request =>
      have hsecure : (g.withLists ls).secureUrlFromCache url request =
          ((g.secureUrlFromCache url request).1,
            (g.secureUrlFromCache url request).2.withLists ls) := by
        rw [secureUrlFromCache, secureUrlFromCache]
        show (if g.https.isLoaded then _ else _) = _
        split <;> rfl
      rw [answer, answer, hsecure]
      exact ⟨rfl, rfl⟩
  | _ => exact ⟨rfl, rfl⟩

/-- A call leaves the configuration as it is. -/
theorem setUpLike_answer (g : Guard) (t : Tree) (call : Call) :
    (g.answer t call).2.2.SetUpLike g := by
  have hlike := setUpLike_adopt g (g.answer t call).2.2 call.concern
  rwa [adopt_answer] at hlike

theorem IndifferentTo.answer {t' : Tree} (h : IndifferentTo ls g t') (t : Tree) (call : Call) :
    IndifferentTo ls (g.answer t call).2.2 t' := by
  obtain ⟨hconfig, hmake⟩ := setUpLike_answer g t call
  rw [IndifferentTo, hconfig, hmake]
  refine h.imp_left fun hloaded => ?_
  obtain ⟨ms, hvalue⟩ := Option.isSome_iff_exists.1 hloaded
  have hkept := value?_answer (f := .regional) hvalue t call
  exact Option.isSome_iff_exists.2 ⟨ms, hkept⟩

/-- The files that come up in a run. -/
def treesOf : List Event → List Tree
  | [] => []
  | .files t :: more => t :: treesOf more
  | .call _ :: more => treesOf more

/-- A run has the same replies, as long as the lists come to the same matchers. -/
theorem run_withLists {events : List Event}
    (h : ∀ t' ∈ t :: treesOf events, IndifferentTo ls g t') :
    ((g.withLists ls).run t events).1 = (g.run t events).1 := by
  induction events generalizing g t with
  | nil => rfl
  | cons event more ih =>
      cases event with
      | files t₁ =>
          exact ih (g := g.follow t₁) fun t' ht' => h t' (List.mem_cons_of_mem _ ht')
      | call call =>
          obtain ⟨hreply, hguard⟩ := answer_withLists (h t List.mem_cons_self) call
          have hmore := ih (g := (g.answer t call).2.2) fun t' ht' => (h t' ht').answer t call
          rw [run, run]
          show _ :: (((g.withLists ls).answer t call).2.2.run t more).1 = _
          rw [hguard, hmore, hreply]

end OtherLists

section Removal

variable {c : Config} {make : Matcher.Factory} {t : Tree}
variable {before after : List RegionalList} {l : RegionalList}

/-- A list that is not meant for the locale, or is not loaded, adds no matcher. -/
theorem chosenMatchers_removed (hlists : c.regional = before ++ l :: after)
    (hpassed : MeantFor l c.locale → ∀ m, ¬Loads c make t l m) :
    chosenMatchers { c with regional := before ++ after } make t = chosenMatchers c make t := by
  have hnone : ([l].filter (·.appliesTo c.locale)).filterMap
      (fun l => (regionalMatcher c make t l).toOption) = [] := by
    by_cases happlies : l.appliesTo c.locale = true
    · have hfails : (regionalMatcher c make t l).toOption = none := by
        refine Option.eq_none_iff_forall_ne_some.2 fun m hm => ?_
        exact hpassed ((appliesTo_iff l c.locale).1 happlies) m
          (toOption_regionalMatcher_eq_some_iff.1 hm)
      simp [happlies, hfails]
    · simp [happlies]
  show ((before ++ after).filter (·.appliesTo c.locale)).filterMap
      (fun l => (regionalMatcher c make t l).toOption) = _
  rw [chosenMatchers, Config.selected, hlists, ← List.singleton_append, List.filter_append,
    List.filter_append, List.filter_append, List.filterMap_append, List.filterMap_append,
    List.filterMap_append, hnone, List.nil_append]

end Removal

section Results

variable {g : Guard} {t : Tree}

/-- What a load of the regional family does. -/
structure RegionalInit (g : Guard) (t : Tree) : Prop where
  /-- It succeeds exactly if a list is meant for the locale and is loaded. -/
  answers : (g.initRegional t).1 = true ↔
    ∃ l ∈ g.config.regional, ∃ m, Chosen g.config g.makeMatcher t l m
  /-- The matchers of exactly these lists are kept, in the order of the configuration. -/
  keeps : ∃ ms, Taken (Chosen g.config g.makeMatcher t) g.config.regional ms ∧
    (g.initRegional t).2.2.regional.value? = if ms = [] then none else some ms
  /-- One line is told about each list that is meant for the locale, in this order; then, if
  there is no matcher, a warning for the family. -/
  tells : ∃ lines last, (g.initRegional t).2.1 = lines ++ last ∧
    Taken (fun l line => MeantFor l g.config.locale ∧ Line g.config g.makeMatcher t l line)
      g.config.regional lines ∧
    ((g.initRegional t).1 = true → last = []) ∧
    ((g.initRegional t).1 = false → ∃ f, last = [Lazy.warning g.regional.family f])
  /-- Without a list that is not meant for the locale, or is not loaded, the load comes to the
  same, and so does every call after it; if there is no matcher, then as long as there is none
  to be had from the list. -/
  removal : ∀ before l after, g.config.regional = before ++ l :: after →
    (MeantFor l g.config.locale → ∀ m, ¬Loads g.config g.makeMatcher t l m) →
    let h := g.withLists (before ++ after)
    (h.initRegional t).1 = (g.initRegional t).1 ∧
      (h.initRegional t).2.2.regional.value? = (g.initRegional t).2.2.regional.value? ∧
      ∀ events, ((g.initRegional t).1 = false → MeantFor l g.config.locale →
          ∀ t' ∈ treesOf events, ∀ m, ¬Loads g.config g.makeMatcher t' l m) →
        ((h.initRegional t).2.2.run t events).1 = ((g.initRegional t).2.2.run t events).1

/-- **The regional family is made of the lists that are meant for the locale and can be
loaded.**  A call that loads it when it is not loaded succeeds exactly if there is such a list,
keeps the matchers of exactly these lists in the order of the configuration, and tells one line
about each list that is meant for the locale.  A list that is not meant for the locale or cannot
be loaded might as well not be known. -/
theorem regional_init (h : g.regional.isLoaded = false) : RegionalInit g t := by
  obtain ⟨hanswer, hvalue, last, hlog, hsuccess, hfailure⟩ := initRegional_spec (t := t) h
  have htaken := taken_chosenMatchers g.config g.makeMatcher t
  have hanswer' : (g.initRegional t).1 = true ↔
      chosenMatchers g.config g.makeMatcher t ≠ [] := by
    rw [hanswer]
    simp
  refine ⟨hanswer'.trans htaken.ne_nil_iff, ⟨_, htaken, hvalue⟩,
    ⟨_, last, hlog, taken_regionalLog _ _ _, fun hyes => hsuccess (hanswer'.1 hyes), ?_⟩, ?_⟩
  · intro hno
    refine hfailure (Decidable.byContradiction fun hne => ?_)
    rw [hanswer'.2 hne] at hno
    cases hno
  · intro before l after hlists hpassed h'
    have hsame := chosenMatchers_removed hlists hpassed
    have hinit : AlikeBut (before ++ after) (h'.initRegional t) (g.initRegional t) :=
      initRegional_withLists (Or.inr hsame)
    refine ⟨hinit.1, by rw [hinit.2]; rfl, fun events hlater => ?_⟩
    rw [hinit.2]
    refine run_withLists fun t' ht' => ?_
    cases hloaded : (g.initRegional t).1 with
    | true =>
        refine Or.inl ?_
        rw [Lazy.isLoaded, hvalue, if_neg (hanswer'.1 hloaded)]
        rfl
    | false =>
        refine Or.inr ?_
        have hpassed' : MeantFor l g.config.locale →
            ∀ m, ¬Loads g.config g.makeMatcher t' l m := by
          intro hmeant
          rcases List.mem_cons.1 ht' with rfl | ht'
          · exact hpassed hmeant
          · exact hlater hloaded hmeant t' ht'
        exact chosenMatchers_removed hlists hpassed'

/-- A list for some languages. -/
def languageList (langs : List String) (fileName : String) : RegionalList :=
  { RegionalList.blank with title := fileName, langs := langs, file := ⟨"1", fileName⟩ }

/-- A configuration with two lists for one locale and one for another. -/
def threeLists : Config :=
  { Config.standard with
    locale := "de-CH"
    regional := [languageList ["de"] "zero.txt", languageList ["fr"] "french.txt",
      languageList ["at", "DE"] "german.txt"] }

/-- The files of these lists. -/
def threeFiles : Tree :=
  ((Tree.empty.write "1/zero.txt" (.file [0])).write "1/french.txt" (.file [1])).write
    "1/german.txt" (.file [1])

/-- Data that start with zero are no filter list. -/
def refuseZero : Matcher.Factory
  | 0 :: _ => .error (.dataInvalid .regional "no rules")
  | _ => .ok (.constant .block)

/-- Of three lists, one is refused, one is for another language, and one is loaded; the refused
one can be left out. -/
theorem regional_init_three :
    let g := start threeLists refuseZero
    let fewer := [languageList ["fr"] "french.txt", languageList ["at", "DE"] "german.txt"]
    let question := Event.call (.ad "https://a.com/" "https://t.io/x" (.single .script) true)
    g.regional.isLoaded = false ∧ (g.initRegional threeFiles).1 = true ∧
      (((g.withLists fewer).initRegional threeFiles).2.2.run threeFiles
          [.files .empty, question]).1 =
        ((g.initRegional threeFiles).2.2.run threeFiles [.files .empty, question]).1 := by
  intro g fewer question
  have hfresh : g.regional.isLoaded = false := rfl
  have hinit : g.RegionalInit threeFiles := regional_init hfresh
  have hgerman : Chosen threeLists refuseZero threeFiles (languageList ["at", "DE"] "german.txt")
      (.constant .block) :=
    ⟨(appliesTo_iff _ _).1 rfl, [1], rfl, List.cons_ne_nil _ _, rfl⟩
  have hrefused (m : Matcher) :
      ¬Loads threeLists refuseZero threeFiles (languageList ["de"] "zero.txt") m := by
    intro hm
    have hfails : regionalMatcher threeLists refuseZero threeFiles
        (languageList ["de"] "zero.txt") = .error (.dataInvalid .regional "no rules") := rfl
    rw [regionalMatcher_eq_ok_iff.2 hm] at hfails
    cases hfails
  have hanswer : (g.initRegional threeFiles).1 = true :=
    hinit.answers.2 ⟨_, by simp [g, start, threeLists], _, hgerman⟩
  obtain ⟨-, -, hrun⟩ := hinit.removal [] _ fewer rfl fun _ => hrefused
  refine ⟨hfresh, hanswer, hrun _ fun hno => ?_⟩
  rw [hanswer] at hno
  cases hno

end Results

end Guard
end RequestGuard
