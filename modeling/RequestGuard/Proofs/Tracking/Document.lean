import RequestGuard.Host.Lemmas
import RequestGuard.Tracking.TrackerList

/-!
# What a tracker list takes from its document

A document names trackers and, for a base host, hosts of the same entity.

* `mem_lastValues_iff`: of two values under one base the later one counts.
* `Describes` ties a list to a document and leaves the order open in which the entities of
  one site are put together; `describes_ofDocument` is the order that is used.
* `isTracker_iff`: walking up the names of a host finds a tracker if and only if the host
  lies within one.
* `Blocks` is what it means for a document that a request is blocked, and
  `blocks_eq_true_iff` says that a list that the document describes decides so.
-/

namespace RequestGuard
namespace TrackerList

section Hosts

theorem mem_hostsOf (names : List String) (h : String) :
    h ∈ hostsOf names ↔ ∃ x ∈ names, Host.normalize x = h ∧ h ≠ "" := by
  simp only [hostsOf, List.mem_filter, List.mem_map, Bool.not_eq_true', String.isEmpty_eq_false_iff]
  constructor
  · rintro ⟨⟨x, hx, rfl⟩, hne⟩
    exact ⟨x, hx, rfl, hne⟩
  · rintro ⟨x, hx, rfl, hne⟩
    exact ⟨⟨x, hx, rfl⟩, hne⟩

end Hosts

section LastValues

variable {α : Type}

theorem lookup_reverse_cons (p : String × α) (xs : List (String × α)) (k : String) :
    (p :: xs).reverse.lookup k = (xs.reverse.lookup k).or ([p].lookup k) := by
  rw [List.reverse_cons, List.lookup_append]

theorem lookup_reverse_eq_none_iff (xs : List (String × α)) (k : String) :
    xs.reverse.lookup k = none ↔ (xs.any fun q => q.1 == k) = false := by
  simp only [List.lookup_eq_none_iff, List.mem_reverse, List.any_eq_false, bne_iff_ne, ne_eq,
    beq_iff_eq]
  exact ⟨fun h p hp e => h p hp e.symm, fun h p hp e => h p hp e.symm⟩

theorem lookup_singleton (p : String × α) (k : String) :
    [p].lookup k = if k = p.1 then some p.2 else none := by
  by_cases hk : k = p.1
  · rw [List.lookup_cons, beq_iff_eq.2 hk, if_pos hk]
  · rw [List.lookup_cons, beq_eq_false_iff_ne.2 hk, if_neg hk, List.lookup_nil]

/-- The last value under a key is the first from the end. -/
theorem mem_lastValues_iff (xs : List (String × α)) (k : String) (v : α) :
    (k, v) ∈ lastValues xs ↔ xs.reverse.lookup k = some v := by
  induction xs with
  | nil => simp [lastValues]
  | cons p more ih =>
      rw [lookup_reverse_cons, lookup_singleton, lastValues]
      by_cases hlater : (more.any fun q => q.1 == p.1) = true
      · rw [if_pos hlater, ih]
        by_cases hk : k = p.1
        · -- the value under the key of `p` comes later
          have hsome : more.reverse.lookup k ≠ none := by
            rw [Ne, lookup_reverse_eq_none_iff, hk, hlater]
            exact Bool.false_ne_true.symm
          obtain ⟨w, hw⟩ := Option.ne_none_iff_exists'.1 hsome
          rw [hw, Option.some_or]
        · rw [if_neg hk, Option.or_none]
      · rw [if_neg hlater, List.mem_cons, ih]
        have hnone : more.reverse.lookup p.1 = none :=
          (lookup_reverse_eq_none_iff more p.1).2 (Bool.not_eq_true _ ▸ hlater)
        by_cases hk : k = p.1
        · subst hk
          rw [hnone, if_pos rfl, Option.none_or]
          simp [Prod.ext_iff, eq_comm]
        · rw [if_neg hk, Option.or_none]
          simp [Prod.ext_iff, hk]

end LastValues

section Entities

/-- Under a site stand the hosts that a base of the site has last. -/
theorem mem_entitiesOf (firstParty : List (String × List String)) (e : String × List String) :
    e ∈ entitiesOf firstParty ↔
      ∃ k hosts, firstParty.reverse.lookup k = some hosts ∧
        Host.site (Host.normalize k) = e.1 ∧ e.1 ≠ "" ∧ hostsOf hosts = e.2 := by
  simp only [entitiesOf, List.mem_filter, List.mem_map, Prod.exists, Prod.ext_iff,
    Bool.not_eq_true', String.isEmpty_eq_false_iff]
  constructor
  · rintro ⟨⟨k, hosts, hkey, hsite, hhosts⟩, hne⟩
    exact ⟨k, hosts, (mem_lastValues_iff firstParty k hosts).1 hkey, hsite, hne, hhosts⟩
  · rintro ⟨k, hosts, hkey, hsite, hne, hhosts⟩
    exact ⟨⟨k, hosts, (mem_lastValues_iff firstParty k hosts).2 hkey, hsite, hhosts⟩, hne⟩

end Entities

section Describes

/-- A list says what a document says; in what order entities of one site stand is left
open. -/
structure Describes (l : TrackerList) (d : Document) : Prop where
  trackers : ∀ h, h ∈ l.trackers ↔ h ∈ hostsOf d.trackers
  entities : l.entities.Perm (entitiesOf d.firstParty)

theorem describes_ofDocument (d : Document) : (ofDocument d).Describes d where
  trackers _ := List.mem_eraseDups
  entities := List.Perm.refl _

/-- A host is a tracker if it lies within a listed one. -/
theorem isTracker_iff {l : TrackerList} (hne : ∀ t ∈ l.trackers, t ≠ "") (host : String) :
    l.isTracker host = true ↔ ∃ t ∈ l.trackers, Host.isWithin host t = true := by
  simp only [isTracker, Host.chain, List.any_map, List.any_eq_true, Function.comp_apply,
    List.contains_iff_mem]
  constructor
  · rintro ⟨cs, hcs, hmem⟩
    refine ⟨_, hmem, (Host.isWithin_iff host _).2 ⟨hne _ hmem, ?_⟩⟩
    rcases (Host.mem_chainChars_iff host.toList cs).1 hcs with rfl | ⟨-, hsuffix⟩
    · exact Or.inl String.ofList_toList.symm
    · exact Or.inr (by rwa [String.toList_ofList])
  · rintro ⟨t, hmem, hwithin⟩
    obtain ⟨ht, hwithin⟩ := (Host.isWithin_iff host t).1 hwithin
    refine ⟨t.toList, (Host.mem_chainChars_iff host.toList t.toList).2 ?_, ?_⟩
    · rcases hwithin with rfl | hsuffix
      · exact Or.inl rfl
      · exact Or.inr ⟨by simpa using ht, hsuffix⟩
    · rwa [String.ofList_toList]

variable {l : TrackerList} {d : Document}

theorem Describes.isTracker_iff (hl : l.Describes d) (host : String) :
    l.isTracker host = true ↔
      ∃ x ∈ d.trackers, Host.normalize x ≠ "" ∧ Host.isWithin host (Host.normalize x) = true := by
  have hne : ∀ t ∈ l.trackers, t ≠ "" := by
    intro t ht
    obtain ⟨-, -, -, hne⟩ := (mem_hostsOf d.trackers t).1 ((hl.trackers t).1 ht)
    exact hne
  rw [TrackerList.isTracker_iff hne]
  constructor
  · rintro ⟨t, ht, hwithin⟩
    obtain ⟨x, hx, rfl, hxne⟩ := (mem_hostsOf d.trackers t).1 ((hl.trackers t).1 ht)
    exact ⟨x, hx, hxne, hwithin⟩
  · rintro ⟨x, hx, hxne, hwithin⟩
    exact ⟨_, (hl.trackers _).2 ((mem_hostsOf d.trackers _).2 ⟨x, hx, rfl, hxne⟩), hwithin⟩

theorem Describes.mem_sameEntity_iff (hl : l.Describes d) (base h : String) :
    h ∈ l.sameEntity base ↔
      ∃ k hosts, d.firstParty.reverse.lookup k = some hosts ∧
        Host.site (Host.normalize k) = Host.site base ∧ Host.site base ≠ "" ∧
        ∃ x ∈ hosts, Host.normalize x = h ∧ h ≠ "" := by
  rw [sameEntity]
  generalize Host.site base = site
  simp only [List.mem_flatMap, List.mem_filter, hl.entities.mem_iff, mem_entitiesOf,
    beq_iff_eq]
  constructor
  · rintro ⟨e, ⟨⟨k, hosts, hkey, hsite, hne, hhosts⟩, rfl⟩, hmem⟩
    rw [← hhosts] at hmem
    exact ⟨k, hosts, hkey, hsite, hne, (mem_hostsOf hosts h).1 hmem⟩
  · rintro ⟨k, hosts, hkey, hsite, hne, hmem⟩
    exact ⟨(site, hostsOf hosts), ⟨⟨k, hosts, hkey, hsite, hne, rfl⟩, rfl⟩,
      (mem_hostsOf hosts h).2 hmem⟩

end Describes

section Blocks

/-- Does a list block a host that a page on a base host asks for, where some hosts are let
pass?  All hosts are in normal form. -/
def blocks (l : TrackerList) (allowed : List String) (base host : String) : Bool :=
  !base.isEmpty && !host.isEmpty && Host.thirdParty base host && l.isTracker host &&
    !((l.sameEntity base).any fun h => Host.isWithin host h) && !allowed.contains host

/-- By a document, a page on a base host may not ask for a host. -/
structure Document.Blocks (d : Document) (allowed : String → Prop) (base host : String) :
    Prop where
  base_ne : base ≠ ""
  host_ne : host ≠ ""
  /-- The request leaves the site of the page. -/
  leaves : Host.site base ≠ Host.site host
  /-- The host lies within a tracker. -/
  listed : ∃ x ∈ d.trackers,
    Host.normalize x ≠ "" ∧ Host.isWithin host (Host.normalize x) = true
  /-- The host lies within no host of an entity of the page's site. -/
  foreign : ∀ k hosts, d.firstParty.reverse.lookup k = some hosts →
    Host.site (Host.normalize k) = Host.site base → Host.site base ≠ "" →
    ∀ x ∈ hosts, Host.normalize x ≠ "" → Host.isWithin host (Host.normalize x) = false
  not_allowed : ¬allowed host

variable {l : TrackerList} {d : Document}

theorem Describes.foreign_iff (hl : l.Describes d) (base host : String) :
    (l.sameEntity base).any (fun h => Host.isWithin host h) = false ↔
      ∀ k hosts, d.firstParty.reverse.lookup k = some hosts →
        Host.site (Host.normalize k) = Host.site base → Host.site base ≠ "" →
        ∀ x ∈ hosts, Host.normalize x ≠ "" →
          Host.isWithin host (Host.normalize x) = false := by
  simp only [List.any_eq_false, Bool.not_eq_true]
  constructor
  · intro hnone k hosts hkey hsite hne x hx hxne
    exact hnone _ ((hl.mem_sameEntity_iff base _).2
      ⟨k, hosts, hkey, hsite, hne, x, hx, rfl, hxne⟩)
  · intro hall h hmem
    obtain ⟨k, hosts, hkey, hsite, hne, x, hx, rfl, hxne⟩ :=
      (hl.mem_sameEntity_iff base h).1 hmem
    exact hall k hosts hkey hsite hne x hx hxne

/-- Only whether the host itself is let pass counts. -/
theorem Document.Blocks.of_imp {allowed allowed' : String → Prop} {base host : String}
    (h : d.Blocks allowed base host) (himp : host ≠ "" → allowed' host → allowed host) :
    d.Blocks allowed' base host :=
  { h with not_allowed := fun hallowed => h.not_allowed (himp h.host_ne hallowed) }

theorem Document.blocks_congr {allowed allowed' : String → Prop} {base host : String}
    (h : host ≠ "" → (allowed host ↔ allowed' host)) :
    d.Blocks allowed base host ↔ d.Blocks allowed' base host :=
  ⟨fun hb => hb.of_imp fun hne => (h hne).2, fun hb => hb.of_imp fun hne => (h hne).1⟩

/-- A list blocks what the document that it is from blocks. -/
theorem Describes.blocks_eq_true_iff (hl : l.Describes d) (allowed : List String)
    (base host : String) :
    l.blocks allowed base host = true ↔ d.Blocks (· ∈ allowed) base host := by
  have hleaves : Host.thirdParty base host = true ↔ Host.site base ≠ Host.site host := by
    simp [Host.thirdParty, Host.sameSite]
  simp only [blocks, Bool.and_eq_true, Bool.not_eq_true', String.isEmpty_eq_false_iff, hleaves,
    hl.isTracker_iff, hl.foreign_iff, List.contains_eq_mem, decide_eq_false_iff_not]
  constructor
  · rintro ⟨⟨⟨⟨⟨hbase, hhost⟩, hleaves⟩, hlisted⟩, hforeign⟩, hallowed⟩
    exact ⟨hbase, hhost, hleaves, hlisted, hforeign, hallowed⟩
  · rintro ⟨hbase, hhost, hleaves, hlisted, hforeign, hallowed⟩
    exact ⟨⟨⟨⟨⟨hbase, hhost⟩, hleaves⟩, hlisted⟩, hforeign⟩, hallowed⟩

end Blocks

end TrackerList
end RequestGuard
