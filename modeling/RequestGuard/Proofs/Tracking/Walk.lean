import RequestGuard.Proofs.Text.Numerals
import RequestGuard.Proofs.Tracking.Document

/-!
# The walk up the names of a host

A tracker is looked for by going up from a host, name by name, with a look into the set of
listed names each time.

* `length_chain_le`: the walk meets no more names than the host has labels.
* `mem_trackers_ofDocument`: the set holds what is left of the names of the document in normal
  form, and nothing that is empty or ends in a dot (`listed_of_mem_trackers`).
* `isTracker_iff_scan`: the walk finds a name exactly where a look through the whole set finds
  one that the host lies within.
-/

namespace RequestGuard

namespace Host

/-- A host has no more names in its chain than labels; behind a final dot there is no name. -/
theorem length_chain_le (host : String) : (chain host).length ≤ (labels host).length := by
  have hchars : ∀ cs, (chainChars cs).length ≤ (Text.fields '.' cs).length := by
    intro cs
    fun_induction chainChars cs with
    | case1 cs hnone =>
        exact List.length_pos_iff.2 (Text.fields_ne_nil '.' cs)
    | case2 cs ps hsome ih =>
        obtain ⟨-, before, hno, rfl⟩ := (parentChars?_eq_some_iff cs ps).1 hsome
        rw [Text.fields_append hno, List.length_cons, List.length_cons]
        exact Nat.succ_le_succ ih
  rw [chain, List.length_map]
  exact hchars host.toList

end Host

namespace TrackerList

section Reading

variable {bytes : List UInt8} {l : TrackerList}

/-- A list that was read is the list of a document. -/
theorem exists_document_of_ofBytes (hread : ofBytes bytes = .ok l) :
    ∃ d, Document.record.read.ofText bytes = .ok d ∧ l = ofDocument d := by
  rw [ofBytes] at hread
  split at hread
  · next d hd => exact ⟨d, hd, (Except.ok.inj hread).symm⟩
  · cases hread

theorem mem_trackers_ofDocument (d : Document) (t : String) :
    t ∈ (ofDocument d).trackers ↔ ∃ x ∈ d.trackers, Host.normalize x = t ∧ t ≠ "" :=
  ((describes_ofDocument d).trackers t).trans (mem_hostsOf d.trackers t)

/-- A listed name is not empty and does not end in a dot. -/
theorem listed_of_mem_trackers {d : Document} {t : String} (ht : t ∈ (ofDocument d).trackers) :
    t ≠ "" ∧ t.toList.getLast? ≠ some '.' := by
  obtain ⟨x, -, rfl, hne⟩ := (mem_trackers_ofDocument d t).1 ht
  exact ⟨hne, Host.getLast?_normalize x⟩

end Reading

section Walk

/-- **The walk is a scan.**  The set of a document that can be read holds the normal forms of
the names that the document lists, as far as anything is left of them.  For any host, in
normal form or not, a walk up its names, which meets at most as many names as there are
labels, finds one of the set exactly where the host lies within one of the set. -/
theorem isTracker_iff_scan {bytes : List UInt8} {l : TrackerList} (hread : ofBytes bytes = .ok l) :
    (∃ d, Document.record.read.ofText bytes = .ok d ∧
      ∀ t, t ∈ l.trackers ↔ ∃ x ∈ d.trackers, Host.normalize x = t ∧ t ≠ "") ∧
    (∀ t ∈ l.trackers, t ≠ "" ∧ t.toList.getLast? ≠ some '.') ∧
    ∀ host : String, (Host.chain host).length ≤ (Host.labels host).length ∧
      (l.isTracker host = true ↔ ∃ t ∈ l.trackers, Host.isWithin host t = true) := by
  obtain ⟨d, hd, rfl⟩ := exists_document_of_ofBytes hread
  refine ⟨⟨d, hd, mem_trackers_ofDocument d⟩, fun t => listed_of_mem_trackers, fun host => ?_⟩
  exact ⟨Host.length_chain_le host,
    isTracker_iff (fun t ht => (listed_of_mem_trackers ht).1) host⟩

/-- A listed name has capitals, a blank and a final dot.  It is found above a host with an
empty label, and not above one that ends in a dot itself. -/
theorem isTracker_iff_scan_ads :
    let bytes := Text.Utf8.bytes "\x7b\"trackers\":[\" Ads.IO.\",\"..\"]\x7d"
    let l := TrackerList.ofDocument ⟨[" Ads.IO.", ".."], []⟩
    ofBytes bytes = .ok l ∧ l.trackers = ["ads.io"] ∧
      (l.isTracker "a..ads.io" = true ∧ ∃ t ∈ l.trackers, Host.isWithin "a..ads.io" t = true) ∧
      (l.isTracker "ads.io." = false ∧ ¬∃ t ∈ l.trackers, Host.isWithin "ads.io." t = true) := by
  intro bytes l
  have hread : ofBytes bytes = .ok l := by
    have hoption : (ofBytes bytes).toOption = some l := by
      unfold bytes l
      decide +kernel
    generalize ofBytes bytes = read at hoption ⊢
    cases read with
    | error fault => cases hoption
    | ok l' => exact congrArg Except.ok (Option.some.inj hoption)
  have htrackers : l.trackers = ["ads.io"] := by
    unfold l
    decide +kernel
  obtain ⟨-, -, hscan⟩ := isTracker_iff_scan hread
  have hin : ∃ t ∈ l.trackers, Host.isWithin "a..ads.io" t = true := by
    rw [htrackers]
    decide +kernel
  have hout : ¬∃ t ∈ l.trackers, Host.isWithin "ads.io." t = true := by
    rw [htrackers]
    decide +kernel
  refine ⟨hread, htrackers, ⟨(hscan _).2.2 hin, hin⟩, ?_, hout⟩
  exact Bool.eq_false_iff.2 fun h => hout ((hscan _).2.1 h)

end Walk

end TrackerList
end RequestGuard
