import RequestGuard.Host.Bytes
import RequestGuard.Proofs.Host.Site
import RequestGuard.Proofs.Text.Utf8

/-!
# Host names ordered by their labels

A host lies within a domain if the labels of the domain end the labels of the host.

* `isWithinBytes?_bytes`: the bytes of two names decide this, and the byte that is looked at
  is there.
* `labels_suffix_iff`: labels end labels exactly where the names are equal, or one stands
  behind a dot of the other.
* `chainLaws`: to go up from a host is to meet the names that it lies within, one by one.
* `hosts_ordered_by_labels` puts these together.
-/

namespace RequestGuard
namespace Host

open Text

section Bytes

theorem cons_suffix_append_iff {α : Type} {b : α} {front back : List α} :
    (b :: back) <:+ (front ++ back) ↔ front.getLast? = some b := by
  rw [List.getLast?_eq_some_iff]
  constructor
  · rintro ⟨before, h⟩
    rw [List.append_cons] at h
    exact ⟨before, (List.append_cancel_right h).symm⟩
  · rintro ⟨before, rfl⟩
    exact ⟨before, List.append_cons before b back⟩

/-- In front of the end of a list stands the last of what precedes it. -/
theorem byteBefore?_append (front back : List UInt8) :
    byteBefore? (front ++ back) back.length = front.getLast? := by
  rw [byteBefore?, List.length_append, List.getLast?_eq_getElem?]
  cases front with
  | nil => simp
  | cons b more =>
      rw [if_pos (by simp), Nat.add_sub_cancel]
      exact List.getElem?_append_left (by simp)

/-- In front of an end that is not all there is stands something, and it tells how the end can
be made longer. -/
theorem exists_byteBefore? {whole back : List UInt8} (hlength : back.length < whole.length)
    (hsuffix : back <:+ whole) :
    ∃ b, byteBefore? whole back.length = some b ∧ ∀ c, (c :: back) <:+ whole ↔ b = c := by
  obtain ⟨front, rfl⟩ := hsuffix
  have hfilled : front ≠ [] := by
    rintro rfl
    exact Nat.lt_irrefl _ hlength
  have hlast := List.getLast?_eq_some_getLast hfilled
  refine ⟨front.getLast hfilled, (byteBefore?_append front back).trans hlast, fun c => ?_⟩
  rw [cons_suffix_append_iff, hlast, Option.some_inj]

theorem bytes_inj {a b : String} : Utf8.bytes a = Utf8.bytes b ↔ a = b := by
  rw [Utf8.bytes, Utf8.bytes, Utf8.encode_inj, String.toList_inj]

/-- The order of names, said on their bytes. -/
theorem isWithin_iff_bytes (host domain : String) :
    isWithin host domain = true ↔
      domain ≠ "" ∧ (host = domain ∨ (0x2E :: Utf8.bytes domain) <:+ Utf8.bytes host) := by
  have hdot : 0x2E :: Utf8.bytes domain = Utf8.encode ('.' :: domain.toList) := rfl
  rw [isWithin_iff, hdot, Utf8.bytes, Utf8.encode_suffix_iff (by decide)]

/-- The look at the byte in front of the domain never misses, and the bytes of two names tell
whether one lies within the other. -/
theorem isWithinBytes?_bytes (host domain : String) :
    isWithinBytes? (Utf8.bytes host) (Utf8.bytes domain) = some (isWithin host domain) := by
  rw [isWithinBytes?]
  split
  · next hempty =>
      obtain rfl : domain = "" := bytes_inj.1 (List.isEmpty_iff.1 hempty)
      rfl
  · next hempty =>
      have hdomain : domain ≠ "" := fun e => hempty (e ▸ rfl)
      split
      · next heq =>
          rw [bytes_inj.1 (beq_iff_eq.1 heq), isWithin_self hdomain]
      · next hne =>
          have hne : host ≠ domain := fun e => hne (beq_iff_eq.2 (bytes_inj.2 e))
          have hwithin : isWithin host domain = true ↔
              (0x2E :: Utf8.bytes domain) <:+ Utf8.bytes host := by
            rw [isWithin_iff_bytes]
            simp [hdomain, hne]
          split
          · next hend =>
              rw [Bool.and_eq_true, decide_eq_true_eq, List.isSuffixOf_iff_suffix] at hend
              obtain ⟨b, hb, hdot⟩ := exists_byteBefore? hend.1 hend.2
              rw [hb, Option.map_some, Option.some_inj, Bool.eq_iff_iff, hwithin, hdot,
                beq_iff_eq]
          · next hend =>
              refine congrArg some (Bool.eq_false_iff.2 fun h => hend ?_).symm
              have hsuffix := hwithin.1 h
              rw [Bool.and_eq_true, decide_eq_true_eq, List.isSuffixOf_iff_suffix]
              exact ⟨hsuffix.length_le, (List.suffix_cons _ _).trans hsuffix⟩

end Bytes

section Labels

variable {a b : String}

/-- The labels of a name end those of another one if the names are equal, or the first stands
behind a dot of the second. -/
theorem labels_suffix_iff (host domain : String) :
    labels domain <:+ labels host ↔
      host = domain ∨ ('.' :: domain.toList) <:+ host.toList := by
  constructor
  · intro h
    have hend := ofLabels_eq_or_suffix (fields_ne_nil '.' domain.toList) h
    rw [← labels, ofLabels_labels] at hend
    exact hend.imp_left Eq.symm
  · rintro (rfl | ⟨before, hsplit⟩)
    · exact List.suffix_refl _
    · rw [labels, labels, ← hsplit, fields_append_fields]
      exact List.suffix_append _ _

theorem isWithin_iff_labels (host domain : String) :
    isWithin host domain = true ↔ domain ≠ "" ∧ labels domain <:+ labels host := by
  rw [isWithin_iff, labels_suffix_iff]

/-- Names that lie within each other are equal. -/
theorem isWithin_antisymm (hab : isWithin a b = true) (hba : isWithin b a = true) : a = b := by
  obtain ⟨-, hab⟩ := (isWithin_iff_labels a b).1 hab
  obtain ⟨-, hba⟩ := (isWithin_iff_labels b a).1 hba
  rw [← ofLabels_labels a, ← ofLabels_labels b, hba.eq_of_length_le hab.length_le]

end Labels

section Chain

variable {host : String}

/-- A chain goes from a name to the name above it, and ends where there is none. -/
theorem getElem?_chainChars_succ (cs : List Char) (n : Nat) :
    (chainChars cs)[n + 1]? = (chainChars cs)[n]?.bind parentChars? := by
  fun_induction chainChars cs generalizing n with
  | case1 cs hnone =>
      cases n with
      | zero => exact hnone.symm
      | succ n => rfl
  | case2 cs ps hsome ih =>
      cases n with
      | zero =>
          rw [List.getElem?_cons_succ, chainChars_eq_cons ps]
          exact hsome.symm
      | succ n => exact ih n

theorem getElem?_chain_succ (host : String) (n : Nat) :
    (chain host)[n + 1]? = (chain host)[n]?.bind parent? := by
  have hparent : parent? ∘ String.ofList = fun cs => (parentChars? cs).map String.ofList := by
    funext cs
    rw [Function.comp_apply, parent?, String.toList_ofList]
  rw [chain, List.getElem?_map, List.getElem?_map, getElem?_chainChars_succ, Option.bind_map,
    Option.map_bind, hparent]
  rfl

/-- The names of a chain are those that the host lies within. -/
theorem mem_chain_iff (hhost : host ≠ "") (d : String) :
    d ∈ chain host ↔ isWithin host d = true := by
  have hd : d ∈ chain host ↔ d.toList ∈ chainChars host.toList := by
    rw [chain, List.mem_map]
    constructor
    · rintro ⟨cs, hcs, rfl⟩
      rwa [String.toList_ofList]
    · intro h
      exact ⟨d.toList, h, String.ofList_toList⟩
  rw [hd, mem_chainChars_iff, isWithin_iff, String.toList_inj]
  constructor
  · rintro (rfl | ⟨hne, hs⟩)
    · exact ⟨hhost, Or.inl rfl⟩
    · exact ⟨fun e => hne (e ▸ rfl), Or.inr hs⟩
  · rintro ⟨hne, rfl | hs⟩
    · exact Or.inl rfl
    · exact Or.inr ⟨fun e => hne (String.toList_eq_nil_iff.1 e), hs⟩

/-- What it means to go up from a host. -/
structure ChainLaws (host : String) : Prop where
  /-- The way up starts at the host. -/
  first : (chain host)[0]? = some host
  /-- It goes on with the name above, and ends where there is none. -/
  next : ∀ n, (chain host)[n + 1]? = (chain host)[n]?.bind parent?
  /-- It meets what the host lies within and nothing else. -/
  exact : ∀ d, d ∈ chain host ↔ isWithin host d = true
  /-- Every name is shorter than those before it. -/
  shorter : (chain host).Pairwise fun a b => b.utf8ByteSize < a.utf8ByteSize
  /-- No name is met twice. -/
  once : (chain host).Nodup

/-- What stands behind a dot of a text is shorter. -/
theorem utf8ByteSize_lt_of_dotted_suffix {a b : List Char} (h : ('.' :: b) <:+ a) :
    (String.ofList b).utf8ByteSize < (String.ofList a).utf8ByteSize := by
  obtain ⟨before, rfl⟩ := h
  rw [List.append_cons, String.ofList_append, String.ofList_append, String.utf8ByteSize_append,
    String.utf8ByteSize_append]
  have hdot : (String.ofList ['.']).utf8ByteSize = 1 := rfl
  omega

theorem chainLaws (hhost : host ≠ "") : ChainLaws host := by
  have hshorter : (chain host).Pairwise fun a b => b.utf8ByteSize < a.utf8ByteSize :=
    List.pairwise_map.2
      ((pairwise_chainChars host.toList).imp fun h => utf8ByteSize_lt_of_dotted_suffix h)
  refine ⟨?_, getElem?_chain_succ host, mem_chain_iff hhost, hshorter, ?_⟩
  · rw [chain, chainChars_eq_cons, List.map_cons, List.getElem?_cons_zero, String.ofList_toList]
  · refine hshorter.imp fun {a b} h heq => ?_
    exact Nat.lt_irrefl b.utf8ByteSize (heq ▸ h)

end Chain

/-- **Hosts are ordered by their labels.**  Whether a host lies within a domain is found from
their bytes, without a look at a byte that is not there, and holds exactly if the domain is not
empty and its labels end those of the host.  So every name that is not empty lies within itself,
no two names lie within each other, and what lies within a name lies within all that this name
lies within.  To go up from a host is to meet what the host lies within, each name once. -/
theorem hosts_ordered_by_labels (host domain other : String) :
    isWithinBytes? (Utf8.bytes host) (Utf8.bytes domain) = some (isWithin host domain) ∧
      (isWithin host domain = true ↔ domain ≠ "" ∧ labels domain <:+ labels host) ∧
      (isWithin host domain = true ∧ isWithin domain host = true ↔ host ≠ "" ∧ host = domain) ∧
      (isWithin host domain = true → isWithin domain other = true →
        isWithin host other = true) ∧
      (host ≠ "" → ChainLaws host) := by
  refine ⟨isWithinBytes?_bytes host domain, isWithin_iff_labels host domain, ⟨?_, ?_⟩,
    isWithin_trans, chainLaws⟩
  · rintro ⟨hab, hba⟩
    exact ⟨((isWithin_iff domain host).1 hba).1, isWithin_antisymm hab hba⟩
  · rintro ⟨hne, rfl⟩
    exact ⟨isWithin_self hne, isWithin_self hne⟩

/-- A label that is empty counts, and so does a dot behind a letter of two bytes. -/
theorem hosts_ordered_by_labels_empty_label :
    let host := "a.é..b"
    isWithin host ".b" = true ∧ isWithin ".b" "b" = true ∧ isWithin host "b" = true ∧
      isWithinBytes? (Utf8.bytes host) (Utf8.bytes ".b") = some true ∧
      labels ".b" <:+ labels host ∧ chain host = [host, "é..b", ".b", "b"] ∧
      ChainLaws host := by
  intro host
  have hin : isWithin host ".b" = true := by decide
  have habove : isWithin ".b" "b" = true := by decide
  obtain ⟨hbytes, hlabels, -, htrans, hchain⟩ := hosts_ordered_by_labels host ".b" "b"
  exact ⟨hin, habove, htrans hin habove, hin ▸ hbytes, (hlabels.1 hin).2, by decide +kernel,
    hchain (by decide)⟩

end Host
end RequestGuard
