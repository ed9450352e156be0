import RequestGuard.Json.Value

/-!
# What readers can answer

What holds of every value that a reader answers, on whatever bytes it is.

* `Gives r P`: every value that the reader `r` answers has the property `P`.  This goes through
  readers one after the other, brackets, and the members of an object.
* `ascending_readKeyed`: the members of an object that is read by its keys are in ascending
  order of these.
-/

namespace RequestGuard
namespace Json
namespace Reader

variable {α β σ : Type}

section Gives

/-- Every value that the reader answers has the property. -/
def Gives (r : Reader α) (P : α → Prop) : Prop :=
  ∀ c a c', r c = .ok a c' → P a

variable {r : Reader α} {f : α → Reader β} {P : α → Prop} {Q : β → Prop}

theorem gives_pure {a : α} (h : P a) : Gives (pure a) P := by
  intro c b c' hb
  cases hb
  exact h

theorem gives_failHere (cause : Cause) : Gives (failHere cause) P :=
  nofun

theorem gives_failNext (cause : Cause) : Gives (failNext cause) P :=
  nofun

theorem Gives.bind (hr : Gives r P) (hf : ∀ a, P a → Gives (f a) Q) : Gives (r >>= f) Q := by
  intro c b c' hb
  simp only [Bind.bind] at hb
  cases hrun : r c with
  | fail fault c₁ =>
      rw [hrun] at hb
      cases hb
  | ok a c₁ =>
      rw [hrun] at hb
      exact hf a (hr c a c₁ hrun) c₁ b c' hb

/-- What comes before does not matter where nothing is known of it. -/
theorem gives_bind (hf : ∀ a, Gives (f a) Q) : Gives (r >>= f) Q :=
  Gives.bind (P := fun _ => True) (fun _ _ _ _ => trivial) fun a _ => hf a

theorem Gives.placed (hr : Gives r P) : Gives (placed r) P := by
  intro c a c' ha
  rw [Reader.placed] at ha
  cases hrun : r c with
  | fail fault c₁ =>
      rw [hrun] at ha
      cases ha
  | ok b c₁ =>
      rw [hrun] at ha
      obtain ⟨rfl, -⟩ := Outcome.ok.inj ha
      exact hr c b c₁ hrun

theorem Gives.closedBy (hr : Gives r P) (finish : Reader Unit) : Gives (closedBy r finish) P := by
  refine Gives.placed fun c a c' ha => ?_
  cases hrun : r c with
  | fail fault c₁ =>
      rw [hrun] at ha
      dsimp only at ha
      split at ha <;> cases ha
  | ok b c₁ =>
      rw [hrun] at ha
      exact gives_bind (r := finish) (fun _ => gives_pure (hr c b c₁ hrun)) c₁ a c' ha

theorem gives_byFirst {read : UInt8 → Reader α} (h : ∀ b, Gives (read b) P) :
    Gives (byFirst read) P := by
  refine gives_bind fun first => ?_
  cases first with
  | none => exact gives_failNext _
  | some b => exact h b

theorem gives_refuse (expected : String) (b : UInt8) : Gives (refuse expected b) P :=
  gives_bind fun _ => gives_failHere _

/-- What one member keeps is kept by all of them. -/
theorem gives_membersFrom {member : σ → String → Reader σ} {P : σ → Prop}
    (hmember : ∀ s key, P s → Gives (member s key) P) (fuel : Nat) (first : Bool) {s : σ}
    (hs : P s) : Gives (membersFrom member fuel first s) P := by
  induction fuel generalizing first s with
  | zero => exact gives_failNext _
  | succ fuel ih =>
      refine gives_bind fun another => ?_
      cases another with
      | false => exact gives_pure hs
      | true =>
          exact gives_bind fun _ => gives_bind fun key =>
            (hmember s key hs).bind fun _ => ih false

theorem gives_members {member : σ → String → Reader σ} {P : σ → Prop}
    (hmember : ∀ s key, P s → Gives (member s key) P) {start : σ} (hstart : P start) :
    Gives (members member start) P :=
  fun c => gives_membersFrom hmember (c.rest.length + 1) true hstart c

theorem Gives.ofText (hr : Gives r P) {bytes : List UInt8} {a : α}
    (h : r.ofText bytes = .ok a) : P a := by
  rw [Reader.ofText] at h
  split at h
  · next b stop hrun =>
      cases h
      refine Gives.bind hr (fun a ha => gives_bind fun next => ?_) _ _ _ hrun
      cases next with
      | none => exact gives_pure ha
      | some b => exact gives_failNext _
  · cases h

end Gives

end Reader

namespace Value

open Reader

section Ascending

variable {α : Type}

/-- The keys of pairs are in ascending order. -/
def Ascending (pairs : List (String × α)) : Prop :=
  pairs.Pairwise fun p q => p.1 < q.1

theorem mem_put {key : String} {a : α} {pairs : List (String × α)} {q : String × α}
    (h : q ∈ put key a pairs) : q.1 = key ∨ q ∈ pairs := by
  induction pairs with
  | nil => simp_all [put]
  | cons p more ih =>
      obtain ⟨k, b⟩ := p
      rw [put] at h
      split at h
      · rcases List.mem_cons.1 h with rfl | h
        · exact Or.inl rfl
        · exact Or.inr (List.mem_cons_of_mem _ h)
      · split at h
        · rcases List.mem_cons.1 h with rfl | h
          · exact Or.inl rfl
          · exact Or.inr h
        · rcases List.mem_cons.1 h with rfl | h
          · exact Or.inr List.mem_cons_self
          · exact (ih h).imp_right (List.mem_cons_of_mem _)

theorem Ascending.put {pairs : List (String × α)} (h : Ascending pairs) (key : String) (a : α) :
    Ascending (put key a pairs) := by
  induction pairs with
  | nil => exact List.pairwise_singleton _ _
  | cons p more ih =>
      obtain ⟨k, b⟩ := p
      obtain ⟨hk, hmore⟩ := List.pairwise_cons.1 h
      rw [Value.put]
      split
      · next heq =>
          subst heq
          exact List.pairwise_cons.2 ⟨hk, hmore⟩
      · next hne =>
          split
          · next hlt =>
              refine List.pairwise_cons.2 ⟨fun q hq => ?_, h⟩
              rcases List.mem_cons.1 hq with rfl | hq
              · exact hlt
              · exact String.lt_trans hlt (hk q hq)
          · next hnot =>
              refine List.pairwise_cons.2 ⟨fun q hq => ?_, ih hmore⟩
              rcases mem_put hq with hkey | hq
              · rw [hkey]
                refine String.not_le.1 fun hle => hne ?_
                exact String.le_antisymm hle (String.not_lt.1 hnot)
              · exact hk q hq

/-- The members of an object that is read by its keys are in ascending order of these. -/
theorem ascending_readKeyed {bytes : List UInt8} {members : List (String × Value)}
    (h : readKeyed.ofText bytes = .ok members) : Ascending members := by
  have hgives : Gives readKeyed Ascending := by
    refine gives_byFirst fun b => ?_
    split
    · refine Gives.closedBy (gives_bind fun _ => ?_) objectEnd
      refine gives_members (fun pairs key hpairs => ?_) List.Pairwise.nil
      exact gives_bind fun _ => gives_bind fun a => gives_pure (hpairs.put key a)
    · exact gives_refuse _ b
  exact hgives.ofText h

end Ascending

end Value
end Json
end RequestGuard
