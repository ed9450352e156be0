import RequestGuard.Files.Tree
import RequestGuard.Proofs.Text.Utf8

/-!
# New files in a tree

* `reckon?_of_walk`: a path that leads to a place means that place on paper.
* `walk_put`, `find_put`: a file at a place where nothing was does not change where other
  paths lead.
-/

namespace RequestGuard
namespace Files
namespace Tree

variable {t : Tree} {p q : Place}

section Steps

/-- A step is taken from a directory. -/
theorem lookup?_of_step {name : List Char} (h : t.step p name = .ok q) :
    t.lookup? p = some .directory := by
  rw [step] at h
  cases hp : t.lookup? p with
  | none =>
      rw [hp] at h
      cases h
  | some e =>
      cases e with
      | directory => rfl
      | file bytes =>
          rw [hp] at h
          cases h

theorem paperStep_of_step {name : List Char} (h : t.step p name = .ok q) :
    t.paperStep p name = some q := by
  have hp := lookup?_of_step h
  rw [step, hp] at h
  rw [paperStep, hp]
  dsimp only at h ⊢
  split at h
  · next hhere =>
      cases h
      rw [if_pos hhere]
  · next hhere =>
      rw [if_neg hhere]
      split at h
      · next hup =>
          cases h
          rw [if_pos hup]
      · next hup =>
          cases h
          rw [if_neg hup]

/-- What is not a directory is neither the root nor the working directory nor above it. -/
theorem isBase_eq_false (h : t.lookup? p ≠ some .directory) : p.isBase = false := by
  refine eq_false_of_ne_true fun hp => h ?_
  rw [lookup?, if_pos hp]

theorem isBase_of_absent (h : t.lookup? p = none) : p.isBase = false :=
  isBase_eq_false (by rw [h]; exact nofun)

theorem isBase_of_file {bytes : List UInt8} (h : t.lookup? p = some (.file bytes)) :
    p.isBase = false :=
  isBase_eq_false (t := t) (by simp [h])

theorem step_put {e : Entry} {name : List Char} {place : Place} (hq : t.lookup? q = none)
    (h : t.step p name = .ok place) : (t.put q e).step p name = .ok place := by
  have hp := lookup?_of_step h
  have hne : p ≠ q := by
    rintro rfl
    rw [hq] at hp
    cases hp
  rw [step, lookup?_put_of_ne t hne]
  exact h

end Steps

section Walks

variable {path : String}

/-- What holds at the end of a walk and before each of its steps holds at its start. -/
theorem walk_induction {motive : List (List Char) → Place → Prop} (hend : motive [] q)
    (hstep : ∀ p name more place, t.step p name = .ok place → motive more place →
      motive (name :: more) p) {names : List (List Char)}
    (h : names.foldlM t.step p = .ok q) : motive names p := by
  induction names generalizing p with
  | nil =>
      cases h
      exact hend
  | cons name more ih =>
      rw [List.foldlM_cons] at h
      cases hs : t.step p name with
      | error fault =>
          rw [hs] at h
          cases h
      | ok place =>
          rw [hs] at h
          exact hstep p name more place hs (ih h)

/-- A path that leads to a place means that place on paper. -/
theorem reckon?_of_walk (h : t.walk path = .ok p) : t.reckon? path = some p := by
  rw [walk] at h
  split at h
  · cases h
  · refine walk_induction (motive := fun names q => names.foldlM t.paperStep q = some p) rfl ?_ h
    intro q name more place hstep hmore
    rw [List.foldlM_cons, paperStep_of_step hstep]
    exact hmore

/-- A path leads to the same place after a file was made where nothing was. -/
theorem walk_put (e : Entry) (hq : t.lookup? q = none) (h : t.walk path = .ok p) :
    (t.put q e).walk path = .ok p := by
  rw [walk] at h ⊢
  split at h
  · cases h
  · next hempty =>
      rw [if_neg hempty]
      refine walk_induction
        (motive := fun names place => names.foldlM (t.put q e).step place = .ok p) rfl ?_ h
      intro place name more next hstep hmore
      rw [List.foldlM_cons, step_put hq hstep]
      exact hmore

theorem find_of_walk (h : t.walk path = .ok p) :
    t.find path =
      match t.lookup? p with
      | some e => .ok e
      | none => .error .absent := by
  rw [find, h]
  rfl

theorem find_put {x : Entry} (e : Entry) (hq : t.lookup? q = none) (h : t.find path = .ok x) :
    (t.put q e).find path = .ok x := by
  cases hwalk : t.walk path with
  | error fault =>
      rw [find, hwalk] at h
      cases h
  | ok p =>
      rw [find_of_walk hwalk] at h
      have hne : p ≠ q := by
        rintro rfl
        rw [hq] at h
        cases h
      rw [find_of_walk (walk_put e hq hwalk), lookup?_put_of_ne t hne]
      exact h

theorem readText_put {text : String} (e : Entry) (hq : t.lookup? q = none)
    (h : t.readText path = .ok text) : (t.put q e).readText path = .ok text := by
  rw [readText, read] at h ⊢
  cases hfind : t.find path with
  | error fault =>
      rw [hfind] at h
      cases h
  | ok x =>
      rw [find_put e hq hfind]
      rwa [hfind] at h

/-- Where nothing is, there is no file. -/
theorem isFile_eq_false (hwalk : t.walk path = .ok p) (habsent : t.lookup? p = none) :
    t.isFile path = false := by
  rw [isFile, find_of_walk hwalk, habsent]

/-- A file that is put where nothing was is a file. -/
theorem isFile_put (bytes : List UInt8) (hwalk : t.walk path = .ok p)
    (habsent : t.lookup? p = none) : (t.put p (.file bytes)).isFile path = true := by
  rw [isFile, find_of_walk (walk_put _ habsent hwalk), lookup?_put t (isBase_of_absent habsent)]

/-- The text of a file that was encoded. -/
theorem readText_of_walk {cs : List Char} (hwalk : t.walk path = .ok p)
    (h : t.lookup? p = some (.file (Text.Utf8.encode cs))) :
    t.readText path = .ok (String.ofList cs) := by
  have hread : t.read path = .ok (Text.Utf8.encode cs) := by
    rw [read, find_of_walk hwalk, h]
    rfl
  rw [readText, hread]
  simp only [bind, Except.bind, Text.Utf8.decode_encode]

end Walks

section Vacant

/-- A path that leads to a place where nothing is, in a directory that exists. -/
structure Vacant (t : Tree) (path : String) (p : Place) : Prop where
  /-- Every step is taken from a directory. -/
  walk : t.walk path = .ok p
  /-- Nothing is there. -/
  absent : t.lookup? p = none
  /-- The directory above exists. -/
  above : t.lookup? p.above = some .directory

end Vacant

end Tree
end Files
end RequestGuard
