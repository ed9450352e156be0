import RequestGuard.Proofs.Files.Tree
import RequestGuard.Proofs.Json.Lookup
import RequestGuard.Proofs.Text.Numerals
import RequestGuard.Proofs.Text.Utf8
import RequestGuard.Upgrade.RuleStore

/-!
# Databases in files

What becomes of rules that are stored in a database of which there is no file yet.

* `Database.ofBytes_bytes`: a database is read as it was written.
* `Table.replacedAll_of_nodup`: hosts that are given rules once are all kept, in their order.
* `RuleStore.databaseAt_saved`: the file of a store that was saved holds its database.
* `RuleStore.connect_of_vacant` makes the file, and `RuleStore.openIn_put` opens the database
  in it.
-/

namespace RequestGuard
namespace Upgrade

open Files Json

namespace Notation

/-- A marked text is read in front of others. -/
theorem unmarked?_marked (cs rest : List Char) :
    unmarked? (marked cs ++ rest) = (unmarked? rest).map (cs :: ·) := by
  induction cs with
  | nil => rfl
  | cons c cs ih =>
      have hmarked : marked (c :: cs) ++ rest = '+' :: c :: (marked cs ++ rest) := rfl
      rw [hmarked, unmarked?, ih]
      cases unmarked? rest <;> rfl

theorem unmarked?_flatMap (texts : List (List Char)) :
    unmarked? (texts.flatMap marked) = some texts := by
  induction texts with
  | nil => rfl
  | cons cs more ih => rw [List.flatMap_cons, unmarked?_marked, ih, Option.map_some]

theorem layout?_ofLayout (layout : Layout) : layout? (ofLayout layout) = some layout := by
  cases layout with
  | keyed => rfl
  | unkeyed => rfl
  | other definitions =>
      have htexts : (definitions.flatMap fun d => marked d.toList) =
          (definitions.map String.toList).flatMap marked := (List.flatMap_map ..).symm
      rw [ofLayout, layout?, htexts, unmarked?_flatMap, Option.map_some, List.map_map]
      simp [Function.comp_def]

theorem cell?_ofCell (c : Cell) : cell? (ofCell c) = some c := by
  cases c with
  | text payload => simp [ofCell, cell?]
  | binary => rfl
  | number whole => cases whole <;> rfl
  | nothing => rfl

theorem rows?_flatMap (rows : Rows) :
    rows? (rows.flatMap fun r => [r.1.toList, ofCell r.2]) = some rows := by
  induction rows with
  | nil => rfl
  | cons r more ih =>
      rw [List.flatMap_cons]
      show (do
        let c ← cell? (ofCell r.2)
        return (String.ofList r.1.toList, c) ::
          (← rows? (more.flatMap fun r : String × Cell => [r.1.toList, ofCell r.2]))) = _
      rw [cell?_ofCell, ih, String.ofList_toList]
      rfl

/-- A table is read as it was written. -/
theorem table?_ofTable (table : Table) : table? (ofTable table) = some table := by
  rw [table?, ofTable, unmarked?_flatMap]
  show (do return ⟨← layout? (ofLayout table.layout), ← rows? _⟩ : Option Table) = _
  rw [layout?_ofLayout, rows?_flatMap]
  rfl

end Notation

namespace Database

section Written

/-- A database is read as it was written. -/
theorem ofBytes_bytes (d : Database) : ofBytes d.bytes = .ok d := by
  obtain ⟨table?⟩ := d
  cases table? with
  | none => rfl
  | some table =>
      have hread : tableOf? (Text.Utf8.encode (Notation.ofTable table)) = some table := by
        rw [tableOf?, Text.Utf8.decode_encode]
        exact Notation.table?_ofTable table
      have hlength : header.length = 16 := by decide
      have hlong : ¬(header ++ Text.Utf8.encode (Notation.ofTable table)).length ≤ 1 := by
        rw [List.length_append]
        omega
      have hheader : header.isPrefixOf (header ++ Text.Utf8.encode (Notation.ofTable table)) =
          true :=
        List.isPrefixOf_iff_prefix.2 (List.prefix_append _ _)
      rw [bytes, ofBytes, if_neg hlong, if_pos hheader, List.drop_left, hread]

end Written

section Files

/-- The rows of the database in the file at a place. -/
def rowsAt (t : Tree) (p : Place) : Rows :=
  ((databaseAt t p).map rows).getD []

/-- The table of the database in the file at a place. -/
def tableAt (t : Tree) (p : Place) : Option Table :=
  (databaseAt t p).bind table?

variable {t t' : Tree} {p q : Place}

theorem databaseAt_put (d : Database) (hp : p.isBase = false) :
    databaseAt (t.put p (.file d.bytes)) p = some d := by
  rw [databaseAt, Tree.lookup?_put t hp]
  show (ofBytes d.bytes).toOption = _
  rw [ofBytes_bytes]
  rfl

theorem databaseAt_of_lookup? (h : t'.lookup? p = t.lookup? p) :
    databaseAt t' p = databaseAt t p := by
  rw [databaseAt, databaseAt, h]

/-- The rows at a place are those of the table there. -/
theorem rowsAt_eq_tableAt (t : Tree) (p : Place) :
    rowsAt t p = ((tableAt t p).map Table.rows).getD [] := by
  rw [rowsAt, tableAt]
  cases databaseAt t p <;> rfl

end Files

/-- A table that was there is kept. -/
theorem table?_withTable (d : Database) :
    d.withTable.table? = d.table? ∨ (d.table? = none ∧ d.withTable.table? = some .empty) := by
  obtain ⟨table?⟩ := d
  cases table? with
  | none => exact Or.inr ⟨rfl, rfl⟩
  | some table => exact Or.inl rfl

theorem get_text (entries : List (String × String)) (host : String) :
    get ⟨some ⟨.keyed, entries.map fun e => (e.1, .text e.2)⟩⟩ host =
      .ok (entries.lookup host) := by
  simp only [get, rows?, Option.map_some, lookup_map Cell.text]
  cases entries.lookup host <;> rfl

end Database

namespace Table

section Rows

/-- The rows after hosts were given rules, one after the other. -/
def replacedAll (rows : Rows) (entries : List (String × String)) : Rows :=
  entries.foldl (fun rows e => replaced rows e.1 (.text e.2)) rows

/-- Hosts that are given rules once are all kept, in their order. -/
theorem replacedAll_of_nodup {rows : Rows} {entries : List (String × String)}
    (h : (rows.map Prod.fst ++ entries.map Prod.fst).Nodup) :
    replacedAll rows entries = rows ++ entries.map fun e => (e.1, .text e.2) := by
  induction entries generalizing rows with
  | nil => simp [replacedAll]
  | cons e more ih =>
      have hnew : ∀ r ∈ rows, r.1 ≠ e.1 := by
        intro r hr
        exact (List.nodup_append.1 h).2.2 r.1 (List.mem_map_of_mem hr) e.1 List.mem_cons_self
      have hput : replaced rows e.1 (.text e.2) = rows ++ [(e.1, .text e.2)] := by
        rw [replaced, List.filter_eq_self.2 fun r hr => bne_iff_ne.2 (hnew r hr)]
      rw [replacedAll, List.foldl_cons, hput]
      refine (ih ?_).trans ?_
      · simpa [List.append_assoc] using h
      · simp [List.append_assoc]

end Rows

end Table

namespace RuleStore

variable {t : Tree} {path file : String} {p q : Place} {s : RuleStore}

section Saving

/-- The file of a store that can be written to holds its database once it was saved. -/
theorem databaseAt_saved (hplace : s.place? = some p) (hwritable : s.writable = true)
    (hp : p.isBase = false) : Database.databaseAt (s.saved t) p = some s.database := by
  by_cases hkept : Database.databaseAt t p = some s.database
  · simp [saved, hplace, hwritable, hkept]
  · simp [saved, hplace, hwritable, hkept, Database.databaseAt_put s.database hp]

theorem saved_of_unfiled (hplace : s.place? = none) : s.saved t = t := by
  rw [saved, hplace]

theorem saved_of_readOnly (h : s.writable = false) : s.saved t = t := by
  rw [saved]
  split
  · rfl
  · rw [h]
    rfl

/-- Where nothing was, a file is made. -/
theorem saved_of_absent (d : Database) (habsent : t.lookup? p = none) :
    saved ⟨some p, true, d⟩ t = t.put p (.file d.bytes) := by
  have hnone : Database.databaseAt t p = none := by rw [Database.databaseAt, habsent]
  rw [saved]
  simp [hnone]

end Saving

section Opening

/-- Where nothing is, a database is made. -/
theorem connect_of_vacant (hpath : Location.ofPath .create path = .ok ⟨some file, .create⟩)
    (h : t.Vacant file p) : connect t path = .ok ⟨some p, true, .blank⟩ := by
  have hmake : canMake t p = true := beq_iff_eq.2 h.above
  rw [connect, openAs, hpath]
  simp only [bind, Except.bind, Tree.reckon?_of_walk h.walk, h.absent, hmake, and_self, if_true]

/-- The database in a file that was made where nothing was is opened for reading. -/
theorem openIn_put {table : Table}
    (hpath : Location.ofPath .readOnly path = .ok ⟨some file, .readOnly⟩)
    (hwalk : t.walk file = .ok p) (habsent : t.lookup? p = none) :
    openIn (t.put p (.file (Database.bytes ⟨some table⟩))) path =
      .ok ⟨some p, false, ⟨some table⟩⟩ := by
  have hread := Database.ofBytes_bytes ⟨some table⟩
  rw [openIn, openAs, hpath]
  simp only [bind, Except.bind, Tree.reckon?_of_walk (Tree.walk_put _ habsent hwalk),
    Tree.lookup?_put t (Tree.isBase_of_absent habsent), hread, Except.map]
  rfl

end Opening

end RuleStore

end Upgrade
end RequestGuard
