import RequestGuard.Proofs.Upgrade.Stored
import RequestGuard.Upgrade.Session

/-!
# What a session leaves of a database

Rules are stored in a transaction, so a fault before its end leaves the rows as they were.

* `Session.performAll_cons`: the first of some statements fails, or it is performed and the
  others follow.
* `Session.kept_of_storing_fault`: what is kept after a fault is what was kept before, apart from
  a table that was made.  `Session.foldlM_of_performAll`: else all were performed.
* `Table.putAll_keyed`, `Table.putAll_unkeyed`: what becomes of a table whose hosts are given
  rules.  `Table.lookup_replacedAll`: with a key the last rules of a host are its rules.
* `RuleStore.openAs_cases`: a store that was opened has a file at a place, or none.
* `RuleStore.database_perform_of_fault`, `RuleStore.perform_of_eq_none`: the same of a store.
-/

namespace RequestGuard
namespace Upgrade

open Files

namespace Table

section Puts

variable {engine : Engine} {rows : Rows} {entries : List (String × String)}

/-- Gives hosts rules, one after the other. -/
def putAll (engine : Engine) (table : Table) (entries : List (String × String)) :
    Except StoreFault Table :=
  entries.foldlM (fun table e => table.put engine e.1 e.2) table

theorem putAll_keyed (engine : Engine) (rows : Rows) (entries : List (String × String)) :
    putAll engine ⟨.keyed, rows⟩ entries = .ok ⟨.keyed, replacedAll rows entries⟩ := by
  induction entries generalizing rows with
  | nil => rfl
  | cons e more ih => exact ih (replaced rows e.1 (.text e.2))

theorem putAll_unkeyed (engine : Engine) (rows : Rows) (entries : List (String × String)) :
    putAll engine ⟨.unkeyed, rows⟩ entries =
      .ok ⟨.unkeyed, rows ++ entries.map fun e => (e.1, .text e.2)⟩ := by
  induction entries generalizing rows with
  | nil => simp [putAll, pure, Except.pure]
  | cons e more ih =>
      have hmore := ih (rows ++ [(e.1, .text e.2)])
      rw [List.append_assoc] at hmore
      exact hmore

end Puts

section Lookup

theorem lookup_filter_of_ne {host key : String} (h : key ≠ host) (rows : Rows) :
    (rows.filter fun r => r.1 != host).lookup key = rows.lookup key := by
  induction rows with
  | nil => rfl
  | cons r more ih =>
      obtain ⟨k, c⟩ := r
      by_cases hk : k = host
      · have hne : (key == k) = false := beq_eq_false_iff_ne.2 (hk ▸ h)
        rw [List.filter_cons_of_neg (by simp [hk]), List.lookup_cons, hne, ih]
      · rw [List.filter_cons_of_pos (by simp [hk]), List.lookup_cons, List.lookup_cons, ih]

theorem lookup_filter_self (rows : Rows) (host : String) :
    (rows.filter fun r => r.1 != host).lookup host = none := by
  refine List.lookup_eq_none_iff.2 fun r hr => ?_
  have hne : r.1 ≠ host := bne_iff_ne.1 (List.mem_filter.1 hr).2
  exact bne_iff_ne.2 hne.symm

theorem lookup_replaced (rows : Rows) (host key : String) (c : Cell) :
    (replaced rows host c).lookup key = if host = key then some c else rows.lookup key := by
  rw [replaced, List.lookup_append]
  split
  · next h => rw [← h, lookup_filter_self, List.lookup_cons, beq_self_eq_true]; rfl
  · next h =>
      have hne : (key == host) = false := beq_eq_false_iff_ne.2 (Ne.symm h)
      rw [lookup_filter_of_ne (Ne.symm h), List.lookup_cons, hne]
      exact Option.or_none

/-- A host has the last rules that it is given, or else those it had. -/
theorem lookup_replacedAll (rows : Rows) (entries : List (String × String)) (host : String) :
    (replacedAll rows entries).lookup host =
      ((entries.reverse.find? fun e => e.1 == host).map fun e => Cell.text e.2).or
        (rows.lookup host) := by
  induction entries generalizing rows with
  | nil => rfl
  | cons e more ih =>
      show (replacedAll (replaced rows e.1 (.text e.2)) more).lookup host = _
      rw [ih, lookup_replaced, List.reverse_cons, List.find?_append, Option.map_or, Option.or_assoc]
      congr 1
      by_cases h : e.1 = host
      · simp [h]
      · simp [h]

end Lookup

end Table

namespace Session

variable {engine : Engine} {n : Nat} {s s' : Session} {statement : Statement}
variable {statements : List Statement}

section Transactions

/-- The first of some statements fails, or it is performed and the others follow. -/
theorem performAll_cons (engine : Engine) (n : Nat) (s : Session) (statement : Statement)
    (more : List Statement) :
    (∃ fault, performAll engine n s (statement :: more) = (some fault, s)) ∨
      ∃ s', s.perform engine statement = .ok s' ∧
        performAll engine n s (statement :: more) = performAll engine (n + 1) s' more := by
  rw [performAll]
  cases engine.trouble n with
  | some fault => exact Or.inl ⟨fault, rfl⟩
  | none =>
      cases s.perform engine statement with
      | error fault => exact Or.inl ⟨fault, rfl⟩
      | ok s' => exact Or.inr ⟨s', rfl, rfl⟩

theorem change_of_draft (hdraft : s.draft?.isSome = true) (d : Database) :
    (s.change d).kept = s.kept ∧ (s.change d).draft?.isSome = true := by
  obtain ⟨writable, kept, draft?⟩ := s
  obtain ⟨draft, rfl⟩ := Option.isSome_iff_exists.1 hdraft
  exact ⟨rfl, rfl⟩

/-- In a transaction nothing is kept before its end. -/
theorem kept_of_perform (hdraft : s.draft?.isSome = true) (hcommit : statement ≠ .commit)
    (h : s.perform engine statement = .ok s') :
    s'.kept = s.kept ∧ s'.draft?.isSome = true := by
  cases statement with
  | makeTable =>
      rw [perform] at h
      split at h
      · cases h
        exact change_of_draft hdraft _
      · cases h
  | transaction =>
      cases h
      exact ⟨rfl, rfl⟩
  | prepare =>
      rw [perform] at h
      split at h
      · cases h
        exact ⟨rfl, hdraft⟩
      · cases h
  | put host rules =>
      rw [perform] at h
      split at h
      · cases hput : s.seen.put engine host rules with
        | error fault =>
            rw [hput] at h
            cases h
        | ok d =>
            rw [hput] at h
            cases h
            exact change_of_draft hdraft d
      · cases h
  | commit => exact absurd rfl hcommit

theorem kept_of_performAll (hdraft : s.draft?.isSome = true) (hcommit : .commit ∉ statements) :
    (performAll engine n s statements).2.kept = s.kept := by
  induction statements generalizing n s with
  | nil => rfl
  | cons statement more ih =>
      rw [List.mem_cons, not_or] at hcommit
      rcases performAll_cons engine n s statement more with ⟨fault, hall⟩ | ⟨s', hs', hall⟩
      · rw [hall]
      · obtain ⟨hkept, hdraft'⟩ := kept_of_perform hdraft (Ne.symm hcommit.1) hs'
        rw [hall, ih hdraft' hcommit.2, hkept]

theorem performAll_append (more : List Statement) :
    performAll engine n s (statements ++ more) =
      match performAll engine n s statements with
      | (some fault, s) => (some fault, s)
      | (none, s) => performAll engine (n + statements.length) s more := by
  induction statements generalizing n s with
  | nil => rfl
  | cons statement rest ih =>
      rw [List.cons_append, performAll, performAll]
      cases engine.trouble n with
      | some fault => rfl
      | none =>
          cases s.perform engine statement with
          | error fault => rfl
          | ok s' =>
              dsimp only
              rw [ih, List.length_cons, Nat.add_assoc, Nat.add_comm 1]

/-- A transaction in which a statement fails, or its end, keeps nothing. -/
theorem kept_of_fault {fault : StoreFault} (hdraft : s.draft?.isSome = true)
    (hcommit : .commit ∉ statements)
    (h : (performAll engine n s (statements ++ [.commit])).1 = some fault) :
    (performAll engine n s (statements ++ [.commit])).2.kept = s.kept := by
  have hkept : (performAll engine n s statements).2.kept = s.kept :=
    kept_of_performAll hdraft hcommit
  rw [performAll_append] at h ⊢
  generalize performAll engine n s statements = run at h hkept ⊢
  obtain ⟨none | first, s'⟩ := run
  · rcases performAll_cons engine (n + statements.length) s' .commit [] with
      ⟨last, hlast⟩ | ⟨done, -, hlast⟩
    · exact (congrArg (fun run => run.2.kept) hlast).trans hkept
    · cases (congrArg Prod.fst hlast).symm.trans h
  · exact hkept

/-- Where no statement has failed, all were performed. -/
theorem foldlM_of_performAll (h : (performAll engine n s statements).1 = none) :
    statements.foldlM (perform engine) s = .ok (performAll engine n s statements).2 := by
  induction statements generalizing n s with
  | nil => rfl
  | cons statement more ih =>
      rcases performAll_cons engine n s statement more with ⟨fault, hall⟩ | ⟨s', hs', hall⟩
      · cases (congrArg Prod.fst hall).symm.trans h
      · rw [hall] at h ⊢
        rw [List.foldlM_cons, hs', ← ih h]
        rfl

theorem performAll_of_foldlM (htrouble : ∀ n, engine.trouble n = none)
    (h : statements.foldlM (perform engine) s = .ok s') (n : Nat) :
    performAll engine n s statements = (none, s') := by
  induction statements generalizing n s with
  | nil =>
      cases h
      rfl
  | cons statement more ih =>
      rw [List.foldlM_cons] at h
      cases hs : s.perform engine statement with
      | error fault =>
          rw [hs] at h
          cases h
      | ok next =>
          rw [hs] at h
          rw [performAll, htrouble, hs]
          exact ih h (n + 1)

end Transactions

section Storing

variable {d : Database} {entries : List (String × String)}

theorem foldlM_put (kept : Database) (table : Table) (entries : List (String × String)) :
    (entries.map fun e => Statement.put e.1 e.2).foldlM (perform engine)
        ⟨true, kept, some ⟨some table⟩⟩ =
      (table.putAll engine entries).map fun table => ⟨true, kept, some ⟨some table⟩⟩ := by
  induction entries generalizing table with
  | nil => rfl
  | cons e more ih =>
      rw [List.map_cons, List.foldlM_cons, Table.putAll, List.foldlM_cons]
      show (((table.put engine e.1 e.2).map _).map _ >>= _) = _
      cases table.put engine e.1 e.2 with
      | error fault => rfl
      | ok next => exact ih next

/-- Rules are stored in the table, which is made unless it is there. -/
theorem foldlM_storing (d : Database) (entries : List (String × String)) :
    (Statement.storing entries).foldlM (perform engine) ⟨true, d, none⟩ =
      ((d.table?.getD .empty).putAll engine entries).map fun table =>
        ⟨true, ⟨some table⟩, none⟩ := by
  have hput := @foldlM_put engine d.withTable (d.table?.getD .empty) entries
  show List.foldlM (perform engine) ⟨true, d.withTable, some d.withTable⟩
    ((entries.map fun e => Statement.put e.1 e.2) ++ [.commit]) = _
  rw [List.foldlM_append]
  refine (congrArg (· >>= fun s => List.foldlM (perform engine) s [.commit]) hput).trans ?_
  cases (d.table?.getD .empty).putAll engine entries <;> rfl

/-- A database that cannot be written to takes no rules. -/
theorem eq_of_foldlM_storing_readOnly
    (h : (Statement.storing entries).foldlM (perform engine) ⟨false, d, none⟩ = .ok s') :
    entries = [] ∧ d.table?.isSome = true ∧ s' = ⟨false, d, none⟩ := by
  obtain ⟨table?⟩ := d
  cases table? with
  | none => cases h
  | some table =>
      cases entries with
      | nil =>
          cases h
          exact ⟨rfl, rfl, rfl⟩
      | cons e more => cases h

/-- What is kept after a fault is what was kept before, apart from a table that was made. -/
theorem kept_of_storing_fault {fault : StoreFault} {writable : Bool}
    (h : (performAll engine 0 ⟨writable, d, none⟩ (Statement.storing entries)).1 = some fault) :
    (performAll engine 0 ⟨writable, d, none⟩ (Statement.storing entries)).2.kept = d ∨
      (performAll engine 0 ⟨writable, d, none⟩ (Statement.storing entries)).2.kept =
        d.withTable := by
  -- what is done in the transaction before its end
  let changes : List Statement := .prepare :: entries.map fun e => .put e.1 e.2
  have hcommit : .commit ∉ changes := by simp [changes]
  have hstoring : Statement.storing entries =
      .makeTable :: .transaction :: (changes ++ [.commit]) := by
    simp [Statement.storing, Statement.importing, changes]
  rw [hstoring] at h ⊢
  rcases performAll_cons engine 0 ⟨writable, d, none⟩ .makeTable
    (.transaction :: (changes ++ [.commit])) with ⟨first, hall⟩ | ⟨made, hmade, hall⟩
  · exact Or.inl (congrArg (fun run => run.2.kept) hall)
  · obtain rfl : made = ⟨writable, d.withTable, none⟩ := by
      rw [perform] at hmade
      split at hmade
      · exact (Except.ok.inj hmade).symm
      · cases hmade
    rw [hall] at h ⊢
    refine Or.inr ?_
    rcases performAll_cons engine (0 + 1) ⟨writable, d.withTable, none⟩ .transaction
      (changes ++ [.commit]) with ⟨first, hall'⟩ | ⟨begun, hbegun, hall'⟩
    · exact congrArg (fun run => run.2.kept) hall'
    · cases hbegun
      rw [hall'] at h ⊢
      exact kept_of_fault rfl hcommit h

end Storing

end Session

namespace RuleStore

variable {a : Access} {t : Tree} {path file : String} {p : Place} {s : RuleStore}
variable {l : Location}

section Opening

/-- A database that was opened and has a file. -/
structure Opened (a : Access) (t : Tree) (path : String) (p : Place) (s : RuleStore) : Prop where
  /-- The path tells a file, which is at the place. -/
  located : ∃ l file, Location.ofPath a path = .ok l ∧ l.file? = some file ∧
    t.reckon? file = some p
  place : s.place? = some p
  base : p.isBase = false
  /-- There is the database of the file, or none if it is new. -/
  found : Database.databaseAt t p = some s.database ∨
    (t.lookup? p = none ∧ s.database = .blank ∧ s.writable = true)

/-- A file that holds a database is opened. -/
theorem Opened.of_file {d : Database} {bytes : List UInt8}
    (hlocated : ∃ l file, Location.ofPath a path = .ok l ∧ l.file? = some file ∧
      t.reckon? file = some p)
    (hfile : t.lookup? p = some (.file bytes)) (hread : Database.ofBytes bytes = .ok d)
    (writable : Bool) : Opened a t path p ⟨some p, writable, d⟩ where
  located := hlocated
  place := rfl
  base := Tree.isBase_of_file hfile
  found := Or.inl (by simp [Database.databaseAt, hfile, hread, Except.toOption])

/-- A file that is not there is opened as a blank database. -/
theorem Opened.of_absent
    (hlocated : ∃ l file, Location.ofPath a path = .ok l ∧ l.file? = some file ∧
      t.reckon? file = some p)
    (habsent : t.lookup? p = none) : Opened a t path p ⟨some p, true, .blank⟩ where
  located := hlocated
  place := rfl
  base := Tree.isBase_of_absent habsent
  found := Or.inr ⟨habsent, rfl, rfl⟩

/-- A database is opened with its file, or has none. -/
theorem openAs_cases (h : openAs a t path = .ok s) :
    (∃ l, Location.ofPath a path = .ok l ∧ l.file? = none ∧
      s = ⟨none, l.access.writes, .blank⟩) ∨ ∃ p, Opened a t path p s := by
  rw [openAs] at h
  cases hl : Location.ofPath a path with
  | error fault =>
      rw [hl] at h
      cases h
  | ok l =>
      simp only [hl, bind, Except.bind] at h
      cases hfile : l.file? with
      | none =>
          simp only [hfile] at h
          cases h
          exact Or.inl ⟨l, rfl, hfile, rfl⟩
      | some file =>
          simp only [hfile] at h
          cases hreckon : t.reckon? file with
          | none =>
              rw [hreckon] at h
              cases h
          | some p =>
              have hlocated : ∃ l file, Location.ofPath a path = .ok l ∧
                  l.file? = some file ∧ t.reckon? file = some p := ⟨l, file, hl, hfile, hreckon⟩
              refine Or.inr ⟨p, ?_⟩
              simp only [hreckon] at h
              rcases hlookup : t.lookup? p with _ | _ | bytes
              · simp only [hlookup] at h
                split at h
                · cases h
                  exact Opened.of_absent hlocated hlookup
                · cases h
              · simp only [hlookup] at h
                cases h
              · simp only [hlookup] at h
                cases hread : Database.ofBytes bytes with
                | error fault =>
                    rw [hread] at h
                    cases h
                | ok d =>
                    rw [hread] at h
                    cases h
                    exact Opened.of_file hlocated hlookup hread _

theorem Opened.tableAt_eq (ho : Opened a t path p s) :
    Database.tableAt t p = s.database.table? := by
  rw [Database.tableAt]
  rcases ho.found with h | ⟨habsent, hblank, -⟩
  · rw [h]
    rfl
  · rw [Database.databaseAt, habsent, hblank]
    rfl

/-- The table in the file after the store was saved with another database: a store that cannot
be written to leaves the file as it is. -/
theorem Opened.tableAt_saved (ho : Opened a t path p s) (d : Database) :
    Database.tableAt (saved { s with database := d } t) p =
      if s.writable then d.table? else s.database.table? := by
  cases hwritable : s.writable with
  | true =>
      have hsaved := databaseAt_saved (t := t) (s := ⟨s.place?, true, d⟩) ho.place rfl ho.base
      rw [Database.tableAt, hsaved]
      rfl
  | false =>
      rw [saved_of_readOnly rfl, ho.tableAt_eq]
      rfl

/-- Other places stay as they were. -/
theorem Opened.lookup?_saved (ho : Opened a t path p s) (d : Database) {q : Place} (hq : q ≠ p) :
    (saved { s with database := d } t).lookup? q = t.lookup? q := by
  rw [saved, ho.place]
  dsimp only
  split
  · rfl
  · exact Tree.lookup?_put_of_ne t hq _

theorem openAs_of_openIn (h : openIn t path = .ok s) :
    openAs .readOnly t path = .ok s ∧ s.database.table?.isSome = true := by
  rw [openIn] at h
  cases hs : openAs .readOnly t path with
  | error fault =>
      rw [hs] at h
      cases h
  | ok found =>
      simp only [hs, bind, Except.bind] at h
      split at h
      · cases h
      · next table htable =>
          cases h
          exact ⟨rfl, by rw [htable]; rfl⟩

/-- A store is opened for reading with the database in the file at its place. -/
theorem databaseAt_of_openIn (h : openIn t path = .ok s) (hplace : s.place? = some p) :
    Database.databaseAt t p = some s.database := by
  obtain ⟨hopen, htable⟩ := openAs_of_openIn h
  rcases openAs_cases hopen with ⟨l, -, -, rfl⟩ | ⟨q, ho⟩
  · cases hplace
  · obtain rfl : q = p := Option.some.inj (ho.place.symm.trans hplace)
    refine ho.found.resolve_right fun ⟨_, hblank, _⟩ => ?_
    rw [hblank] at htable
    cases htable

/-- A database with its table can be opened for reading. -/
theorem openIn_of_databaseAt {d : Database} {table : Table}
    (hl : Location.ofPath .readOnly path = .ok l) (hfile : l.file? = some file)
    (hreckon : t.reckon? file = some p) (hd : Database.databaseAt t p = some d)
    (htable : d.table? = some table) :
    openIn t path = .ok ⟨some p, l.access.writes, d⟩ := by
  rw [Database.databaseAt] at hd
  split at hd
  · next bytes hbytes =>
      cases hread : Database.ofBytes bytes with
      | error fault =>
          rw [hread] at hd
          cases hd
      | ok d' =>
          rw [hread] at hd
          obtain rfl : d' = d := Option.some.inj hd
          simp only [openIn, openAs, hl, bind, Except.bind, hfile, hreckon, hbytes, hread,
            Except.map, htable]
  · cases hd

end Opening

section Storing

variable {engine : Engine} {entries : List (String × String)} {table : Table}

/-- After a fault the database is the one from before, apart from a table that was made. -/
theorem database_perform_of_fault {fault : StoreFault}
    (h : (s.perform engine (Statement.storing entries)).1 = some fault) :
    (s.perform engine (Statement.storing entries)).2.database = s.database ∨
      (s.perform engine (Statement.storing entries)).2.database = s.database.withTable :=
  Session.kept_of_storing_fault h

/-- Where nothing has failed, the table was given the rules.  If it cannot be written to, there
were none. -/
theorem perform_of_eq_none (h : (s.perform engine (Statement.storing entries)).1 = none) :
    ∃ table, (s.database.table?.getD .empty).putAll engine entries = .ok table ∧
      (s.perform engine (Statement.storing entries)).2 = { s with database := ⟨some table⟩ } ∧
      (s.writable = false → s.database.table? = some table) := by
  have hrun : (Session.performAll engine 0 ⟨s.writable, s.database, none⟩
      (Statement.storing entries)).1 = none := h
  have hall := Session.foldlM_of_performAll hrun
  rw [perform]
  obtain ⟨place?, writable, d⟩ := s
  cases writable with
  | true =>
      rw [Session.foldlM_storing] at hall
      cases hput : (d.table?.getD .empty).putAll engine entries with
      | error fault =>
          rw [hput] at hall
          cases hall
      | ok table =>
          rw [hput] at hall
          refine ⟨table, rfl, ?_, nofun⟩
          dsimp only
          rw [← Except.ok.inj hall]
  | false =>
      obtain ⟨rfl, htable, hkept⟩ := Session.eq_of_foldlM_storing_readOnly hall
      obtain ⟨table?⟩ := d
      obtain ⟨table, rfl⟩ := Option.isSome_iff_exists.1 htable
      refine ⟨table, rfl, ?_, fun _ => rfl⟩
      dsimp only
      rw [hkept]

/-- Without trouble the table is given the rules. -/
theorem perform_of_putAll (htrouble : ∀ n, engine.trouble n = none) (hwritable : s.writable = true)
    (hput : (s.database.table?.getD .empty).putAll engine entries = .ok table) :
    s.perform engine (Statement.storing entries) =
      (none, { s with database := ⟨some table⟩ }) := by
  have hall := @Session.foldlM_storing engine s.database entries
  rw [hput] at hall
  rw [perform, hwritable, Session.performAll_of_foldlM htrouble hall]

end Storing

end RuleStore

end Upgrade
end RequestGuard
