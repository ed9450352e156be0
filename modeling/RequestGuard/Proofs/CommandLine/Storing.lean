import RequestGuard.CommandLine.Run
import RequestGuard.Proofs.Json.Answers
import RequestGuard.Proofs.Upgrade.Imported

/-!
# Rules are stored all or not at all

The command that stores the rules of a document, where any statement to the database can fail.

* `Lists`: the input is an object of lists.  Otherwise nothing is opened.
* `RuleDocument.lastFor?`: of several lists for one host the last counts.
* `Ended`: the ways in which a call ends.
* `import_all_or_nothing`: the rows of the table are as they were, or every host has its last
  list.  In a table without a key, which may have been there before, the rules of a host are
  added behind those it had.
-/

namespace RequestGuard
namespace Upgrade
namespace RuleDocument

open Json

variable {members : List (String × Value)} {text : String} {es : List (String × String)}

/-- The last value whose key is a host in normal form. -/
def lastFor? (members : List (String × Value)) (host : String) : Option Value :=
  (members.reverse.find? fun m => Host.normalize m.1 == host).map (·.2)

/-- The rules of the members of a document, ready to be stored. -/
def ready (members : List (String × Value)) : List (String × String) :=
  members.map fun m => (Host.normalize m.1, m.2.text)

/-- A document is taken apart only if every host has a list. -/
theorem lists_of_mapM_entry (h : members.mapM entry = .ok es) :
    (∀ m ∈ members, ∃ vs, m.2 = .list vs) ∧ es = ready members := by
  have hlists : ∀ m ∈ members, ∃ vs, m.2 = .list vs := by
    induction members generalizing es with
    | nil => exact nofun
    | cons m more ih =>
        rw [List.mapM_cons] at h
        obtain ⟨host, v⟩ := m
        cases v with
        | list vs =>
            cases hmore : more.mapM entry with
            | error fault =>
                rw [hmore] at h
                cases h
            | ok rest => exact List.forall_mem_cons.2 ⟨⟨vs, rfl⟩, ih hmore⟩
        | _ => cases h
  refine ⟨hlists, ?_⟩
  rw [mapM_entry hlists] at h
  exact (Except.ok.inj h).symm

theorem exists_of_entries (h : entries text = .ok es) :
    ∃ members, Value.readKeyed.ofText (Text.Utf8.bytes text) = .ok members ∧
      (∀ m ∈ members, ∃ vs, m.2 = .list vs) ∧ es = ready members := by
  rw [entries] at h
  cases hread : Value.readKeyed.ofText (Text.Utf8.bytes text) with
  | error fault =>
      simp only [hread] at h
      cases h
  | ok members =>
      simp only [hread] at h
      exact ⟨members, rfl, lists_of_mapM_entry h⟩

/-- A host has the text of the last list that the document gives it, or what it had. -/
theorem lookup_replacedAll_members (rows : Rows) (members : List (String × Value))
    (host : String) :
    (Table.replacedAll rows (ready members)).lookup host =
      ((lastFor? members host).map fun v => Cell.text v.text).or (rows.lookup host) := by
  rw [Table.lookup_replacedAll, ready, ← List.map_reverse, List.find?_map, Option.map_map,
    lastFor?, Option.map_map]
  rfl

end RuleDocument
end Upgrade

namespace CommandLine

open Files Json Upgrade

section Storing

variable {engine : Engine} {tree : Tree} {input output : String}

/-- The input is an object of lists: its members by their keys. -/
structure Lists (tree : Tree) (input : String) (members : List (String × Value)) : Prop where
  /-- The input can be read, and is an object. -/
  read : ∃ text, tree.readText input = .ok text ∧
    Value.readKeyed.ofText (Text.Utf8.bytes text) = .ok members
  /-- Every key has a list. -/
  lists : ∀ m ∈ members, ∃ vs, m.2 = .list vs

/-- A document of lists is taken apart into its rules. -/
theorem Lists.entries_eq {members : List (String × Value)} (hlists : Lists tree input members) :
    ∃ text, tree.readText input = .ok text ∧
      RuleDocument.entries text = .ok (RuleDocument.ready members) := by
  obtain ⟨text, hread, hmembers⟩ := hlists.read
  refine ⟨text, hread, ?_⟩
  rw [RuleDocument.entries, hmembers]
  exact RuleDocument.mapM_entry hlists.lists

/-- How a call ends that stores rules. -/
inductive Ended (engine : Engine) (tree : Tree) (input output : String) (o : Outcome) : Prop where
  /-- Nothing was opened. -/
  | refused (hcode : o.code = 1) (hfiles : o.files = tree)
  /-- A statement has failed. -/
  | failed {members : List (String × Value)} {opened : RuleStore} {fault : StoreFault}
      (hlists : Lists tree input members) (hopened : RuleStore.connect tree output = .ok opened)
      (hfault : (opened.perform engine
        (Statement.storing (RuleDocument.ready members))).1 = some fault)
      (hcode : o.code = 1)
      (hfiles : o.files = (opened.perform engine
        (Statement.storing (RuleDocument.ready members))).2.saved tree)
  /-- All statements were performed. -/
  | stored {members : List (String × Value)} {opened : RuleStore}
      (hlists : Lists tree input members) (hopened : RuleStore.connect tree output = .ok opened)
      (hnone : (opened.perform engine (Statement.storing (RuleDocument.ready members))).1 = none)
      (hcode : o.code = 0)
      (hfiles : o.files = (opened.perform engine
        (Statement.storing (RuleDocument.ready members))).2.saved tree)

theorem importRules_ended (engine : Engine) (tree : Tree) (input output : String) :
    Ended engine tree input output (importRules engine tree input output) := by
  rw [importRules]
  cases hread : tree.readText input with
  | error fault => exact .refused rfl rfl
  | ok text =>
      dsimp only
      cases hentries : RuleDocument.entries text with
      | error fault => cases fault <;> exact .refused rfl rfl
      | ok es =>
          dsimp only
          obtain ⟨members, hmembers, hlists, rfl⟩ := RuleDocument.exists_of_entries hentries
          have hlists : Lists tree input members := ⟨⟨text, hread, hmembers⟩, hlists⟩
          cases hopened : RuleStore.connect tree output with
          | error fault => exact .refused rfl rfl
          | ok opened =>
              dsimp only
              split
              · next fault s hrun =>
                  exact .failed hlists hopened (by rw [hrun]) rfl (by rw [hrun]; rfl)
              · next s hrun =>
                  exact .stored hlists hopened (by rw [hrun]) rfl (by rw [hrun]; rfl)

/-- An input that is no object of lists is refused. -/
theorem importRules_refused (h : ¬∃ members, Lists tree input members) :
    (importRules engine tree input output).code = 1 ∧
      (importRules engine tree input output).files = tree := by
  cases importRules_ended engine tree input output with
  | refused hcode hfiles => exact ⟨hcode, hfiles⟩
  | failed hlists => exact absurd ⟨_, hlists⟩ h
  | stored hlists => exact absurd ⟨_, hlists⟩ h

/-- A call that does not go well leaves all tables as they were, apart from one without rows
that it has made. -/
theorem tableAt_of_code_eq_one (h : (importRules engine tree input output).code = 1)
    (q : Place) :
    Database.tableAt (importRules engine tree input output).files q = Database.tableAt tree q ∨
      (Database.tableAt tree q = none ∧
        Database.tableAt (importRules engine tree input output).files q = some .empty) := by
  cases importRules_ended engine tree input output with
  | refused hcode hfiles => exact Or.inl (by rw [hfiles])
  | stored hlists hopened hnone hcode hfiles =>
      rw [hcode] at h
      cases h
  | @failed members opened fault hlists hopened hfault hcode hfiles =>
      rw [hfiles]
      have hdatabase := RuleStore.database_perform_of_fault hfault
      generalize hs : (opened.perform engine
        (Statement.storing (RuleDocument.ready members))).2 = s at hdatabase
      obtain ⟨d, rfl⟩ : ∃ d, s = { opened with database := d } := ⟨_, hs.symm⟩
      rcases RuleStore.openAs_cases hopened with ⟨l, -, -, rfl⟩ | ⟨p, ho⟩
      · exact Or.inl (by rw [RuleStore.saved_of_unfiled rfl])
      · rcases eq_or_ne q p with rfl | hne
        · rw [ho.tableAt_saved d, ho.tableAt_eq]
          split
          · rcases hdatabase with rfl | rfl
            · exact Or.inl rfl
            · exact opened.database.table?_withTable
          · exact Or.inl rfl
        · refine Or.inl ?_
          rw [Database.tableAt, Database.tableAt,
            Database.databaseAt_of_lookup? (ho.lookup?_saved d hne)]

/-- The last lists of a document are stored in the file at a place, and nothing else is
changed. -/
structure Stored (engine : Engine) (tree files : Tree) (members : List (String × Value))
    (p : Place) : Prop where
  /-- The table there, or a new one, was given the rules of all members. -/
  table : ∃ table, Database.tableAt files p = some table ∧
    ((Database.tableAt tree p).getD .empty).putAll engine (RuleDocument.ready members) = .ok table
  /-- With a key, as the table is made, every host has its last list, or what it had. -/
  keyed : ∀ rows, (Database.tableAt tree p).getD .empty = ⟨.keyed, rows⟩ →
    ∃ rows', Database.tableAt files p = some ⟨.keyed, rows'⟩ ∧
      ∀ host, rows'.lookup host = ((RuleDocument.lastFor? members host).map fun v =>
        Cell.text v.text).or (rows.lookup host)
  /-- Without a key the rules of all members are added. -/
  unkeyed : ∀ rows, Database.tableAt tree p = some ⟨.unkeyed, rows⟩ →
    Database.tableAt files p = some ⟨.unkeyed,
      rows ++ (RuleDocument.ready members).map fun e => (e.1, .text e.2)⟩
  /-- Other places are as they were. -/
  others : ∀ q, q ≠ p → files.lookup? q = tree.lookup? q

theorem stored_of_putAll {files : Tree} {members : List (String × Value)} {p : Place}
    {table : Table} (htable : Database.tableAt files p = some table)
    (hput : ((Database.tableAt tree p).getD .empty).putAll engine (RuleDocument.ready members) =
      .ok table)
    (hothers : ∀ q, q ≠ p → files.lookup? q = tree.lookup? q) :
    Stored engine tree files members p where
  table := ⟨table, htable, hput⟩
  keyed rows hrows := by
    rw [hrows, Table.putAll_keyed] at hput
    exact ⟨_, htable.trans (congrArg some (Except.ok.inj hput).symm),
      RuleDocument.lookup_replacedAll_members rows members⟩
  unkeyed rows hrows := by
    rw [hrows, Option.getD_some, Table.putAll_unkeyed] at hput
    exact htable.trans (congrArg some (Except.ok.inj hput).symm)
  others := hothers

/-- A call that goes well stores the rules of all members. -/
theorem stored_of_code_eq_zero (h : (importRules engine tree input output).code = 0) :
    ∃ members, Lists tree input members ∧ ∃ l, Location.ofPath .create output = .ok l ∧
      match l.file? with
      | none => (importRules engine tree input output).files = tree
      | some file => ∃ p, tree.reckon? file = some p ∧
          Stored engine tree (importRules engine tree input output).files members p := by
  cases importRules_ended engine tree input output with
  | refused hcode hfiles =>
      rw [hcode] at h
      cases h
  | failed hlists hopened hfault hcode hfiles =>
      rw [hcode] at h
      cases h
  | @stored members opened hlists hopened hnone hcode hfiles =>
      refine ⟨members, hlists, ?_⟩
      obtain ⟨table, hput, hs, hreadOnly⟩ := RuleStore.perform_of_eq_none hnone
      rw [hfiles, hs]
      rcases RuleStore.openAs_cases hopened with ⟨l, hl, hfile, rfl⟩ | ⟨p, ho⟩
      · refine ⟨l, hl, ?_⟩
        rw [hfile]
        exact RuleStore.saved_of_unfiled rfl
      · obtain ⟨l, file, hl, hfile, hreckon⟩ := ho.located
        refine ⟨l, hl, ?_⟩
        rw [hfile]
        refine ⟨p, hreckon, ?_⟩
        rw [← ho.tableAt_eq] at hput
        refine stored_of_putAll ?_ hput fun q hq => ho.lookup?_saved _ hq
        rw [ho.tableAt_saved]
        split
        · rfl
        · next hwritable => exact hreadOnly (eq_false_of_ne_true hwritable)

/-- Where the second of two hosts cannot be given its rules, the first one keeps those it had. -/
example :
    let rules := "\x7b\"a.com\":[1],\"b.com\":[]\x7d"
    let place : Place := ⟨false, ["rules.db".toList]⟩
    let tree : Tree := ⟨[(⟨false, ["rules.json".toList]⟩, .file (Text.Utf8.bytes rules)),
      (place, .file (Database.bytes ⟨some ⟨.keyed, [("a.com", .text "[0]")]⟩⟩))]⟩
    let engine := { Engine.standard with
      trouble := fun n => if n = 4 then some .notReadable else none }
    let call := importRules engine tree "rules.json" "rules.db"
    call.code = 1 ∧ Database.rowsAt call.files place = [("a.com", .text "[0]")] := by
  decide +kernel

end Storing

end CommandLine
end RequestGuard
