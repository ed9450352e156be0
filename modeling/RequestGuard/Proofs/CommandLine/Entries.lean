import Mathlib.Data.List.Dedup
import Mathlib.Data.List.Nodup
import RequestGuard.Proofs.CommandLine.Import
import RequestGuard.Proofs.CommandLine.Storing

/-!
# What is stored of the entries of a document

The entries of a document are stored one after the other, each in place of what its host had.
The command tells how many it has stored.  Two entries for one host are two, and leave one row.

* `Table.length_replacedAll`: a table has a row for every host that was given rules.
* `Lists.importRules_eq`: what the command does with an object of lists.
* `Holds`: what the database in the file has of the entries.
* `import_tells_entries`: the number that is told is that of the entries.  It is that of the
  rows, and every entry is found again, if no two entries are for one host.
-/

namespace RequestGuard
namespace Upgrade

open Json

namespace Table

section Hosts

variable {rows : Rows}

/-- The hosts of some rows. -/
def hosts (rows : Rows) : List String :=
  rows.map Prod.fst

theorem hosts_replaced (rows : Rows) (host : String) (c : Cell) :
    hosts (replaced rows host c) = (hosts rows).filter (· != host) ++ [host] := by
  show ((rows.filter fun r => r.1 != host) ++ [(host, c)]).map Prod.fst = _
  rw [hosts, List.map_append, List.filter_map]
  rfl

theorem mem_hosts_replacedAll (rows : Rows) (entries : List (String × String)) (host : String) :
    host ∈ hosts (replacedAll rows entries) ↔ host ∈ hosts rows ++ entries.map Prod.fst := by
  induction entries generalizing rows with
  | nil => rw [List.map_nil, List.append_nil]; rfl
  | cons e more ih =>
      show host ∈ hosts (replacedAll (replaced rows e.1 (.text e.2)) more) ↔ _
      rw [ih, hosts_replaced]
      by_cases h : host = e.1 <;> simp [h]

/-- Every host has one row. -/
theorem nodup_hosts_replacedAll (h : (hosts rows).Nodup) (entries : List (String × String)) :
    (hosts (replacedAll rows entries)).Nodup := by
  induction entries generalizing rows with
  | nil => exact h
  | cons e more ih =>
      refine @ih (replaced rows e.1 (.text e.2)) ?_
      rw [hosts_replaced, List.nodup_append]
      refine ⟨h.filter _, List.nodup_singleton _, fun a ha b hb => ?_⟩
      rw [List.mem_singleton.1 hb]
      exact bne_iff_ne.1 (List.mem_filter.1 ha).2

/-- There are as many rows as there were hosts before, and hosts that were given rules. -/
theorem length_replacedAll (h : (hosts rows).Nodup) (entries : List (String × String)) :
    (replacedAll rows entries).length = (hosts rows ++ entries.map Prod.fst).dedup.length := by
  have hperm : (hosts (replacedAll rows entries)).Perm
      (hosts rows ++ entries.map Prod.fst).dedup := by
    refine (List.perm_ext_iff_of_nodup (nodup_hosts_replacedAll h entries)
      (List.nodup_dedup _)).2 ?_
    intro host
    rw [mem_hosts_replacedAll, List.mem_dedup]
  rw [← hperm.length_eq, hosts, List.length_map]

end Hosts

end Table

namespace RuleDocument

variable {members : List (String × Value)}

/-- The hosts of the members of a document, in normal form. -/
def hostsOf (members : List (String × Value)) : List String :=
  members.map fun m => Host.normalize m.1

/-- Every host of a document has a last value, that of a member for it. -/
theorem exists_lastFor? {m : String × Value} (hm : m ∈ members) :
    ∃ m' ∈ members, Host.normalize m'.1 = Host.normalize m.1 ∧
      lastFor? members (Host.normalize m.1) = some m'.2 := by
  have hfound : (members.reverse.find? fun m' =>
      Host.normalize m'.1 == Host.normalize m.1).isSome = true :=
    List.find?_isSome.2 ⟨m, List.mem_reverse.2 hm, beq_self_eq_true _⟩
  obtain ⟨m', hm'⟩ := Option.isSome_iff_exists.1 hfound
  refine ⟨m', List.mem_reverse.1 (List.mem_of_find?_eq_some hm'), ?_, ?_⟩
  · have hhost := List.find?_some hm'
    exact beq_iff_eq.1 hhost
  · rw [lastFor?, hm']
    rfl

/-- Where no two members are for one host, the last value for a host is the only one. -/
theorem lastFor?_of_nodup (h : (hostsOf members).Nodup) {m : String × Value} (hm : m ∈ members) :
    lastFor? members (Host.normalize m.1) = some m.2 := by
  obtain ⟨m', hm', hhost, hlast⟩ := exists_lastFor? hm
  rw [hlast, List.inj_on_of_nodup_map h hm' hm hhost]

end RuleDocument

end Upgrade

namespace CommandLine

open Files Json Upgrade RuleDocument

section Storing

variable {tree : Tree} {input output : String} {p : Place} {members : List (String × Value)}
variable {opened : RuleStore} {d : Database} {table : Table}

/-- What the command does with an object of lists, if the table can be given them. -/
theorem Lists.importRules_eq (hlists : Lists tree input members)
    (hopened : RuleStore.connect tree output = .ok opened) (hwritable : opened.writable = true)
    (hput : (opened.database.table?.getD .empty).putAll .standard (ready members) =
      .ok table) :
    importRules .standard tree input output =
      .success (RuleStore.saved { opened with database := ⟨some table⟩ } tree)
        [⟨.info, s!"Wrote {members.length} entries to {output}"⟩]
        [s!"Imported {members.length} host entries into {output}"] := by
  obtain ⟨text, hread, hentries⟩ := hlists.entries_eq
  have hlength : (ready members).length = members.length := List.length_map _
  have hstored := RuleStore.perform_of_putAll (fun _ => rfl) hwritable hput
  rw [importRules, hread]
  simp only [hentries, hopened, hstored, hlength]

/-- A database in a file, which may have to be made: there is no table, or one as it is made,
without rows. -/
structure Fresh (tree : Tree) (output : String) (p : Place) : Prop where
  /-- The database is opened for writing, and its file is at the place. -/
  opens : ∃ opened, RuleStore.connect tree output = .ok opened ∧ opened.place? = some p ∧
    opened.writable = true ∧ opened.database.withTable = .empty

/-- The table with the rules of the members of a document. -/
def tableOf (members : List (String × Value)) : Table :=
  ⟨.keyed, Table.replacedAll [] (ready members)⟩

/-- Into a fresh database the lists of an object are stored as a new table. -/
theorem Fresh.importRules_eq (hfresh : Fresh tree output p) :
    ∃ opened, RuleStore.connect tree output = .ok opened ∧ ∀ members, Lists tree input members →
      importRules .standard tree input output =
          .success (RuleStore.saved { opened with database := ⟨some (tableOf members)⟩ } tree)
            [⟨.info, s!"Wrote {members.length} entries to {output}"⟩]
            [s!"Imported {members.length} host entries into {output}"] ∧
        Database.databaseAt (importRules .standard tree input output).files p =
          some ⟨some (tableOf members)⟩ := by
  obtain ⟨opened, hopened, hplace, hwritable, hempty⟩ := hfresh.opens
  refine ⟨opened, hopened, fun members hlists => ?_⟩
  have htable : opened.database.table?.getD .empty = .empty :=
    Option.some.inj (congrArg Database.table? hempty)
  have hput : (opened.database.table?.getD .empty).putAll .standard (ready members) =
      .ok (tableOf members) := by
    rw [htable]
    exact Table.putAll_keyed .standard [] (ready members)
  have heq := hlists.importRules_eq hopened hwritable hput
  refine ⟨heq, ?_⟩
  rcases RuleStore.openAs_cases hopened with ⟨l, -, -, rfl⟩ | ⟨p', ho⟩
  · cases hplace
  · rw [heq]
    exact RuleStore.databaseAt_saved (s := { opened with database := ⟨some (tableOf members)⟩ })
      hplace hwritable (Option.some.inj (ho.place.symm.trans hplace) ▸ ho.base)

/-- What a database has of the members of a document. -/
structure Holds (d : Database) (members : List (String × Value)) : Prop where
  /-- A host has the last list that is given for it, and no other host has one. -/
  get : ∀ host, d.get host = .ok ((lastFor? members host).map Value.text)
  /-- Every member is for a host that has a list, if need be that of another member. -/
  given : ∀ m ∈ members, ∃ m' ∈ members, Host.normalize m'.1 = Host.normalize m.1 ∧
    lastFor? members (Host.normalize m.1) = some m'.2
  /-- There is one row for every host. -/
  size : d.size = (hostsOf members).dedup.length

theorem holds_tableOf (members : List (String × Value)) :
    Holds ⟨some (tableOf members)⟩ members where
  get host := by
    have hlookup := lookup_replacedAll_members [] members host
    rw [List.lookup_nil, Option.or_none] at hlookup
    simp only [Database.get, Database.rows?, tableOf, Option.map_some, hlookup]
    cases lastFor? members host <;> rfl
  given m := exists_lastFor?
  size := by
    have hnone : (Table.hosts []).Nodup := List.nodup_nil
    show (Table.replacedAll [] (ready members)).length = _
    rw [Table.length_replacedAll hnone, ready, List.map_map]
    rfl

/-- As many rows as members there are only if no two members are for one host. -/
theorem Holds.size_eq_iff (h : Holds d members) :
    d.size = members.length ↔ (hostsOf members).Nodup := by
  have hlength : members.length = (hostsOf members).length := (List.length_map _).symm
  rw [h.size, hlength]
  constructor
  · intro heq
    exact List.dedup_eq_self.1 ((List.dedup_sublist _).eq_of_length heq)
  · intro hnodup
    rw [hnodup.dedup]

/-- **The command tells the number of entries, not of rows.**  With a database that has no rows
yet it succeeds exactly for objects of lists, and tells how many members there are.  Then there
is one row for every host, with the last of the lists for it in the order of the keys.  So the
number that is told is the number of rows exactly if no two keys have one normal form; and then
the list of every key is found under its normal form. -/
theorem import_tells_entries (hfresh : Fresh tree output p) :
    let call := importRules .standard tree input output
    (call.code = 0 ↔ ∃ members, Lists tree input members) ∧
      ∀ members, Lists tree input members → Value.Ascending members ∧
        call.output = [s!"Imported {members.length} host entries into {output}"] ∧
        ∃ d, Database.databaseAt call.files p = some d ∧ Holds d members ∧
          (d.size = members.length ↔ (hostsOf members).Nodup) ∧
          ((hostsOf members).Nodup → ∀ m ∈ members,
            d.get (Host.normalize m.1) = .ok (some m.2.text)) := by
  obtain ⟨opened, hopened, himport⟩ := hfresh.importRules_eq
  refine ⟨⟨fun hcode => ?_, fun ⟨members, hlists⟩ => ?_⟩, fun members hlists => ?_⟩
  · refine Classical.by_contradiction fun hnone => ?_
    have hrefused := (@importRules_refused .standard tree input output hnone).1
    cases hcode.symm.trans hrefused
  · rw [(himport members hlists).1]
    rfl
  · obtain ⟨text, -, hread⟩ := hlists.read
    obtain ⟨heq, hdatabase⟩ := himport members hlists
    have hholds := holds_tableOf members
    refine ⟨Value.ascending_readKeyed hread, by rw [heq]; rfl, _, hdatabase, hholds,
      hholds.size_eq_iff, fun hnodup m hm => ?_⟩
    rw [hholds.get, lastFor?_of_nodup hnodup hm]
    rfl

end Storing

section Trees

variable {ms : List (String × Value)}

/-- The members of a document that is not nested too deep are read in the order of their
keys. -/
theorem lists_of_plain (hplain : (Value.object ms).Plain)
    (hlists : ∀ m ∈ Value.orderedMembers ms [], ∃ vs, m.2 = .list vs)
    (hdepth : (Value.object ms).depth ≤ Value.levels) :
    Lists (documentTree (Value.object ms).chars) "rules.json" (Value.orderedMembers ms []) where
  read := by
    refine ⟨_, readText_documentTree _, ?_⟩
    have hmembers : Value.memberDepth ms ≤ Value.levels - 1 := by
      rw [Value.depth] at hdepth
      exact Nat.le_sub_of_add_le hdepth
    have htakes := Value.takes_readKeyed hplain hplain.spells_chars
    rw [Value.readableMembers?, if_pos hmembers] at htakes
    rw [Text.Utf8.bytes, String.toList_ofList]
    exact Reader.ofText_eq_ok_of_takes htakes .none lineBreak
  lists := hlists

/-- Where the rules are stored. -/
def storedAt : Place :=
  ⟨false, ["httpse.sqlite".toList, "4".toList]⟩

theorem fresh_documentTree (text : List Char) :
    Fresh (documentTree text) "4/httpse.sqlite" storedAt :=
  ⟨⟨_, rfl, rfl, rfl, rfl⟩⟩

/-- Two hosts, of which the second one comes first, and the other has a capital and a dot. -/
theorem import_tells_entries_two :
    let ms : List (String × Value) := [("b.com", .list [.null]), ("A.com.", .list [])]
    let members := [("A.com.", .list []), ("b.com", .list [.null])]
    let call := importRules .standard (documentTree (Value.object ms).chars) "rules.json" "4/httpse.sqlite"
    Fresh (documentTree (Value.object ms).chars) "4/httpse.sqlite" storedAt ∧
      Lists (documentTree (Value.object ms).chars) "rules.json" members ∧ call.code = 0 ∧
      call.output = ["Imported 2 host entries into 4/httpse.sqlite"] ∧
      (hostsOf members).Nodup ∧
      ∃ d, Database.databaseAt call.files storedAt = some d ∧ d.size = 2 ∧
        d.get "a.com" = .ok (some "[]") ∧ d.get "b.com" = .ok (some "[null]") := by
  intro ms members call
  have hmembers : Value.orderedMembers ms [] = members := rfl
  have hplain : (Value.object ms).Plain := by
    refine .object (by decide) ?_
    simp only [ms, List.forall_mem_cons]
    exact ⟨.list (List.forall_mem_singleton.2 .null), .list nofun, nofun⟩
  have hlists : Lists (documentTree (Value.object ms).chars) "rules.json" members := by
    rw [← hmembers]
    refine lists_of_plain hplain ?_ (by decide)
    simp only [hmembers, members, List.forall_mem_cons]
    exact ⟨⟨_, rfl⟩, ⟨_, rfl⟩, nofun⟩
  have hfresh := fresh_documentTree (Value.object ms).chars
  have hnodup : (hostsOf members).Nodup := by decide
  obtain ⟨hcode, htold⟩ := @import_tells_entries _ "rules.json" _ _ hfresh
  obtain ⟨-, houtput, d, hd, -, hsize, hget⟩ := htold members hlists
  have hget := hget hnodup
  simp only [members, List.forall_mem_cons] at hget
  exact ⟨hfresh, hlists, hcode.2 ⟨members, hlists⟩, houtput.trans (by decide), hnodup,
    d, hd, hsize.2 hnodup, hget.1, hget.2.1⟩

/-- Two keys for one host are told as two entries.  There is one row, with the list of the
second key, and the list of the first one is lost. -/
theorem import_tells_entries_of_one_host :
    let text := "\x7b\"A.com\":[],\"a.com\":[null]\x7d"
    let call := importRules .standard (documentTree text.toList) "rules.json" "4/httpse.sqlite"
    call.code = 0 ∧ call.output = ["Imported 2 host entries into 4/httpse.sqlite"] ∧
      Host.normalize "A.com" = "a.com" ∧ Host.normalize "a.com" = "a.com" ∧
      Database.databaseAt call.files storedAt = some ⟨some ⟨.keyed, [("a.com", .text "[null]")]⟩⟩ := by
  decide +kernel

end Trees

end CommandLine
end RequestGuard
