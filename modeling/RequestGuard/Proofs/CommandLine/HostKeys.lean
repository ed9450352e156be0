import RequestGuard.Proofs.CommandLine.Entries
import RequestGuard.Proofs.Upgrade.Memory
import RequestGuard.Proofs.Url.HostText

/-!
# The keys of stored rules

Rules are stored under the normal form of the host text that the document gives, and looked
for under the host that is read from an address.  The two are not the same for every host text
that can stand in an address (`Url.normalize_eq_iff_kept`).

* `ImportsOne`: a document gives one host a list, and the database has no rules yet.
* `ImportsOne.exists_database`: the list is stored under the normal form of the host text.
* `ImportsOne.exists_store`: the store can be opened again.
* `ImportsOne.turn_upgrade`: what a call for an address of that host is told.
* `stored_rules_are_asked_first`: when the rules that are stored for a host text are those that
  are asked for first.
-/

namespace RequestGuard
namespace CommandLine

open Files Json Upgrade

section Importing

variable {tree : Tree} {input output h : String} {vs : List Value} {p : Place}

/-- The rules of one host are to be stored in a database that has none. -/
structure ImportsOne (tree : Tree) (input output h : String) (vs : List Value) (p : Place) :
    Prop where
  /-- The document has one member, a list. -/
  lists : Lists tree input [(h, .list vs)]
  /-- There are no rules yet. -/
  fresh : Fresh tree output p

/-- The list of the host is stored under the normal form of the host text, and nothing else is
there. -/
theorem ImportsOne.exists_database (himports : ImportsOne tree input output h vs p) :
    (importRules .standard tree input output).code = 0 ∧
      ∃ d : Database, d.rows? = some [(Host.normalize h, .text (Value.list vs).text)] ∧
        Database.databaseAt (importRules .standard tree input output).files p = some d := by
  obtain ⟨opened, -, himport⟩ := himports.fresh.importRules_eq
  obtain ⟨heq, hdatabase⟩ := himport _ himports.lists
  exact ⟨by rw [heq]; rfl, _, rfl, hdatabase⟩

/-- The store can be opened by a path that tells the file where the list is stored. -/
theorem ImportsOne.exists_store (himports : ImportsOne tree input output h vs p)
    {path file : String} {l : Location} (hl : Location.ofPath .readOnly path = .ok l)
    (hfile : l.file? = some file)
    (hreckon : (importRules .standard tree input output).files.reckon? file = some p) :
    ∃ s, RuleStore.openIn (importRules .standard tree input output).files path = .ok s ∧
      s.place? = some p := by
  obtain ⟨-, d, hrows, hd⟩ := himports.exists_database
  obtain ⟨table, htable, -⟩ := Option.map_eq_some_iff.1 hrows
  exact ⟨_, RuleStore.openIn_of_databaseAt hl hfile hreckon hd htable, rfl⟩

end Importing

section Asking

variable {tree : Tree} {path key payload : String} {p : Place} {d : Database} {s : RuleStore}

/-- A store is opened with the database in its file. -/
theorem database_of_openIn (h : RuleStore.openIn tree path = .ok s) (hplace : s.place? = some p)
    (hd : Database.databaseAt tree p = some d) : s.database = d := by
  have hd' := RuleStore.databaseAt_of_openIn h hplace
  exact Option.some.inj (hd'.symm.trans hd)

/-- The rules that one key has. -/
def oneRule (key payload : String) : Rules := fun k =>
  if k = key then some payload else none

/-- A database with rules for one key serves them. -/
theorem servesWithin_oneRule (hrows : d.rows? = some [(key, .text payload)]) :
    ServesWithin (fun s : RuleStore => s.database = d) RuleStore.ask (oneRule key payload) := by
  intro s hs k
  refine ⟨?_, hs⟩
  rw [RuleStore.ask, RuleStore.get, hs, Database.get, hrows]
  dsimp only
  rw [List.lookup_cons, oneRule]
  by_cases hk : k = key
  · rw [if_pos hk, beq_iff_eq.2 hk]
  · rw [if_neg hk, beq_eq_false_iff_ne.2 hk]
    rfl

/-- If the key is the host, the rules are all that the host has. -/
theorem answer?_oneRule {url host : String} (hurl : insecureHost? url = some host) :
    (oneRule host payload).answer? url = upgraded? payload url := by
  have hself : (oneRule host payload).under? url host = upgraded? payload url := by
    rw [Rules.under?, oneRule, if_pos rfl, Option.bind_some]
  obtain ⟨more, hkeys⟩ : ∃ more, keys host = host :: more :=
    List.head?_eq_some_iff.1 (head?_keys host)
  rw [Rules.answer?, hurl, Option.bind_some, hkeys, List.findSome?_cons, hself]
  cases hanswer : upgraded? payload url with
  | some target => rfl
  | none =>
      -- no other key has rules, and the host again has those without a result
      refine List.findSome?_eq_none_iff.2 fun k _ => ?_
      by_cases hk : k = host
      · rw [hk, hself, hanswer]
      · rw [Rules.under?, oneRule, if_neg hk, Option.bind_none]

end Asking

section Results

variable {tree : Tree} {input output h host : String} {vs : List Value} {p : Place}
variable {s : RuleStore} {r : Upgrader} {url : String} {request : Nat}

/-- A call for an address that goes to the store at a place: below the limit, and the address is
not remembered. -/
structure Asks (tree : Tree) (p : Place) (s : RuleStore) (r : Upgrader) (url : String)
    (request : Nat) : Prop where
  /-- The store was opened from the file at the place. -/
  opened : (∃ path, RuleStore.openIn tree path = .ok s) ∧ s.place? = some p
  below : r.upgrades request < r.maxRedirects
  unknown : r.remembered? url = none

/-- What a call for an address of the host asks for once its rules were stored, and what it
replies. -/
theorem ImportsOne.turn_upgrade (himports : ImportsOne tree input output h vs p)
    (hasks : Asks (importRules .standard tree input output).files p s r url request)
    (hurl : insecureHost? url = some host) :
    let rules := oneRule (Host.normalize h) (Value.list vs).text
    let lookups := r.lookups RuleStore.ask s (.upgrade url request)
    lookups.head? = some (host, .found (rules host)) ∧
      lookups ⊆ ((keys host).map fun key => (key, .found (rules key))) ∧
      (r.answer RuleStore.ask s (.upgrade url request)).1 = .address (rules.answer? url) := by
  intro rules lookups
  obtain ⟨⟨⟨path, hopen⟩, hplace⟩, hbelow, hknown⟩ := hasks
  obtain ⟨-, d, hrows, hd⟩ := himports.exists_database
  have hs : s.database = d := database_of_openIn hopen hplace hd
  have hserves := servesWithin_oneRule hrows
  have hconsult : r.consult url request = (.open host, r.consulted url request) := by
    rw [Upgrader.consult_of_lt hurl hbelow, hknown]
  have hheard := heard_servesWithin hserves hs (keys host)
  have hwalked := walked_walk RuleStore.ask url (keys host) s
  have hlookups : lookups = walkLookups RuleStore.ask url (keys host) s :=
    Upgrader.lookups_upgrade_of_open _ _ _ hbelow hconsult
  rw [hheard, ← hlookups] at hwalked
  refine ⟨?_, hwalked.subset,
    Upgrader.reply_upgrade_of_open _ _ _ hserves hs hurl hbelow hconsult⟩
  rw [hwalked.head?_eq, List.head?_map, head?_keys]
  rfl

/-- **The rules stored for a host text are asked for first, if it is kept as it is written.**
The first key that is asked for about `http://h/` is the host that is read from it, and the rules
for `h` are stored under that key exactly if `h` is kept: it has characters below 128 and no
percent signs, and if it is read as a version 4 address, that is in its usual form.  A call for
the address is told of these rules under the key that they are stored under, and of no others; so
if `h` is kept, it is told of them first and replies what they make of the address, and if not,
it is told first that there are none. -/
theorem stored_rules_are_asked_first (hh : Url.IsHostText h)
    (hhost : insecureHost? ("http://" ++ h ++ "/") = some host) :
    (keys host).head? = some host ∧
      (Host.normalize h = host ↔ Url.KeptAsWritten h) ∧
      ∀ {tree input output vs p}, ImportsOne tree input output h vs p →
        let imported := importRules .standard tree input output
        let payload := (Value.list vs).text
        let rules := oneRule (Host.normalize h) payload
        imported.code = 0 ∧
        (∃ d, Database.databaseAt imported.files p = some d ∧
          d.rows? = some [(Host.normalize h, .text payload)]) ∧
        (∀ {path l file}, Location.ofPath .readOnly path = .ok l → l.file? = some file →
          imported.files.reckon? file = some p →
          ∃ s, RuleStore.openIn imported.files path = .ok s ∧ s.place? = some p) ∧
        ∀ {s r request}, Asks imported.files p s r ("http://" ++ h ++ "/") request →
          let call := Upgrader.Call.upgrade ("http://" ++ h ++ "/") request
          let lookups := r.lookups RuleStore.ask s call
          lookups.head? = some (host, .found (rules host)) ∧
            lookups ⊆ ((keys host).map fun key => (key, .found (rules key))) ∧
            (Url.KeptAsWritten h → rules host = some payload ∧
              (r.answer RuleStore.ask s call).1 =
                .address (upgraded? payload ("http://" ++ h ++ "/"))) ∧
            (¬ Url.KeptAsWritten h → rules host = none) := by
  have hagree := Url.normalize_eq_iff_kept hh hhost
  refine ⟨head?_keys host, hagree, ?_⟩
  intro tree input output vs p himports imported payload rules
  obtain ⟨hcode, d, hrows, hd⟩ := himports.exists_database
  refine ⟨hcode, ⟨d, hd, hrows⟩, himports.exists_store, ?_⟩
  intro s r request hasks call lookups
  obtain ⟨hfirst, hall, hreply⟩ := himports.turn_upgrade hasks hhost
  refine ⟨hfirst, hall, fun hkept => ?_, fun hnot => ?_⟩
  · have hkey := hagree.2 hkept
    rw [hkey, answer?_oneRule hhost] at hreply
    exact ⟨if_pos hkey.symm, hreply⟩
  · exact if_neg fun hkey => hnot (hagree.1 hkey.symm)

end Results

section Trees

variable {h : String} {v : Value} {vs : List Value}

/-- The list of a host is read from the document with it alone. -/
theorem lists_documentTree (hplain : (Value.object [(h, v)]).Plain) (hlist : v.ordered = .list vs)
    (hdepth : (Value.object [(h, v)]).depth ≤ Value.levels) :
    Lists (documentTree (Value.object [(h, v)]).chars) "rules.json" [(h, .list vs)] := by
  have hmembers : Value.orderedMembers [(h, v)] [] = [(h, .list vs)] := by
    rw [Value.orderedMembers, Value.orderedMembers, hlist]
    rfl
  rw [← hmembers]
  refine lists_of_plain hplain ?_ hdepth
  rw [hmembers]
  exact List.forall_mem_singleton.2 ⟨vs, rfl⟩

theorem importsOne_documentTree (hplain : (Value.object [(h, v)]).Plain)
    (hlist : v.ordered = .list vs) (hdepth : (Value.object [(h, v)]).depth ≤ Value.levels) :
    ImportsOne (documentTree (Value.object [(h, v)]).chars) "rules.json" "4/httpse.sqlite" h vs
      storedAt where
  lists := lists_documentTree hplain hlist hdepth
  fresh := fresh_documentTree _

/-- The store of these rules, asked by an upgrader that remembers nothing. -/
theorem asks_documentTree (hplain : (Value.object [(h, v)]).Plain) (hlist : v.ordered = .list vs)
    (hdepth : (Value.object [(h, v)]).depth ≤ Value.levels) (url : String) :
    ∃ s, Asks (importRules .standard (documentTree (Value.object [(h, v)]).chars) "rules.json"
      "4/httpse.sqlite").files storedAt s (.empty .standard) url 1 := by
  have himports := importsOne_documentTree hplain hlist hdepth
  have hvacant : (documentTree (Value.object [(h, v)]).chars).Vacant "4/httpse.sqlite" storedAt :=
    ⟨rfl, rfl, rfl⟩
  have hreckon : (importRules .standard (documentTree (Value.object [(h, v)]).chars) "rules.json"
      "4/httpse.sqlite").files.reckon? "4/httpse.sqlite" = some storedAt := by
    obtain ⟨opened, hopened, himport⟩ := himports.fresh.importRules_eq
    obtain rfl := Except.ok.inj ((RuleStore.connect_of_vacant rfl hvacant).symm.trans hopened)
    rw [(himport _ himports.lists).1]
    show (RuleStore.saved _ _).reckon? _ = _
    rw [RuleStore.saved_of_absent _ hvacant.absent]
    exact Tree.reckon?_of_walk (Tree.walk_put _ hvacant.absent hvacant.walk)
  have hpath : Location.ofPath .readOnly "4/httpse.sqlite" =
      .ok ⟨some "4/httpse.sqlite", .readOnly⟩ := rfl
  obtain ⟨s, hopen, hplace⟩ := himports.exists_store hpath rfl hreckon
  refine ⟨s, ⟨⟨_, hopen⟩, hplace⟩, ?_, ?_⟩
  · simp [Upgrader.upgrades, Upgrader.counted?, Upgrader.empty, Redirects.empty, Config.standard]
  · simp [Upgrader.remembered?, Upgrader.empty]

/-- The plain rule. -/
def plainRules : List Value :=
  [.object [("r", .list [.list [.null, .null, .number (.natural 1)]])]]

theorem plain_plainRules (h : String) : (Value.object [(h, .list plainRules)]).Plain := by
  have hrule : (Value.list [.null, .null, .number (.natural 1)]).Plain := by
    refine .list ?_
    simp only [List.forall_mem_cons]
    exact ⟨.null, .null, .natural (by decide), nofun⟩
  have hrules : (Value.object [("r", .list [.list [.null, .null, .number (.natural 1)]])]).Plain :=
    .object (by simp) (List.forall_mem_singleton.2 (.list (List.forall_mem_singleton.2 hrule)))
  exact .object (by simp) (List.forall_mem_singleton.2 (.list (List.forall_mem_singleton.2 hrules)))

theorem depth_plainRules (h : String) :
    (Value.object [(h, .list plainRules)]).depth ≤ Value.levels := by
  rw [depth_singleton]
  decide

theorem importsOne_plainRules (h : String) :
    ImportsOne (documentTree (Value.object [(h, .list plainRules)]).chars) "rules.json"
      "4/httpse.sqlite" h plainRules storedAt :=
  importsOne_documentTree (plain_plainRules h) rfl (depth_plainRules h)

/-- Capital letters and a final dot are kept: the rules are found at once. -/
theorem stored_rules_are_asked_first_capitals :
    let h := "WWW.a.com."
    let imported := importRules .standard (documentTree (Value.object [(h, .list plainRules)]).chars)
      "rules.json" "4/httpse.sqlite"
    Url.IsHostText h ∧ insecureHost? ("http://" ++ h ++ "/") = some "www.a.com" ∧
      Url.KeptAsWritten h ∧ imported.code = 0 ∧
      ∃ s, Asks imported.files storedAt s (.empty .standard) ("http://" ++ h ++ "/") 1 ∧
        ((Upgrader.empty .standard).answer RuleStore.ask s
          (.upgrade ("http://" ++ h ++ "/") 1)).1 = .address (some "https://WWW.a.com./") := by
  intro h imported
  have hdirect : Url.IsDirect h.toList := by decide +kernel
  have hnormal : Host.normalize h = "www.a.com" := by decide +kernel
  have hhost := Url.insecureHost?_of_direct hdirect (by decide +kernel)
  have hkept : Url.KeptAsWritten h := ⟨by decide +kernel, by decide +kernel⟩
  have hanswer : upgraded? (Value.list plainRules).text ("http://" ++ h ++ "/") =
      some "https://WWW.a.com./" := by
    decide +kernel
  obtain ⟨s, hasks⟩ := asks_documentTree (plain_plainRules h) rfl (depth_plainRules h)
    ("http://" ++ h ++ "/")
  obtain ⟨hcode, -, -, hcalls⟩ :=
    (stored_rules_are_asked_first hdirect.isHostText hhost).2.2 (importsOne_plainRules h)
  obtain ⟨-, -, hreply, -⟩ := hcalls hasks
  rw [hnormal] at hhost
  refine ⟨hdirect.isHostText, hhost, hkept, hcode, s, hasks, ?_⟩
  rw [← hanswer]
  exact (hreply hkept).2

/-- A short version 4 address is not kept: it is asked for as four numbers, and the rules that
are stored for it are not found. -/
theorem stored_rules_are_not_asked_short :
    let h := "127.1"
    let imported := importRules .standard (documentTree (Value.object [(h, .list plainRules)]).chars)
      "rules.json" "4/httpse.sqlite"
    Url.IsHostText h ∧ insecureHost? ("http://" ++ h ++ "/") = some "127.0.0.1" ∧
      (keys "127.0.0.1").head? ≠ some (Host.normalize h) ∧
      imported.code = 0 ∧
      ∃ s, Asks imported.files storedAt s (.empty .standard) ("http://" ++ h ++ "/") 1 ∧
        (∀ e ∈ (Upgrader.empty .standard).lookups RuleStore.ask s
          (.upgrade ("http://" ++ h ++ "/") 1), e.2 = .found none) ∧
        ((Upgrader.empty .standard).answer RuleStore.ask s
          (.upgrade ("http://" ++ h ++ "/") 1)).1 = .address none := by
  intro h imported
  have hdirect : Url.IsDirect h.toList := by decide +kernel
  have hread : Url.Host.parse h.toList = .ok (.version4 2130706433) := by
    rw [hdirect.parse_eq]
    decide +kernel
  have hhost : insecureHost? ("http://" ++ h ++ "/") = some "127.0.0.1" :=
    (Url.insecureHost?_front hdirect.isHostText).2 ⟨_, hread, by decide +kernel⟩
  have hkey : Host.normalize h = "127.1" := by decide +kernel
  have hkeys : keys "127.0.0.1" = ["127.0.0.1", "*.0.0.1", "*.0.1", "127.0.0.*"] := by
    decide +kernel
  obtain ⟨s, hasks⟩ := asks_documentTree (plain_plainRules h) rfl (depth_plainRules h)
    ("http://" ++ h ++ "/")
  obtain ⟨-, hall, hreply⟩ := (importsOne_plainRules h).turn_upgrade hasks hhost
  have hnone : ∀ key ∈ keys "127.0.0.1",
      oneRule (Host.normalize h) (Value.list plainRules).text key = none := by
    rw [hkeys, hkey]
    simp [oneRule]
  refine ⟨hdirect.isHostText, hhost, ?_, (importsOne_plainRules h).exists_database.1, s, hasks,
    fun e he => ?_, ?_⟩
  · rw [head?_keys, hkey]
    decide
  · obtain ⟨key, hmem, rfl⟩ := List.mem_map.1 (hall he)
    rw [hnone key hmem]
  · rw [hreply, Rules.answer?, hhost, Option.bind_some, List.findSome?_eq_none_iff.2]
    intro key hmem
    rw [Rules.under?, hnone key hmem, Option.bind_none]

end Trees

end CommandLine
end RequestGuard
