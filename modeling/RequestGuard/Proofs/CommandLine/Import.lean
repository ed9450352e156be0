import RequestGuard.CommandLine.Run
import RequestGuard.Proofs.Loading.Stages
import RequestGuard.Proofs.Upgrade.Imported
import RequestGuard.Proofs.Upgrade.Transparency

/-!
# Rules that are imported and then asked for

A call stores the rules of a document in a new database, and a later call asks for the
secure form of an address.

* `importRules_of_depth_le`, `importRules_of_lt_depth`: what the first call leaves behind.
* `read_importRules`, `read_https`: the arguments of both calls.
* `head?_https`: the first line of the second call is the first answer of its rules.
* `https_after_import`: together they answer as the document tells.
-/

namespace RequestGuard
namespace CommandLine

open Files Json Upgrade

section Importing

variable {ms : List (String × Value)} {t : List Char}
variable {tree : Tree} {input output : String} {p : Place}

/-- The files with the rules of a document in a new database. -/
def withRules (tree : Tree) (p : Place) (ms : List (String × Value)) : Tree :=
  tree.put p (.file (RuleDocument.database ms).bytes)

/-- A path of a file that is not there yet, but can be made at a place. -/
structure NewFile (tree : Tree) (output : String) (p : Place) : Prop where
  /-- The path tells a file, and that leads to the place. -/
  vacant : ∃ file, Location.ofPath .create output = .ok ⟨some file, .create⟩ ∧
    tree.Vacant file p

theorem NewFile.absent (h : NewFile tree output p) : tree.lookup? p = none := by
  obtain ⟨file, -, hvacant⟩ := h.vacant
  exact hvacant.absent

/-- The rules of a document are stored in a new database. -/
theorem importRules_of_depth_le (hms : RuleDocument.Sound ms) (ht : (Value.object ms).Spells t)
    (ws ws' : Blanks) (hdepth : (Value.object ms).depth ≤ Value.levels)
    (hinput : tree.readText input = .ok (String.ofList (ws.chars ++ (t ++ ws'.chars))))
    (hnew : NewFile tree output p) :
    (importRules .standard tree input output).code = 0 ∧
      (importRules .standard tree input output).files = withRules tree p ms := by
  have hentries := RuleDocument.entries_of_depth_le hms ht hdepth ws ws'
  obtain ⟨file, hpath, hvacant⟩ := hnew.vacant
  have hconnect := RuleStore.connect_of_vacant hpath hvacant
  have hstored := RuleStore.perform_of_putAll (s := ⟨some p, true, .blank⟩) (fun _ => rfl) rfl
    (RuleDocument.putAll_stored hms .standard)
  rw [importRules, hinput]
  simp only [hentries, hconnect, hstored]
  exact ⟨rfl, RuleStore.saved_of_absent _ hvacant.absent⟩

/-- A document that is nested too deep is refused, and the files stay as they are. -/
theorem importRules_of_lt_depth (output : String) (hms : RuleDocument.Sound ms)
    (ht : (Value.object ms).Spells t) (ws ws' : Blanks)
    (hdepth : Value.levels < (Value.object ms).depth)
    (hinput : tree.readText input = .ok (String.ofList (ws.chars ++ (t ++ ws'.chars)))) :
    (importRules .standard tree input output).code = 1 ∧
      (importRules .standard tree input output).files = tree := by
  obtain ⟨reason, hentries⟩ := RuleDocument.entries_of_lt_depth hms ht hdepth ws ws'
  rw [importRules, hinput]
  simp only [hentries]
  exact ⟨rfl, rfl⟩

end Importing

section Asking

variable {c : Config} (make : Matcher.Factory) {tree : Tree} {url : String} {request : Nat}

/-- A guard whose upgrade rules were opened. -/
def opened (g : Guard) (s : RuleStore) : Guard :=
  { g with https := ⟨.https, some (.database s), true, 0⟩ }

/-- A database in which no lookup fails serves its rules until something happens to its file. -/
theorem servesWithin_of_get {s : RuleStore} {rules : Rules}
    (hrules : ∀ key, s.get key = .ok (rules key)) :
    ServesWithin (· = Source.Past.none) (Source.database s).ask rules := by
  rintro past rfl key
  have hlookup : Source.lookup s .none key = .ok (rules key) := hrules key
  simp [Source.ask, hlookup]

theorem ruleSource_of_ok {s : RuleStore} (h : Guard.ruleStore c tree = .ok s) :
    Guard.ruleSource c tree = .ok (.database s) := by
  rw [Guard.ruleSource, h]
  rfl

theorem ruleSource_of_error {f : Failure} (h : Guard.ruleStore c tree = .error f) :
    Guard.ruleSource c tree = .error f := by
  rw [Guard.ruleSource, h]
  rfl

theorem initHttps_start {s : RuleStore} (h : Guard.ruleStore c tree = .ok s) :
    ∃ log, (Guard.start c make).initHttps tree = (true, log, opened (Guard.start c make) s) := by
  have hinit : (Guard.start c make).https.init (fun _ => .ofExcept (Guard.ruleSource c tree)) =
      ⟨some true, true, [], ⟨.https, some (.database s), true, 0⟩⟩ := by
    rw [Lazy.init_of_value?_eq_none rfl, ruleSource_of_ok h]
    rfl
  exact ⟨_, congrArg (fun turn : Lazy.Turn Source Bool => (turn.answer?.getD false,
    turn.told fun _ => Guard.httpsLog c tree, { Guard.start c make with https := turn.lazy })) hinit⟩

theorem initHttps_start_of_error {f : Failure} (h : Guard.ruleStore c tree = .error f) :
    ((Guard.start c make).initHttps tree).1 = false := by
  have hinit : ((Guard.start c make).https.init
      fun _ => .ofExcept (Guard.ruleSource c tree)).answer? = some false := by
    rw [Lazy.init_of_value?_eq_none rfl, ruleSource_of_error h]
    rfl
  exact congrArg (Option.getD · false) hinit

/-- The first line is numbered by one and tells the first answer. -/
theorem head?_httpsLines (g : Guard) (more : Nat) :
    (httpsLines tree url request false (more + 1) 1 g).1.head? =
      some ("1: " ++ (g.secureUrl tree url request).1.join.getD "no rule") := by
  have hnumber : toString 1 ++ ": " = "1: " := by decide
  rw [← hnumber]
  rfl

/-- A call whose rules are open prints its answers and one line more. -/
theorem https_of_initHttps {g g' : Guard} {log : List LogLine} (url : String)
    (request repeats : Nat) (cacheOnly : Bool) (h : g.initHttps tree = (true, log, g')) :
    ∃ line, (https g tree url request repeats cacheOnly).code = 0 ∧
      (https g tree url request repeats cacheOnly).output =
        (httpsLines tree url request cacheOnly (max repeats 1) 1 g').1 ++ [line] := by
  rw [https, h]
  exact ⟨_, rfl, rfl⟩

/-- The first line about an address is the first answer. -/
theorem head?_https {s : RuleStore} {answer? : Option String} {repeats : Nat}
    (hstore : Guard.ruleStore c tree = .ok s)
    (hanswer : ((Upgrader.empty c).upgrade (Source.database s).ask url request .none).1 =
      some answer?) :
    (https (Guard.start c make) tree url request repeats false).code = 0 ∧
      (https (Guard.start c make) tree url request repeats false).output.head? =
        some ("1: " ++ answer?.getD "no rule") := by
  obtain ⟨log, hinit⟩ := initHttps_start make hstore
  obtain ⟨more, hmore⟩ : ∃ more, max repeats 1 = more + 1 := ⟨max repeats 1 - 1, by omega⟩
  have hfirst : ((opened (Guard.start c make) s).secureUrl tree url request).1 = some answer? :=
    hanswer
  obtain ⟨line, hcode, houtput⟩ := https_of_initHttps url request repeats false hinit
  refine ⟨hcode, ?_⟩
  rw [houtput, hmore, List.head?_append, head?_httpsLines, hfirst]
  rfl

/-- A call whose rules cannot be opened prints no answers. -/
theorem https_of_error {f : Failure} {repeats : Nat} {cacheOnly : Bool}
    (h : Guard.ruleStore c tree = .error f) :
    (https (Guard.start c make) tree url request repeats cacheOnly).code = 1 ∧
      (https (Guard.start c make) tree url request repeats cacheOnly).output = [] := by
  rcases hinit : (Guard.start c make).initHttps tree with ⟨ready, log, g⟩
  have hready := initHttps_start_of_error make h
  rw [hinit] at hready
  obtain rfl : ready = false := hready
  rw [https, hinit]
  exact ⟨rfl, rfl⟩

end Asking

section Calls

variable {tree : Tree} {c : Config} {i : Invocation} {p : Place}

theorem withGuard_of_config (hconfig : configFor i tree = .ok c) (husable : c.fault? = none)
    (ask : Guard → Outcome) :
    withGuard i tree ask = ask (Guard.start c Guard.filterMatcher) := by
  have hguard : (configFor i tree).bind (fun c => Guard.ofConfig c Guard.filterMatcher) =
      .ok (Guard.start c Guard.filterMatcher) := by
    rw [hconfig]
    show c.usable.map _ = _
    rw [(Config.usable_eq_ok_iff c c).2 ⟨husable, rfl⟩]
    rfl
  rw [withGuard, hguard]

/-- The configuration that a call names is the same after a file was made where nothing was. -/
theorem configFor_put (e : Entry) (habsent : tree.lookup? p = none)
    (h : configFor i tree = .ok c) : configFor i (tree.put p e) = .ok c := by
  rw [configFor] at h ⊢
  cases hpath : i.config? with
  | none =>
      rw [hpath] at h
      exact h
  | some path =>
      rw [hpath] at h
      dsimp only at h ⊢
      have hread : readConfig (tree.put p e) path = readConfig tree path := by
        rw [readConfig, readConfig]
        cases htext : tree.readText path with
        | error fault =>
            rw [readConfig, htext] at h
            cases h
        | ok text => rw [Tree.readText_put e habsent htext]
      rw [hread]
      exact h

theorem maxRedirects_ne_zero (h : c.fault? = none) : c.maxRedirects ≠ 0 := by
  intro hzero
  have hfault := List.find?_eq_none.1 h .maxRedirects (by simp)
  exact hfault (decide_eq_true hzero)

/-- A place for new upgrade rules: nothing is there, and the configuration names it. -/
structure NewDatabase (tree : Tree) (c : Config) (output : String) (p : Place) : Prop where
  /-- Nothing is there. -/
  made : NewFile tree output p
  /-- The upgrade rules are looked for there. -/
  configured : tree.walk (c.https.path c.dataDir) = .ok p
  /-- They are opened there, which is the same unless the path is an address. -/
  opened : ∃ file, Location.ofPath .readOnly (c.https.path c.dataDir) =
    .ok ⟨some file, .readOnly⟩ ∧ tree.walk file = .ok p

variable {output : String} {ms : List (String × Value)}

/-- The rules of a document are opened from the database that was made. -/
theorem NewDatabase.ruleStore_withRules (h : NewDatabase tree c output p) :
    Guard.ruleStore c (withRules tree p ms) =
      .ok ⟨some p, false, RuleDocument.database ms⟩ := by
  have hfile : (withRules tree p ms).isFile (c.https.path c.dataDir) = true :=
    Tree.isFile_put _ h.configured h.made.absent
  have hresolve : c.https.resolve c.dataDir (withRules tree p ms) =
      .ok (c.https.path c.dataDir) := by
    rw [RuleFile.resolve, hfile]
    rfl
  obtain ⟨file, hpath, hwalk⟩ := h.opened
  have hopen : RuleStore.openIn (withRules tree p ms) (c.https.path c.dataDir) =
      .ok ⟨some p, false, RuleDocument.database ms⟩ :=
    RuleStore.openIn_put hpath hwalk h.made.absent
  rw [Guard.ruleStore, hresolve]
  show (RuleStore.openIn (withRules tree p ms) _).mapError _ = _
  rw [hopen]
  rfl

theorem NewDatabase.ruleStore_eq_error (h : NewDatabase tree c output p) :
    Guard.ruleStore c tree = .error (.dataMissing (c.https.path c.dataDir)) := by
  have hfile : tree.isFile (c.https.path c.dataDir) = false :=
    Tree.isFile_eq_false h.configured h.made.absent
  rw [Guard.ruleStore, RuleFile.resolve, hfile]
  rfl

end Calls

section Arguments

/-- The arguments that import rules. -/
theorem read_importRules {input output : String} (hinput : shapeOf input = .plain)
    (houtput : shapeOf output = .plain) :
    read ["import-httpse", "--input", input, "--output", output] =
      .ok ⟨none, none, none, 0, .importRules input output⟩ := by
  show (readOptions _ [input, "--output", output]
    ⟨[], some { valued "input" with letter? := some 'i' }⟩ >>= _ : Except Stop Invocation) = _
  rw [readOptions, hinput]
  show (readOptions _ [output] ⟨[("input", input)],
    some { valued "output" with letter? := some 'o' }⟩ >>= _ : Except Stop Invocation) = _
  rw [readOptions, houtput]
  rfl

/-- The arguments that ask for an address. -/
theorem read_https {url : String} (h : shapeOf url = .plain) :
    read ["https", "--url", url] = .ok ⟨none, none, none, 0, .https url 1 1 false⟩ := by
  show (readOptions _ [url] ⟨[], some (valued "url")⟩ >>= _ : Except Stop Invocation) = _
  rw [readOptions, h]
  rfl

end Arguments

section Results

variable {ms : List (String × Value)} {t : List Char}
variable {tree : Tree} {c : Config} {input output : String} {p : Place}
variable {first second : List String} {importing asking : Invocation}
variable {url : String} {request repeats : Nat}

theorem run_of_read {arguments : List String} {i : Invocation}
    (h : read arguments = .ok i) (tree : Tree) : run arguments tree = i.run tree := by
  rw [run, h]

theorem run_of_importRules (h : read first = .ok importing)
    (hcommand : importing.command = .importRules input output) (tree : Tree) :
    run first tree = importRules .standard tree input output := by
  rw [run_of_read h, Invocation.run, hcommand]

/-- A call for an address asks a guard that has loaded nothing. -/
theorem run_of_https (h : read second = .ok asking)
    (hcommand : asking.command = .https url request repeats false)
    (hconfig : configFor asking tree = .ok c) (husable : c.fault? = none) :
    run second tree =
      https (Guard.start c Guard.filterMatcher) tree url request repeats false := by
  rw [run_of_read h, Invocation.run, hcommand]
  exact withGuard_of_config hconfig husable _

/-- A document that is not nested too deep is imported, and then its rules answer. -/
theorem https_after_success (hms : RuleDocument.Sound ms) (ht : (Value.object ms).Spells t)
    (ws ws' : Blanks) (hdepth : (Value.object ms).depth ≤ Value.levels)
    (hinput : tree.readText input = .ok (String.ofList (ws.chars ++ (t ++ ws'.chars))))
    (hnew : NewDatabase tree c output p) (hfirst : read first = .ok importing)
    (himporting : importing.command = .importRules input output)
    (hsecond : read second = .ok asking)
    (hasking : asking.command = .https url request repeats false)
    (hconfig : configFor asking tree = .ok c) (husable : c.fault? = none) :
    (run first tree).code = 0 ∧ (run second (run first tree).files).code = 0 ∧
      (run second (run first tree).files).output.head? =
        some ("1: " ++ (RuleDocument.answer? ms url).getD "no rule") := by
  obtain ⟨hcode, hfiles⟩ :=
    importRules_of_depth_le hms ht ws ws' hdepth hinput hnew.made
  have hconfig' : configFor asking (withRules tree p ms) = .ok c :=
    configFor_put _ hnew.made.absent hconfig
  have hserves : ServesWithin (· = Source.Past.none)
      (Source.database ⟨some p, false, RuleDocument.database ms⟩).ask (RuleDocument.rules ms) :=
    servesWithin_of_get (Database.get_text (RuleDocument.stored ms))
  have hanswer := Upgrader.upgrade_empty hserves rfl (maxRedirects_ne_zero husable) url request
  rw [RuleDocument.answer?_rules hms] at hanswer
  rw [run_of_importRules hfirst himporting, hfiles, run_of_https hsecond hasking hconfig' husable]
  exact ⟨hcode, head?_https _ hnew.ruleStore_withRules hanswer⟩

/-- Of a document that is nested too deep nothing is imported, and nothing answers. -/
theorem https_after_refusal (hms : RuleDocument.Sound ms) (ht : (Value.object ms).Spells t)
    (ws ws' : Blanks) (hdepth : Value.levels < (Value.object ms).depth)
    (hinput : tree.readText input = .ok (String.ofList (ws.chars ++ (t ++ ws'.chars))))
    (hnew : NewDatabase tree c output p) (hfirst : read first = .ok importing)
    (himporting : importing.command = .importRules input output)
    (hsecond : read second = .ok asking)
    (hasking : asking.command = .https url request repeats false)
    (hconfig : configFor asking tree = .ok c) (husable : c.fault? = none) :
    (run first tree).code = 1 ∧ (run first tree).files = tree ∧
      (run second (run first tree).files).code = 1 ∧
      (run second (run first tree).files).output = [] := by
  obtain ⟨hcode, hfiles⟩ := importRules_of_lt_depth output hms ht ws ws' hdepth hinput
  rw [run_of_importRules hfirst himporting, hfiles, run_of_https hsecond hasking hconfig husable]
  exact ⟨hcode, rfl, https_of_error _ hnew.ruleStore_eq_error⟩

/-- **Imported rules answer as their document.**  A text of a sound document is imported into
a new database where the configuration looks for it.  If lists and objects are not nested
deeper than they can be read, the import succeeds, and then the first line about any address
is what the document makes of it.  If they are, nothing is imported, and nothing answers.

A line is what is printed at once, with a line break behind it.  An address that a template
gives can hold a line break, and then the line shows as two. -/
theorem https_after_import (hms : RuleDocument.Sound ms) (ht : (Value.object ms).Spells t)
    (ws ws' : Blanks)
    (hinput : tree.readText input = .ok (String.ofList (ws.chars ++ (t ++ ws'.chars))))
    (hnew : NewDatabase tree c output p) (hfirst : read first = .ok importing)
    (himporting : importing.command = .importRules input output)
    (hsecond : read second = .ok asking)
    (hasking : asking.command = .https url request repeats false)
    (hconfig : configFor asking tree = .ok c) (husable : c.fault? = none) :
    let imported := run first tree
    let asked := run second imported.files
    ((Value.object ms).depth ≤ Value.levels →
        imported.code = 0 ∧ asked.code = 0 ∧
          asked.output.head? =
            some ("1: " ++ (RuleDocument.answer? ms url).getD "no rule")) ∧
      (Value.levels < (Value.object ms).depth →
        imported.code = 1 ∧ imported.files = tree ∧ asked.code = 1 ∧ asked.output = []) :=
  ⟨fun hdepth => https_after_success hms ht ws ws' hdepth hinput hnew hfirst himporting hsecond
      hasking hconfig husable,
    fun hdepth => https_after_refusal hms ht ws ws' hdepth hinput hnew hfirst himporting hsecond
      hasking hconfig husable⟩

end Results

section Trees

/-- A line break. -/
def lineBreak : Blanks :=
  ⟨['\n'], by decide⟩

/-- A tree with a text, which ends with a line break, and a directory for rules. -/
def documentTree (text : List Char) : Tree :=
  ⟨[(⟨false, ["4".toList]⟩, .directory),
    (⟨false, ["rules.json".toList]⟩, .file (Text.Utf8.encode (text ++ lineBreak.chars)))]⟩

theorem readText_documentTree (text : List Char) :
    (documentTree text).readText "rules.json" =
      .ok (String.ofList (Blanks.none.chars ++ (text ++ lineBreak.chars))) :=
  Tree.readText_of_walk rfl rfl

/-- The standard configuration looks for its upgrade rules in the directory. -/
theorem newDatabase_documentTree (text : List Char) :
    NewDatabase (documentTree text) .standard "4/httpse.sqlite"
      ⟨false, ["httpse.sqlite".toList, "4".toList]⟩ where
  made := ⟨"4/httpse.sqlite", rfl, ⟨rfl, rfl, rfl⟩⟩
  configured := rfl
  opened := ⟨_, rfl, rfl⟩

/-- The plain rule for one host, as a list of its members. -/
theorem https_after_import_one :
    let ms : List (String × Value) :=
      [("[::1].", .list [.object [("r", .list [.list [.null, .null, .number (.natural 1)]])]])]
    let tree := documentTree (Value.object ms).chars
    let imported :=
      run ["import-httpse", "--input", "rules.json", "--output", "4/httpse.sqlite"] tree
    let asked := run ["https", "--url", "http://[::1]/"] imported.files
    RuleDocument.Sound ms ∧ imported.code = 0 ∧ asked.code = 0 ∧
      asked.output.head? = some "1: https://[::1]/" := by
  intro ms tree
  have hrule : (Value.list [.null, .null, .number (.natural 1)]).Plain := by
    refine .list ?_
    simp only [List.forall_mem_cons]
    exact ⟨.null, .null, .natural (by decide), nofun⟩
  have hrules : (Value.object [("r", .list [.list [.null, .null, .number (.natural 1)]])]).Plain :=
    .object (by simp) (List.forall_mem_singleton.2 (.list (List.forall_mem_singleton.2 hrule)))
  have hsound : RuleDocument.Sound ms :=
    RuleDocument.sound_singleton _ (.list (List.forall_mem_singleton.2 hrules)) ⟨_, rfl⟩
  have hanswer : RuleDocument.answer? ms "http://[::1]/" = some "https://[::1]/" := by
    decide +kernel
  have hread := read_https (show shapeOf "http://[::1]/" = .plain from rfl)
  have hresult := (https_after_import hsound hsound.plain.spells_chars .none lineBreak
    (readText_documentTree _) (newDatabase_documentTree _) (read_importRules rfl rfl) rfl
    hread rfl rfl rfl).1 (by decide)
  rw [hanswer] at hresult
  exact ⟨hsound, hresult⟩

/-- Lists within each other. -/
def nested : Nat → Value
  | 0 => .list []
  | n + 1 => .list [nested n]

theorem plain_nested (n : Nat) : (nested n).Plain := by
  induction n with
  | zero => exact .list nofun
  | succ n ih => exact .list (List.forall_mem_singleton.2 ih)

theorem exists_nested (n : Nat) : ∃ vs, nested n = .list vs := by
  cases n with
  | zero => exact ⟨_, rfl⟩
  | succ n => exact ⟨_, rfl⟩

theorem depth_nested (n : Nat) : (nested n).depth = n + 1 := by
  induction n with
  | zero => rfl
  | succ n ih =>
      show max (nested n).depth 0 + 1 = n + 1 + 1
      rw [ih, Nat.max_zero]

theorem depth_singleton (host : String) (v : Value) :
    (Value.object [(host, v)]).depth = v.depth + 1 := by
  show max v.depth 0 + 1 = _
  rw [Nat.max_zero]

/-- Lists that are nested too deep are not passed over: nothing is imported, and there is no
line about the address. -/
theorem https_after_import_nested :
    let ms : List (String × Value) := [("[::1]", nested 126)]
    let tree := documentTree (Value.object ms).chars
    let imported :=
      run ["import-httpse", "--input", "rules.json", "--output", "4/httpse.sqlite"] tree
    let asked := run ["https", "--url", "http://[::1]/"] imported.files
    RuleDocument.Sound ms ∧ imported.code = 1 ∧ asked.output = [] ∧
      asked.output.head? ≠
        some ("1: " ++ (RuleDocument.answer? ms "http://[::1]/").getD "no rule") := by
  intro ms tree
  have hsound : RuleDocument.Sound ms :=
    RuleDocument.sound_singleton _ (plain_nested 126) (exists_nested 126)
  have hdepth : Value.levels < (Value.object ms).depth := by
    rw [depth_singleton, depth_nested]
    decide
  have hread := read_https (show shapeOf "http://[::1]/" = .plain from rfl)
  obtain ⟨hcode, -, -, houtput⟩ := https_after_refusal hsound hsound.plain.spells_chars .none
    lineBreak hdepth (readText_documentTree _) (newDatabase_documentTree _)
    (read_importRules rfl rfl) rfl hread rfl rfl rfl
  refine ⟨hsound, hcode, houtput, ?_⟩
  rw [houtput]
  exact nofun

end Trees

end CommandLine
end RequestGuard
