import RequestGuard.Config.Document
import RequestGuard.Proofs.Json.Documents
import RequestGuard.Proofs.Json.Values

/-!
# What configuration documents say

A document may give any of the members of a configuration, and of each regional list any of
its members.  The members may come in any order, with blanks between all parts, and others
may stand among them.

* `Config.spellings each c` tells how each member of `c` may be written; `each` names the
  members that are written of each regional list.
* `Config.only given c` keeps the members of the names given and takes the others from the
  configuration of which nothing is said; `Config.trimmed each c` does so with the regional
  lists.
* `Config.parse_text` and `Config.parse_spelled`: the text of a configuration gives it back,
  and a document what it says of it.
-/

namespace RequestGuard

open Json Text

section Members

/-- How the members of a rule file may be written. -/
def RuleFile.spellings (f : RuleFile) : List (String × Spelling) :=
  [("version", (Value.string f.version).Spells), ("file_name", (Value.string f.fileName).Spells)]

/-- The text of a document that says all of a rule file. -/
def RuleFile.Spells (f : RuleFile) : Spelling := fun t =>
  ∃ names, "version" ∈ names ∧ "file_name" ∈ names ∧ SpellsObject f.spellings names t

/-- How the members of a regional list may be written. -/
def RegionalList.spellings (l : RegionalList) : List (String × Spelling) :=
  [("uuid", (Value.string l.uuid).Spells), ("title", (Value.string l.title).Spells),
    ("langs", (Value.list (l.langs.map .string)).Spells), ("file", l.file.Spells),
    ("enabled", (Value.boolean l.enabled).Spells)]

/-- A regional list of which only some members are said. -/
def RegionalList.only (given : String → Bool) (l : RegionalList) : RegionalList where
  uuid := if given "uuid" then l.uuid else RegionalList.blank.uuid
  title := if given "title" then l.title else RegionalList.blank.title
  langs := if given "langs" then l.langs else RegionalList.blank.langs
  file := if given "file" then l.file else RegionalList.blank.file
  enabled := if given "enabled" then l.enabled else RegionalList.blank.enabled

/-- The text of a document that says members of a regional list. -/
def RegionalList.Spells (p : List String × RegionalList) : Spelling :=
  SpellsObject p.2.spellings p.1

/-- How the members of a configuration may be written, with only some members of each
regional list. -/
def Config.spellings (each : List (List String)) (c : Config) : List (String × Spelling) :=
  [("data_dir", (Value.string c.dataDir).Spells), ("locale", (Value.string c.locale).Spells),
    ("tracking_protection", c.tracking.Spells), ("ad_block", c.adBlock.Spells),
    ("regional", SpellsList RegionalList.Spells (each.zip c.regional)),
    ("httpse", c.https.Spells),
    ("https_cache_capacity", (Value.number (.natural c.upgradeCapacity)).Spells),
    ("third_party_cache_capacity", (Value.number (.natural c.siteCapacity)).Spells),
    ("redirect_table_capacity", (Value.number (.natural c.redirectCapacity)).Spells),
    ("max_redirects", (Value.number (.natural c.maxRedirects)).Spells)]

/-- A configuration of which only some members are said. -/
def Config.only (given : String → Bool) (c : Config) : Config where
  dataDir := if given "data_dir" then c.dataDir else Config.standard.dataDir
  locale := if given "locale" then c.locale else Config.standard.locale
  tracking := if given "tracking_protection" then c.tracking else Config.standard.tracking
  adBlock := if given "ad_block" then c.adBlock else Config.standard.adBlock
  regional := if given "regional" then c.regional else Config.standard.regional
  https := if given "httpse" then c.https else Config.standard.https
  upgradeCapacity :=
    if given "https_cache_capacity" then c.upgradeCapacity else Config.standard.upgradeCapacity
  siteCapacity :=
    if given "third_party_cache_capacity" then c.siteCapacity else Config.standard.siteCapacity
  redirectCapacity :=
    if given "redirect_table_capacity" then c.redirectCapacity
    else Config.standard.redirectCapacity
  maxRedirects := if given "max_redirects" then c.maxRedirects else Config.standard.maxRedirects

/-- A configuration of whose regional lists only some members are said. -/
def Config.trimmed (each : List (List String)) (c : Config) : Config :=
  { c with regional := (each.zip c.regional).map fun p => p.2.only p.1.contains }

/-- A configuration whose counts are within the bounds of their types. -/
structure Config.Fits (c : Config) : Prop where
  upgradeCapacity : c.upgradeCapacity ≤ capacityLimit
  siteCapacity : c.siteCapacity ≤ capacityLimit
  redirectCapacity : c.redirectCapacity ≤ capacityLimit
  maxRedirects : c.maxRedirects ≤ redirectLimit

end Members

section Reading

open Reader

theorem takes_given {σ α : Type} (name : String) {value : Reader α} {set : α → σ → σ}
    {t : List Char} {a : α} (h : Takes value t (some a)) :
    Takes (Member.given name value set).read t (some (set a)) :=
  h.map set

theorem takes_string {s : String} {t : List Char} (h : (Value.string s).Spells t)
    (expected : String) : Takes (textAs expected) t (some s) :=
  agrees_textAs expected (.string s) h

theorem takes_natural {n limit : Nat} (hn : n ≤ limit) (hlimit : limit ≤ naturalLimit)
    {t : List Char} (h : (Value.number (.natural n)).Spells t) (expected : String) :
    Takes (naturalUpTo limit expected) t (some n) := by
  have htakes := agrees_naturalUpTo limit expected (.natural (Nat.le_trans hn hlimit)) h
  rwa [Value.natural?, if_pos hn] at htakes

theorem takes_strings {ss : List String} {t : List Char}
    (h : (Value.list (ss.map .string)).Spells t) : Takes (list string) t (some ss) := by
  have hplain : (Value.list (ss.map .string)).Plain := .list fun v hv => by
    obtain ⟨s, -, rfl⟩ := List.mem_map.1 hv
    exact .string s
  have htold : (ss.map Value.string).mapM Value.string? = some ss :=
    mapM_map_eq_some fun _ _ => rfl
  have htakes := agrees_list agrees_string hplain h
  rwa [Value.items?, htold] at htakes

/-- A rule file with one member of another. -/
def RuleFile.copy (f : RuleFile) (name : String) (g : RuleFile) : RuleFile :=
  match name with
  | "version" => { g with version := f.version }
  | "file_name" => { g with fileName := f.fileName }
  | _ => g

/-- A rule file of which only some members are said. -/
def RuleFile.only (given : String → Bool) (f : RuleFile) : RuleFile where
  version := if given "version" then f.version else RuleFile.record.start.version
  fileName := if given "file_name" then f.fileName else RuleFile.record.start.fileName

theorem RuleFile.names_record : RuleFile.record.names = ["version", "file_name"] :=
  rfl

theorem RuleFile.parts (f : RuleFile) : Parts RuleFile.record f.copy (only · f) where
  start := rfl
  more := fun m hm given hgiven => by
    simp only [record, List.mem_cons, List.not_mem_nil, or_false] at hm
    rcases hm with rfl | rfl
    · simp [Member.given, copy, only]
    · simp [Member.given, copy, only]
  congr := fun given given' hsame => by
    simp only [names_record, List.forall_mem_cons] at hsame
    simp only [only, hsame]

/-- A rule file is read from any document that says all of it. -/
theorem RuleFile.takes_record {f : RuleFile} {t : List Char} (h : f.Spells t) :
    Takes RuleFile.record.read t (some f) := by
  obtain ⟨names, hversion, hfile, ht⟩ := h
  have hread : ∀ m ∈ RuleFile.record.members, ∀ t,
      (f.spellings.lookup m.name).getD Valid t → Takes m.read t (some (f.copy m.name)) := by
    intro m hm t ht
    simp only [record, List.mem_cons, List.not_mem_nil, or_false] at hm
    rcases hm with rfl | rfl
    · exact takes_given "version" (takes_string ht _)
    · exact takes_given "file_name" (takes_string ht _)
  have htakes := takes_spellsObject f.parts rfl hread ht fun m hm _ => by
    simp only [record, List.mem_cons, List.not_mem_nil, or_false] at hm
    rcases hm with rfl | rfl
    · exact hversion
    · exact hfile
  have hall : only names.contains f = f := by
    simp [only, hversion, hfile]
  rwa [hall] at htakes

theorem RuleFile.Spells.valid {f : RuleFile} {t : List Char} (h : f.Spells t) : Valid t := by
  obtain ⟨names, -, -, ht⟩ := h
  refine ht.valid ?_
  simp only [spellings, List.forall_mem_cons]
  exact ⟨fun _ h => h.valid, fun _ h => h.valid, nofun⟩

/-- A regional list with one member of another. -/
def RegionalList.copy (l : RegionalList) (name : String) (k : RegionalList) : RegionalList :=
  match name with
  | "uuid" => { k with uuid := l.uuid }
  | "title" => { k with title := l.title }
  | "langs" => { k with langs := l.langs }
  | "file" => { k with file := l.file }
  | "enabled" => { k with enabled := l.enabled }
  | _ => k

theorem RegionalList.names_record :
    RegionalList.record.names = ["uuid", "title", "langs", "file", "enabled"] :=
  rfl

theorem RegionalList.parts (l : RegionalList) :
    Parts RegionalList.record l.copy (only · l) where
  start := rfl
  more := fun m hm given hgiven => by
    simp only [record, List.mem_cons, List.not_mem_nil, or_false] at hm
    rcases hm with rfl | rfl | rfl | rfl | rfl
    all_goals simp [Member.given, copy, only]
  congr := fun given given' hsame => by
    simp only [names_record, List.forall_mem_cons] at hsame
    simp only [only, hsame]

/-- A regional list is read from any document that says members of it. -/
theorem RegionalList.takes_record {p : List String × RegionalList} {t : List Char}
    (h : Spells p t) : Takes RegionalList.record.read t (some (p.2.only p.1.contains)) := by
  obtain ⟨names, l⟩ := p
  have hread : ∀ m ∈ RegionalList.record.members, ∀ t,
      (l.spellings.lookup m.name).getD Valid t → Takes m.read t (some (l.copy m.name)) := by
    intro m hm t ht
    simp only [record, List.mem_cons, List.not_mem_nil, or_false] at hm
    rcases hm with rfl | rfl | rfl | rfl | rfl
    · exact takes_given "uuid" (takes_string ht _)
    · exact takes_given "title" (takes_string ht _)
    · exact takes_given "langs" (takes_strings ht)
    · exact takes_given "file" (RuleFile.takes_record ht)
    · exact takes_given "enabled" (agrees_boolean (.boolean l.enabled) ht)
  refine takes_spellsObject l.parts rfl hread h fun m hm hrequired => ?_
  simp only [record, List.mem_cons, List.not_mem_nil, or_false] at hm
  rcases hm with rfl | rfl | rfl | rfl | rfl
  all_goals cases hrequired

theorem RegionalList.Spells.valid {p : List String × RegionalList} {t : List Char}
    (h : RegionalList.Spells p t) : Valid t := by
  refine SpellsObject.valid ?_ h
  simp only [spellings, List.forall_mem_cons]
  exact ⟨fun _ h => h.valid, fun _ h => h.valid, fun _ h => h.valid,
    fun _ h => RuleFile.Spells.valid h, fun _ h => h.valid, nofun⟩

/-- A configuration with one member of another. -/
def Config.copy (c : Config) (name : String) (d : Config) : Config :=
  match name with
  | "data_dir" => { d with dataDir := c.dataDir }
  | "locale" => { d with locale := c.locale }
  | "tracking_protection" => { d with tracking := c.tracking }
  | "ad_block" => { d with adBlock := c.adBlock }
  | "regional" => { d with regional := c.regional }
  | "httpse" => { d with https := c.https }
  | "https_cache_capacity" => { d with upgradeCapacity := c.upgradeCapacity }
  | "third_party_cache_capacity" => { d with siteCapacity := c.siteCapacity }
  | "redirect_table_capacity" => { d with redirectCapacity := c.redirectCapacity }
  | "max_redirects" => { d with maxRedirects := c.maxRedirects }
  | _ => d

theorem Config.names_record :
    Config.record.names = ["data_dir", "locale", "tracking_protection", "ad_block", "regional",
      "httpse", "https_cache_capacity", "third_party_cache_capacity", "redirect_table_capacity",
      "max_redirects"] :=
  rfl

theorem Config.parts (c : Config) : Parts Config.record c.copy (only · c) where
  start := rfl
  more := fun m hm given hgiven => by
    simp only [record, List.mem_cons, List.not_mem_nil, or_false] at hm
    rcases hm with rfl | rfl | rfl | rfl | rfl | rfl | rfl | rfl | rfl | rfl
    all_goals simp [Member.given, copy, only]
  congr := fun given given' hsame => by
    simp only [names_record, List.forall_mem_cons] at hsame
    simp only [only, hsame]

/-- A configuration is read from any document that says members of it. -/
theorem Config.takes_record {c : Config} (hc : c.Fits) {each : List (List String)}
    {names : List String} {t : List Char} (h : SpellsObject (c.spellings each) names t) :
    Takes Config.record.read t (some ((c.trimmed each).only names.contains)) := by
  have hread : ∀ m ∈ Config.record.members, ∀ t, ((c.spellings each).lookup m.name).getD Valid t →
      Takes m.read t (some ((c.trimmed each).copy m.name)) := by
    intro m hm t ht
    simp only [record, List.mem_cons, List.not_mem_nil, or_false] at hm
    rcases hm with rfl | rfl | rfl | rfl | rfl | rfl | rfl | rfl | rfl | rfl
    · exact takes_given "data_dir" (takes_string ht _)
    · exact takes_given "locale" (takes_string ht _)
    · exact takes_given "tracking_protection" (RuleFile.takes_record ht)
    · exact takes_given "ad_block" (RuleFile.takes_record ht)
    · refine takes_given "regional" (takes_spellsList (S := RegionalList.Spells) ht ?_)
      exact fun p _ t hp => ⟨hp.valid, RegionalList.takes_record hp⟩
    · exact takes_given "httpse" (RuleFile.takes_record ht)
    · exact takes_given "https_cache_capacity" (takes_natural hc.upgradeCapacity (by decide) ht _)
    · exact takes_given "third_party_cache_capacity"
        (takes_natural hc.siteCapacity (by decide) ht _)
    · exact takes_given "redirect_table_capacity"
        (takes_natural hc.redirectCapacity (by decide) ht _)
    · exact takes_given "max_redirects" (takes_natural hc.maxRedirects (by decide) ht _)
  refine takes_spellsObject (c.trimmed each).parts rfl hread h fun m hm hrequired => ?_
  simp only [record, List.mem_cons, List.not_mem_nil, or_false] at hm
  rcases hm with rfl | rfl | rfl | rfl | rfl | rfl | rfl | rfl | rfl | rfl
  all_goals cases hrequired

/-- A document says of a configuration what its members say. -/
theorem Config.parse_spelled {c : Config} (hc : c.Fits) {each : List (List String)}
    {names : List String} {t : List Char} (h : SpellsObject (c.spellings each) names t)
    (ws ws' : Blanks) :
    Config.parse (String.ofList (ws.chars ++ (t ++ ws'.chars))) =
      .ok ((c.trimmed each).only names.contains) := by
  rw [parse, Utf8.bytes, String.toList_ofList, ofText_eq_ok_of_takes (takes_record hc h) ws ws']
  rfl

end Reading

section Writing

theorem RuleFile.plain_document (f : RuleFile) : f.document.Plain := by
  refine .object (by simp) ?_
  simp only [List.forall_mem_cons]
  exact ⟨.string _, .string _, nofun⟩

/-- What is written of a rule file says all of it. -/
theorem RuleFile.spells_document {f : RuleFile} {t : List Char} (h : f.document.Spells t) :
    f.Spells t := by
  refine ⟨["version", "file_name"], by simp, by simp, h.spellsObject (by simp) ?_⟩
  simp only [List.forall_mem_cons]
  exact ⟨fun _ h => h, fun _ h => h, nofun⟩

theorem RegionalList.plain_document (l : RegionalList) : l.document.Plain := by
  refine .object (by simp) ?_
  simp only [List.forall_mem_cons]
  refine ⟨.string _, .string _, .list fun v hv => ?_, l.file.plain_document, .boolean _, nofun⟩
  obtain ⟨s, -, rfl⟩ := List.mem_map.1 hv
  exact .string s

/-- What is written of a regional list says all of it. -/
theorem RegionalList.spells_document {l : RegionalList} {t : List Char}
    (h : l.document.Spells t) : RegionalList.Spells (RegionalList.record.names, l) t := by
  refine h.spellsObject (by simp) ?_
  simp only [List.forall_mem_cons]
  exact ⟨fun _ h => h, fun _ h => h, fun _ h => h, fun _ h => RuleFile.spells_document h,
    fun _ h => h, nofun⟩

theorem Config.Fits.plain_document {c : Config} (hc : c.Fits) : c.document.Plain := by
  refine .object (by simp) ?_
  simp only [List.forall_mem_cons]
  refine ⟨.string _, .string _, c.tracking.plain_document, c.adBlock.plain_document,
    .list fun v hv => ?_, c.https.plain_document, .natural hc.upgradeCapacity,
    .natural hc.siteCapacity, .natural hc.redirectCapacity,
    .natural (Nat.le_trans hc.maxRedirects (by decide)), nofun⟩
  obtain ⟨l, -, rfl⟩ := List.mem_map.1 hv
  exact l.plain_document

/-- All members of each regional list of a configuration. -/
def Config.allNames (c : Config) : List (List String) :=
  c.regional.map fun _ => RegionalList.record.names

theorem Config.zip_allNames (c : Config) :
    c.allNames.zip c.regional = c.regional.map fun l => (RegionalList.record.names, l) := by
  rw [allNames]
  induction c.regional with
  | nil => rfl
  | cons l more ih => rw [List.map_cons, List.map_cons, List.zip_cons_cons, ih]

/-- What is written of a configuration says all of it. -/
theorem Config.spells_document {c : Config} {t : List Char} (h : c.document.Spells t) :
    SpellsObject (c.spellings c.allNames) Config.record.names t := by
  refine h.spellsObject (by simp) ?_
  simp only [List.forall_mem_cons]
  refine ⟨fun _ h => h, fun _ h => h, fun _ h => RuleFile.spells_document h,
    fun _ h => RuleFile.spells_document h, fun t h => ?_,
    fun _ h => RuleFile.spells_document h, fun _ h => h, fun _ h => h, fun _ h => h,
    fun _ h => h, nofun⟩
  show SpellsList RegionalList.Spells (c.allNames.zip c.regional) t
  have hlists : (c.regional.map fun l => (RegionalList.record.names, l)).map
      (fun p => p.2.document) = c.regional.map RegionalList.document := by
    rw [List.map_map]
    rfl
  rw [zip_allNames]
  refine Value.Spells.spellsList (f := fun p => p.2.document) (hlists ▸ h) fun p hp t ht => ?_
  obtain ⟨l, -, rfl⟩ := List.mem_map.1 hp
  exact RegionalList.spells_document ht

theorem RegionalList.only_names (l : RegionalList) :
    l.only RegionalList.record.names.contains = l := by
  rw [names_record]
  rfl

theorem Config.only_names (c : Config) :
    (c.trimmed c.allNames).only Config.record.names.contains = c := by
  have hlists : (c.regional.map fun l => (RegionalList.record.names, l)).map
      (fun p => p.2.only p.1.contains) = c.regional := by
    rw [List.map_map]
    exact (List.map_congr_left fun l _ => l.only_names).trans (List.map_id _)
  rw [names_record, trimmed, zip_allNames, hlists]
  rfl

/-- The text of a configuration gives it back. -/
theorem Config.parse_text {c : Config} (hc : c.Fits) : Config.parse c.text = .ok c := by
  have hspells := spells_document hc.plain_document.spells_chars
  have hparse := parse_spelled hc hspells .none .none
  rw [only_names] at hparse
  have htext : c.text =
      String.ofList (Blanks.none.chars ++ (c.document.chars ++ Blanks.none.chars)) :=
    congrArg String.ofList (List.append_nil _).symm
  rw [htext]
  exact hparse

/-- A configuration is accepted as it is written if none of its bounds is zero. -/
theorem Config.ofText_text_iff {c : Config} (hc : c.Fits) :
    Config.ofText c.text = .ok c ↔ c.upgradeCapacity ≠ 0 ∧ c.siteCapacity ≠ 0 ∧
      c.redirectCapacity ≠ 0 ∧ c.maxRedirects ≠ 0 := by
  rw [ofText, parse_text hc]
  show c.usable = .ok c ↔ _
  rw [usable_eq_ok_iff, and_iff_left rfl, fault?, List.find?_eq_none]
  simp only [List.forall_mem_cons, decide_eq_true_eq]
  exact ⟨fun ⟨h₁, h₂, h₃, h₄, _⟩ => ⟨h₁, h₂, h₃, h₄⟩,
    fun ⟨h₁, h₂, h₃, h₄⟩ => ⟨h₁, h₂, h₃, h₄, nofun⟩⟩

/-- A configuration can be had from its text, and from a document of it the members that it
gives, with the others as they are when nothing is said.  The names of a document are texts:
half of a surrogate pair in a name spells none, and such a document is not meant here. -/
theorem Config.documents_say {c : Config} (hc : c.Fits) :
    Config.parse c.text = .ok c ∧
    (Config.ofText c.text = .ok c ↔ c.upgradeCapacity ≠ 0 ∧ c.siteCapacity ≠ 0 ∧
      c.redirectCapacity ≠ 0 ∧ c.maxRedirects ≠ 0) ∧
    ∀ (each : List (List String)) (names : List String) (t : List Char) (ws ws' : Blanks),
      SpellsObject (c.spellings each) names t →
      Config.parse (String.ofList (ws.chars ++ (t ++ ws'.chars))) =
        .ok ((c.trimmed each).only names.contains) :=
  ⟨parse_text hc, ofText_text_iff hc, fun _ _ _ ws ws' h => parse_spelled hc h ws ws'⟩

/-- A document with a fraction under an unknown name, blanks and an escape. -/
theorem Config.documents_say_locale :
    Config.standard.Fits ∧ Config.parse Config.standard.text = .ok .standard ∧
    Config.parse "\x7b\"x\" : 1.5,\n\"locale\":\"\\u0064e\"\x7d" =
      .ok { Config.standard with locale := "de" } := by
  have hstandard : Config.standard.Fits := ⟨by decide, by decide, by decide, by decide⟩
  have hgerman : ({ Config.standard with locale := "de" } : Config).Fits :=
    ⟨by decide, by decide, by decide, by decide⟩
  let gap : Blanks := ⟨[' '], by decide⟩
  let line : Blanks := ⟨['\n'], by decide⟩
  let escaped : List Char := ['"', '\\', 'u', '0', '0', '6', '4', 'e', '"']
  let unknown : Json.Entry String Unit :=
    ⟨.none, "x", Value.quote "x", gap, gap, (), "1.5".toList, .none⟩
  let locale : Json.Entry String Unit :=
    ⟨line, "locale", Value.quote "locale", .none, .none, (), escaped, .none⟩
  have hfraction : Valid "1.5".toList :=
    .number ⟨[], ['1'], ['.', '5'], [], Or.inl rfl, Or.inr ⟨⟨nofun, by decide⟩, by decide⟩,
      Or.inr ⟨['5'], ⟨nofun, by decide⟩, rfl⟩, Or.inl rfl, rfl⟩
  have hletter : SpellsChar 'd' ['\\', 'u', '0', '0', '6', '4'] :=
    .numbered ⟨rfl, by decide⟩ rfl
  have hlocale : (Value.string "de").Spells escaped :=
    .string ⟨_, .cons hletter (.cons (.plain ⟨by decide, by decide, by decide⟩) .nil), rfl⟩
  have hspells : SpellsObject (({ Config.standard with locale := "de" } : Config).spellings [])
      ["x", "locale"] (objectChars .none [unknown, locale]) :=
    .intro .none [unknown, locale]
      (List.forall_mem_cons.2 ⟨Value.spellsText_quote "x",
        List.forall_mem_cons.2 ⟨Value.spellsText_quote "locale", nofun⟩⟩)
      (List.forall_mem_cons.2 ⟨hfraction, List.forall_mem_cons.2 ⟨hlocale, nofun⟩⟩)
      (by decide)
  have htext : String.ofList (Blanks.none.chars ++
      (objectChars .none [unknown, locale] ++ Blanks.none.chars)) =
      "\x7b\"x\" : 1.5,\n\"locale\":\"\\u0064e\"\x7d" := rfl
  have hparse := (documents_say hgerman).2.2 [] ["x", "locale"] _ .none .none hspells
  rw [htext] at hparse
  exact ⟨hstandard, (documents_say hstandard).1, hparse⟩

end Writing

end RequestGuard
