import RequestGuard.Config.Basic
import RequestGuard.Failure
import RequestGuard.Json.Value

/-!
# Configuration documents

The written form of a configuration.  Every member may be left out, but a file is given
by both its version and its name.

`Config.ofText` accepts usable configurations only, `Config.parse` any.
-/

namespace RequestGuard

open Json

section Reading

/-- The largest capacity. -/
def capacityLimit : Nat := 0xFFFFFFFFFFFFFFFF

/-- The largest number of upgrades. -/
def redirectLimit : Nat := 0xFFFFFFFF

/-- A member that may be left out. -/
def Json.Member.given {σ α : Type} (name : String) (value : Reader α) (set : α → σ → σ) :
    Member σ :=
  ⟨name, false, do
    let a ← value
    pure (set a)⟩

/-- A file of rule data. -/
def RuleFile.record : Record RuleFile where
  name := "RuleFileConfig"
  start := ⟨"", ""⟩
  members :=
    [{ Member.given "version" Reader.string fun a f => { f with version := a } with
        required := true },
      { Member.given "file_name" Reader.string fun a f => { f with fileName := a } with
        required := true }]

/-- A regional list. -/
def RegionalList.record : Record RegionalList where
  name := "RegionalListConfig"
  start := .blank
  members :=
    [.given "uuid" Reader.string fun a l => { l with uuid := a },
      .given "title" Reader.string fun a l => { l with title := a },
      .given "langs" (Reader.list Reader.string) fun a l => { l with langs := a },
      .given "file" RuleFile.record.read fun a l => { l with file := a },
      .given "enabled" Reader.boolean fun a l => { l with enabled := a }]

/-- A capacity. -/
def capacity : Reader Nat :=
  Reader.naturalUpTo capacityLimit "usize"

/-- A configuration. -/
def Config.record : Record Config where
  name := "EngineConfig"
  start := .standard
  members :=
    [.given "data_dir" (Reader.textAs "path string") fun a c => { c with dataDir := a },
      .given "locale" Reader.string fun a c => { c with locale := a },
      .given "tracking_protection" RuleFile.record.read fun a c => { c with tracking := a },
      .given "ad_block" RuleFile.record.read fun a c => { c with adBlock := a },
      .given "regional" (Reader.list RegionalList.record.read)
        fun a c => { c with regional := a },
      .given "httpse" RuleFile.record.read fun a c => { c with https := a },
      .given "https_cache_capacity" capacity fun a c => { c with upgradeCapacity := a },
      .given "third_party_cache_capacity" capacity fun a c => { c with siteCapacity := a },
      .given "redirect_table_capacity" capacity fun a c => { c with redirectCapacity := a },
      .given "max_redirects" (Reader.naturalUpTo redirectLimit "u32")
        fun a c => { c with maxRedirects := a }]

/-- The configuration that a text describes, usable or not. -/
def Config.parse (text : String) : Except String Config :=
  let bytes := Text.Utf8.bytes text
  (Config.record.read.ofText bytes).mapError (·.message bytes)

/-- A configuration, if it is usable. -/
def Config.usable (c : Config) : Except Failure Config :=
  match c.fault? with
  | some b => .error (.config s!"{b.name} must be > 0")
  | none => .ok c

/-- The usable configuration that a text describes. -/
def Config.ofText (text : String) : Except Failure Config :=
  match Config.parse text with
  | .error reason => .error (.config reason)
  | .ok c => c.usable

/-- A configuration is accepted as it is, or not at all. -/
theorem Config.usable_eq_ok_iff (c d : Config) :
    c.usable = .ok d ↔ c.fault? = none ∧ c = d := by
  rw [Config.usable]
  cases c.fault? with
  | none => simp
  | some b => simp

end Reading

section Writing

/-- A file as a document. -/
def RuleFile.document (f : RuleFile) : Value :=
  .object [("version", .string f.version), ("file_name", .string f.fileName)]

/-- A regional list as a document. -/
def RegionalList.document (l : RegionalList) : Value :=
  .object
    [("uuid", .string l.uuid), ("title", .string l.title),
      ("langs", .list (l.langs.map .string)), ("file", l.file.document),
      ("enabled", .boolean l.enabled)]

/-- A configuration as a document. -/
def Config.document (c : Config) : Value :=
  .object
    [("data_dir", .string c.dataDir), ("locale", .string c.locale),
      ("tracking_protection", c.tracking.document), ("ad_block", c.adBlock.document),
      ("regional", .list (c.regional.map RegionalList.document)), ("httpse", c.https.document),
      ("https_cache_capacity", .number (.natural c.upgradeCapacity)),
      ("third_party_cache_capacity", .number (.natural c.siteCapacity)),
      ("redirect_table_capacity", .number (.natural c.redirectCapacity)),
      ("max_redirects", .number (.natural c.maxRedirects))]

/-- The text of a configuration. -/
def Config.text (c : Config) : String :=
  c.document.text

end Writing

end RequestGuard
