import RequestGuard.CommandLine.Command
import RequestGuard.Guard.Answers
import RequestGuard.Referrer.Override
import RequestGuard.Upgrade.RuleDocument
import RequestGuard.Upgrade.Session

/-!
# Running commands

What a command prints, and the files it leaves behind.

* Arguments that cannot be used end a call with code 2, a failure with code 1.
* Each call starts with rules that are not loaded; only files last from one call to the
  next.
-/

namespace RequestGuard
namespace CommandLine

open Files Upgrade

/-- What a call does. -/
structure Outcome where
  /-- The code it ends with. -/
  code : Nat
  /-- The lines it prints.  A line is printed at once, and may hold line breaks of its own. -/
  output : List String
  /-- The lines it prints about what is wrong. -/
  errors : List String
  /-- What it logs. -/
  log : List LogLine
  /-- The files it leaves behind. -/
  files : Tree

namespace Outcome

/-- A call that goes well. -/
def success (t : Tree) (log : List LogLine) (output : List String) : Outcome :=
  ⟨0, output, [], log, t⟩

/-- A call that fails. -/
def failure (t : Tree) (log : List LogLine) (reason : String) : Outcome :=
  ⟨1, [], [s!"Error: {reason}"], log, t⟩

/-- Lines as they are printed. -/
def lines (ls : List String) : String :=
  String.join (ls.map (· ++ "\n"))

end Outcome

section Settings

/-- The configuration of a file. -/
def readConfig (t : Tree) (path : String) : Except Failure Config :=
  match t.readText path with
  | .error fault => .error (.unreadable path fault)
  | .ok text => Config.ofText text

/-- The configuration that a call names. -/
def configFor (i : Invocation) (t : Tree) : Except Failure Config := do
  let c ← match i.config? with
    | some path => readConfig t path
    | none => .ok .standard
  return { c with
    dataDir := i.dataDir?.getD c.dataDir
    locale := i.locale?.getD c.locale }

end Settings

section Questions

/-- The word for a decision. -/
def verdict (blocked : Bool) : String :=
  if blocked then "block" else "allow"

/-- Is a host blocked as a tracker? -/
def checkTracker (g : Guard) (t : Tree) (base host : String) (allow : List String) :
    Outcome :=
  let (ready, log, g) := g.initTracking t
  if !ready then .failure t log "Tracking protection data could not be loaded"
  else
    let (blocked, more, _) := (allow.foldl Guard.allow g).blocksTracker t base host
    .success t (log ++ more) [verdict blocked]

/-- Is an address blocked as an advertisement? -/
def checkAd (g : Guard) (t : Tree) (tab url resource : String) (regional : Bool) : Outcome :=
  let (ready, log, g) := g.initAdBlock t
  if !ready then .failure t log "Ad block data could not be loaded"
  else
    let (found, lists, g) := if regional then g.initRegional t else (true, [], g)
    let (blocked, more, _) :=
      g.blocksAd t tab url (.single (.ofName resource)) regional
    { Outcome.success t (log ++ lists ++ more) [verdict blocked] with
      errors :=
        if found then []
        else [s!"Warning: no regional list loaded for locale '{g.config.locale}'"] }

/-- The lines about repeated questions for a secure address. -/
def httpsLines (t : Tree) (url : String) (request : Nat) (cacheOnly : Bool) :
    Nat → Nat → Guard → List String × List LogLine × Guard
  | 0, _, g => ([], [], g)
  | left + 1, i, g =>
    let (answer, log, g) :=
      if cacheOnly then
        let (answer, g) := g.secureUrlFromCache url request
        (answer, [], g)
      else
        let (answer?, log, g) := g.secureUrl t url request
        (answer?.join, log, g)
    let text := answer.getD "no rule"
    let (ls, more, g) := httpsLines t url request cacheOnly left (i + 1) g
    (s!"{i}: {text}" :: ls, log ++ more, g)

/-- What is the secure form of an address? -/
def https (g : Guard) (t : Tree) (url : String) (request repeats : Nat) (cacheOnly : Bool) :
    Outcome :=
  let (ready, log, g) := g.initHttps t
  if !ready then .failure t log "HTTPS rule database could not be opened"
  else
    let (ls, more, g) := httpsLines t url request cacheOnly (max repeats 1) 1 g
    let (n, _) := g.redirects request
    .success t (log ++ more) (ls ++ [s!"Redirects recorded for request {request}: {n}"])

/-- The line that tells whether a family could be loaded. -/
def statusLine (f : Family) (ready : Bool) : String :=
  let name := String.ofList (f.name.toList.rightpad 20 ' ')
  let state := if ready then "ready" else "unavailable"
  s!"  {name} {state}"

/-- Which families can be loaded? -/
def status (g : Guard) (t : Tree) : Outcome :=
  let (tracking, l₁, g) := g.initTracking t
  let (adBlock, l₂, g) := g.initAdBlock t
  let (regional, l₃, g) := g.initRegional t
  let (https, l₄, g) := g.initHttps t
  .success t (l₁ ++ l₂ ++ l₃ ++ l₄)
    [s!"Data directory: {g.config.dataDir}", s!"Locale: {g.config.locale}",
      statusLine .tracking tracking, statusLine .adBlock adBlock,
      statusLine .regional regional, statusLine .https https]

/-- The situation that a question about a referrer describes. -/
def situation (tab target referrer policy : String) (shieldsDown referrersDisabled : Bool) :
    Except String Referrer.Situation := do
  let address (s : String) : Except String Url :=
    (Url.parse s).mapError fun e => s!"Invalid URL '{s}': {e.message}"
  let tab ← address tab
  let target ← address target
  let current ← if referrer.isEmpty then pure none else some <$> address referrer
  match Referrer.Policy.ofName? policy with
  | none => .error s!"Unknown referrer policy '{policy}'"
  | some p => .ok ⟨!referrersDisabled, !shieldsDown, current, tab, target, current.getD tab, p⟩

/-- The line that tells which referrer is sent instead. -/
def referrerLine (s : Referrer.Situation) : String :=
  match s.override? with
  | none => "no override"
  | some r =>
    let shown := (r.url.map Url.text).getD "no referrer"
    s!"override: {shown}"

end Questions

section Storing

/-- Stores the rules of a document in a database, all of them or none.  The document is looked
through before the database is opened. -/
def importRules (engine : Engine) (t : Tree) (input output : String) : Outcome :=
  match t.readText input with
  | .error fault => .failure t [] s!"Failed to read {input}: {fault.message}"
  | .ok text =>
    match RuleDocument.entries text with
    | .error (.unreadable reason) => .failure t [] s!"Failed to parse {input}: {reason}"
    | .error (.notList host) =>
      .failure t [] s!"Rules for '{host}' must be an array of rulesets"
    | .ok entries =>
      match RuleStore.connect t output with
      | .error fault => .failure t [] (Failure.store fault).message
      | .ok opened =>
        match opened.perform engine (Statement.storing entries) with
        | (some fault, s) => .failure (s.saved t) [] (Failure.store fault).message
        | (none, s) =>
          .success (s.saved t)
            [⟨.info, s!"Wrote {entries.length} entries to {output}"⟩]
            [s!"Imported {entries.length} host entries into {output}"]

end Storing

section Calls

/-- Runs a command that asks a guard. -/
def withGuard (i : Invocation) (t : Tree) (ask : Guard → Outcome) : Outcome :=
  match (configFor i t).bind fun c => Guard.ofConfig c Guard.filterMatcher with
  | .error f => .failure t [] f.message
  | .ok g => ask g

/-- Runs a command. -/
def Invocation.run (i : Invocation) (t : Tree) : Outcome :=
  match i.command with
  | .checkTracker base host allow => withGuard i t (checkTracker · t base host allow)
  | .checkAd tab url resource regional => withGuard i t (checkAd · t tab url resource regional)
  | .https url request repeats cacheOnly =>
    withGuard i t (https · t url request repeats cacheOnly)
  | .referrer tab target referrer policy shieldsDown referrersDisabled =>
    match situation tab target referrer policy shieldsDown referrersDisabled with
    | .error reason => .failure t [] reason
    | .ok s => .success t [] [referrerLine s]
  | .importRules input output => importRules .standard t input output
  | .status => withGuard i t (status · t)

/-- The commands, for readers who ask for help. -/
def help : List String :=
  "Commands:" :: forms.map fun f =>
    "  " ++ " ".intercalate (f.name :: f.switches.map fun s => s!"--{s.name}")

/-- Does what arguments ask for. -/
def run (arguments : List String) (t : Tree) : Outcome :=
  match read arguments with
  | .error .help => .success t [] help
  | .error (.fault fault) => ⟨2, [], [s!"error: {fault.message}"], [], t⟩
  | .ok i => i.run t

/-- The paths of the files that a call may read, as far as the files known so far
tell. -/
def pathsOf (i : Invocation) (t : Tree) : List String :=
  match i.command with
  | .importRules input output => [input, output]
  | .referrer .. => []
  | _ =>
    i.config?.toList ++
      match configFor i t with
      | .error _ => []
      | .ok c =>
        ([c.tracking, c.adBlock, c.https] ++ c.selected.map (·.file)).map (·.path c.dataDir)

end Calls

end CommandLine
end RequestGuard
