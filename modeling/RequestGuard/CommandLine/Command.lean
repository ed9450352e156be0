import RequestGuard.CommandLine.Options

/-!
# Commands

What can be asked on the command line, and how it is written.

Some options belong to every command.  They may stand before the name of the command or
after it; where one stands in both places, the later one counts.
-/

namespace RequestGuard
namespace CommandLine

/-- A command. -/
inductive Command where
  /-- Is a host blocked as a tracker? -/
  | checkTracker (base host : String) (allow : List String)
  /-- Is an address blocked as an advertisement? -/
  | checkAd (tab url resource : String) (regional : Bool)
  /-- What is the secure form of an address? -/
  | https (url : String) (request repeats : Nat) (cacheOnly : Bool)
  /-- Which referrer is sent instead? -/
  | referrer (tab target referrer policy : String) (shieldsDown referrersDisabled : Bool)
  /-- Stores upgrade rules. -/
  | importRules (input output : String)
  /-- Which families can be loaded? -/
  | status
  deriving DecidableEq, Repr

/-- A command with the options that belong to every command. -/
structure Invocation where
  /-- The path of the configuration. -/
  config? : Option String
  /-- The data directory, in place of the one configured. -/
  dataDir? : Option String
  /-- The locale, in place of the one configured. -/
  locale? : Option String
  /-- How often more log lines were asked for. -/
  verbosity : Nat
  /-- The command. -/
  command : Command
  deriving DecidableEq, Repr

section Forms

/-- An option with any value. -/
def valued (name : String) : Switch :=
  ⟨name, none, .value, fun _ => true⟩

/-- An option without a value. -/
def plainFlag (name : String) : Switch :=
  ⟨name, none, .flag, fun _ => true⟩

/-- An option whose value is a path. -/
def pathed (name : String) : Switch :=
  ⟨name, none, .value, fun value => !value.isEmpty⟩

/-- The options of every command. -/
def commonSwitches : List Switch :=
  [pathed "config", pathed "data-dir", valued "locale",
    ⟨"verbose", some 'v', .count, fun _ => true⟩, ⟨"help", some 'h', .flag, fun _ => true⟩]

/-- How a command is written. -/
structure Form where
  /-- The name of the command. -/
  name : String
  /-- Its own options. -/
  switches : List Switch
  /-- The command that options describe. -/
  command : Given → Except Stop Command

/-- The largest number of a request. -/
def requestLimit : Nat := 0xFFFFFFFFFFFFFFFF

/-- The largest number of repetitions. -/
def repeatLimit : Nat := 0xFFFFFFFF

/-- How the commands are written. -/
def forms : List Form :=
  [{ name := "check-tp"
     switches := [valued "base", valued "host", ⟨"allow", none, .values, fun _ => true⟩]
     command := fun g => do
       let base ← g.required "base"
       let host ← g.required "host"
       return .checkTracker base host (g.values "allow") },
    { name := "check-ad"
      switches := [valued "tab", valued "url", valued "type", plainFlag "regional"]
      command := fun g => do
        let tab ← g.required "tab"
        let url ← g.required "url"
        return .checkAd tab url ((g.value? "type").getD "other") (g.has "regional") },
    { name := "https"
      switches :=
        [valued "url",
          { valued "request-id" with
            accepts := fun value => (naturalUpTo? requestLimit value).isSome },
          { valued "repeat" with
            accepts := fun value => (signedUpTo? repeatLimit value).isSome },
          plainFlag "cache-only"]
      command := fun g => do
        let url ← g.required "url"
        let request := ((g.value? "request-id").bind (naturalUpTo? requestLimit)).getD 1
        let repeats := ((g.value? "repeat").bind (signedUpTo? repeatLimit)).getD 1
        return .https url request repeats (g.has "cache-only") },
    { name := "referrer"
      switches :=
        [valued "tab", valued "target", valued "referrer", valued "policy",
          plainFlag "shields-down", plainFlag "referrers-disabled"]
      command := fun g => do
        let tab ← g.required "tab"
        let target ← g.required "target"
        let referrer ← g.required "referrer"
        return .referrer tab target referrer ((g.value? "policy").getD "default")
          (g.has "shields-down") (g.has "referrers-disabled") },
    { name := "import-httpse"
      switches :=
        [{ valued "input" with letter? := some 'i' },
          { valued "output" with letter? := some 'o' }]
      command := fun g => do
        let input ← g.required "input"
        let output ← g.required "output"
        return .importRules input output },
    { name := "status", switches := [], command := fun _ => return .status }]

end Forms

section Reading

/-- Reads the arguments that follow the name of a command. -/
def readForm (f : Form) (before : Given) (arguments : List String) :
    Except Stop Invocation := do
  let (given, rest) ← readOptions (f.switches ++ commonSwitches) arguments .start
  match rest with
  | argument :: _ => .error (.fault (.unknown argument))
  | [] =>
    let command ← f.command given
    let common := given ++ before
    return { config? := common.value? "config"
             dataDir? := common.value? "data-dir"
             locale? := common.value? "locale"
             verbosity :=
               if given.has "verbose" then (given.values "verbose").length
               else (before.values "verbose").length
             command := command }

/-- Reads the names of commands about which help is wanted. -/
def readHelp : List String → Stop
  | [] => .help
  | [name] =>
    if name == "help" || forms.any (·.name == name) then .help else .fault (.unknown name)
  | _ :: argument :: _ => .fault (.unknown argument)

/-- Reads the arguments of a call. -/
def read (arguments : List String) : Except Stop Invocation := do
  let (given, rest) ← readOptions commonSwitches arguments .start
  match rest with
  | [] => .error (.fault .commandMissing)
  | "help" :: names => .error (readHelp names)
  | name :: more =>
    match forms.find? (·.name == name) with
    | some f => readForm f given more
    | none => .error (.fault (.unknown name))

end Reading

end CommandLine
end RequestGuard
