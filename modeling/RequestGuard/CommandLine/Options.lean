import RequestGuard.Text.Basic

/-!
# Options

The options among the arguments of a command.

* An option is written with its name after two hyphens, or with its letter after one;
  letters can share a hyphen.
* A value follows as the next argument, or after an equals sign, or right after the
  letter.  An argument that starts with a hyphen is no value, a hyphen alone is one.
* Two hyphens alone end the options; nothing may follow them.
* `readOptions` stops at the first argument that is neither an option nor a value.
-/

namespace RequestGuard
namespace CommandLine

/-- How an option is used. -/
inductive Usage where
  /-- Without a value, once. -/
  | flag
  /-- Without a value, any number of times. -/
  | count
  /-- With a value, once. -/
  | value
  /-- With a value, any number of times. -/
  | values
  deriving DecidableEq, Repr

/-- Does an option have values? -/
def Usage.takesValue : Usage → Bool
  | .value | .values => true
  | .flag | .count => false

/-- May an option be given more than once? -/
def Usage.repeats : Usage → Bool
  | .count | .values => true
  | .flag | .value => false

/-- An option that may be given. -/
structure Switch where
  /-- The name. -/
  name : String
  /-- The letter, if there is one. -/
  letter? : Option Char
  /-- How the option is used. -/
  usage : Usage
  /-- Which values are accepted. -/
  accepts : String → Bool

/-- What is wrong with arguments. -/
inductive UsageFault where
  | unknown (argument : String)
  | valueMissing (option : String)
  | valueUnwanted (option : String)
  | valueRefused (option value : String)
  | repeated (option : String)
  | optionMissing (option : String)
  | commandMissing
  deriving DecidableEq, Repr

/-- A usage fault, in words. -/
def UsageFault.message : UsageFault → String
  | .unknown argument => s!"unexpected argument '{argument}'"
  | .valueMissing option => s!"a value is required for '--{option}'"
  | .valueUnwanted option => s!"'--{option}' takes no value"
  | .valueRefused option value => s!"invalid value '{value}' for '--{option}'"
  | .repeated option => s!"'--{option}' is given more than once"
  | .optionMissing option => s!"'--{option}' is required"
  | .commandMissing => "a command is required"

/-- Why reading ends before the last argument. -/
inductive Stop where
  /-- Help was asked for. -/
  | help
  /-- The arguments cannot be used. -/
  | fault (fault : UsageFault)
  deriving DecidableEq, Repr

/-- Options by name, each with its value, the last one first. -/
abbrev Given : Type := List (String × String)

/-- The state of reading. -/
structure Reading where
  /-- The options that were given. -/
  given : Given
  /-- The option whose value is to come. -/
  waiting? : Option Switch

namespace Reading

/-- Nothing was read. -/
def start : Reading :=
  ⟨[], none⟩

/-- Is the value of an option still to come?  Then nothing else may. -/
def settled (r : Reading) : Except Stop Given :=
  match r.waiting? with
  | none => .ok r.given
  | some s => .error (.fault (.valueMissing s.name))

/-- Notes an option with its value. -/
def give (r : Reading) (s : Switch) (value : String) : Except Stop Reading :=
  if s.name == "help" then .error .help
  else if !s.accepts value then .error (.fault (.valueRefused s.name value))
  else if !s.usage.repeats && r.given.any (·.1 == s.name) then
    .error (.fault (.repeated s.name))
  else .ok ⟨(s.name, value) :: r.given, none⟩

/-- Notes an option, with a value that was written to it, if one was. -/
def option (r : Reading) (s : Switch) (value? : Option String) : Except Stop Reading := do
  let given ← r.settled
  if s.usage.takesValue then
    match value? with
    | some value => give ⟨given, none⟩ s value
    | none => .ok ⟨given, some s⟩
  else
    match value? with
    | some _ => .error (.fault (.valueUnwanted s.name))
    | none => give ⟨given, none⟩ s ""

end Reading

section Arguments

/-- How an argument looks. -/
inductive Shape where
  /-- The end of the options. -/
  | ending
  /-- A name, after two hyphens. -/
  | long (body : List Char)
  /-- Letters, after a hyphen. -/
  | short (letters : List Char)
  /-- Anything else. -/
  | plain

/-- How an argument looks. -/
def shapeOf (argument : String) : Shape :=
  match argument.toList with
  | ['-', '-'] => .ending
  | '-' :: '-' :: body => .long body
  | '-' :: c :: letters => .short (c :: letters)
  | _ => .plain

/-- Reads what follows two hyphens. -/
def readLong (switches : List Switch) (r : Reading) (body : List Char) :
    Except Stop Reading := do
  let name := String.ofList (body.takeWhile (· ≠ '='))
  let value? := match body.dropWhile (· ≠ '=') with
    | [] => none
    | _ :: value => some (String.ofList value)
  match switches.find? (·.name == name) with
  | some s => r.option s value?
  | none => .error (.fault (.unknown ("--" ++ name)))

/-- Reads the letters that follow a hyphen. -/
def readShort (switches : List Switch) : List Char → Reading → Except Stop Reading
  | [], r => .ok r
  | c :: letters, r =>
    match switches.find? (·.letter? == some c) with
    | none => .error (.fault (.unknown (String.ofList ['-', c])))
    | some s =>
      if s.usage.takesValue then
        match letters with
        | [] => r.option s none
        | '=' :: value => r.option s (some (String.ofList value))
        | value => r.option s (some (String.ofList value))
      else do readShort switches letters (← r.option s none)

/-- Reads arguments as far as they are options and values. -/
def readOptions (switches : List Switch) :
    List String → Reading → Except Stop (Given × List String)
  | [], r => do return (← r.settled, [])
  | argument :: more, r =>
    match shapeOf argument with
    | .ending =>
      match more with
      | [] => do return (← r.settled, [])
      | next :: _ => .error (.fault (.unknown next))
    | .long body => do readOptions switches more (← readLong switches r body)
    | .short letters => do readOptions switches more (← readShort switches letters r)
    | .plain =>
      match r.waiting? with
      | some s => do readOptions switches more (← r.give s argument)
      | none => .ok (r.given, argument :: more)

end Arguments

section Values

/-- A natural number up to a limit; a plus sign may stand in front. -/
def naturalUpTo? (limit : Nat) (text : String) : Option Nat :=
  let digits := match text.toList with
    | '+' :: digits => digits
    | digits => digits
  if digits.isEmpty || !digits.all Text.isDigit then none
  else
    let n := Text.decimal digits
    if n ≤ limit then some n else none

/-- A natural number up to a limit; a sign may stand in front, also of zero. -/
def signedUpTo? (limit : Nat) (text : String) : Option Nat :=
  match text.toList with
  | '-' :: digits =>
    if !digits.isEmpty && digits.all (· == '0') then some 0 else none
  | _ => naturalUpTo? limit text

/-- The value of an option. -/
def Given.value? (g : Given) (name : String) : Option String :=
  g.lookup name

/-- The values of an option in the order in which they were given. -/
def Given.values (g : Given) (name : String) : List String :=
  ((g.filter fun p => p.1 == name).map Prod.snd).reverse

/-- Was an option given? -/
def Given.has (g : Given) (name : String) : Bool :=
  (g.lookup name).isSome

/-- The value of an option that must be given. -/
def Given.required (g : Given) (name : String) : Except Stop String :=
  match g.lookup name with
  | some value => .ok value
  | none => .error (.fault (.optionMissing name))

end Values

end CommandLine
end RequestGuard
