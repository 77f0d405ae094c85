/-!
# The command line

What `Cli` accepts: `[PORT] [--config FILE] [--log-level LEVEL]`, and `--help` or `-h`; a port as
`parse_port` takes it. An option takes its value after `=` or from the next argument, and `--` ends
the options. A value is looked at when the argument after it has been recognised, or at the end; an
argument that is not recognised is refused before that.
-/

namespace ChannelGateway

/-- The port that a text denotes: a number of decimal digits, after one `+` at most. -/
def Port.ofDigits? (cs : List Char) : Option UInt16 :=
  let digits : List Char := match cs with
    | '+' :: rest => rest
    | _ => cs
  let n := digits.foldl (fun n d => n * 10 + (d.toNat - 48)) 0
  if digits ≠ [] ∧ digits.all Char.isDigit ∧ n < UInt16.size then some (UInt16.ofNat n) else none

/-- The port that an argument denotes; it may begin with a colon. -/
def Port.ofArgument? (arg : String) : Option UInt16 :=
  match arg.toList with
  | ':' :: rest => Port.ofDigits? rest
  | cs => Port.ofDigits? cs

/-- What is said of an argument that denotes no port. -/
def Port.invalidText (arg : String) : String :=
  s!"invalid port '{arg}'"

namespace CommandLine

/-- Why arguments are refused. -/
inductive Refusal where
  /-- Help was asked for. -/
  | help
  | unknownArgument
  /-- An option without a value. -/
  | noValue
  /-- A value for something that takes none. -/
  | unneededValue
  /-- An option that is given twice. -/
  | repeated
  | badPort
  deriving DecidableEq, Repr, Inhabited

/-- The wording of a refusal. -/
def Refusal.text : Refusal → String
  | help => "help was asked for"
  | unknownArgument => "unknown argument"
  | noValue => "an option has no value"
  | unneededValue => "an option takes no value"
  | repeated => "an option is given twice"
  | badPort => "invalid port"

/-- The arguments that there are. -/
def usage : String :=
  "usage: phidget-gateway [PORT] [--config FILE] [--log-level LEVEL]"

/-- What takes a value. -/
inductive Slot where
  | port
  | config
  | logLevel
  deriving DecidableEq, Repr, Inhabited

/-- What the arguments say. -/
structure Settings where
  port : Option UInt16 := none
  config : Option String := none
  logLevel : Option String := none
  deriving DecidableEq, Repr, Inhabited

namespace Settings

/-- Whether a slot has a value. -/
def has (s : Settings) : Slot → Bool
  | .port => s.port.isSome
  | .config => s.config.isSome
  | .logLevel => s.logLevel.isSome

/-- Give a slot a value. -/
def assign (s : Settings) (slot : Slot) (value : String) : Except Refusal Settings :=
  if s.has slot then .error .repeated
  else
    match slot with
    | .port =>
      match Port.ofArgument? value with
      | some port => .ok { s with port := some port }
      | none => .error .badPort
    | .config => if value = "" then .error .noValue else .ok { s with config := some value }
    | .logLevel => .ok { s with logLevel := some value }

end Settings

/-- A slot whose value has not been looked at, or has not come yet. -/
structure Pending where
  slot : Slot
  value : Option String
  deriving DecidableEq, Repr, Inhabited

/-- What has been read of the arguments. -/
structure State where
  settings : Settings := {}
  pending : Option Pending := none
  /-- The port has been given. -/
  portSeen : Bool := false
  /-- The options have ended. -/
  trailing : Bool := false
  deriving DecidableEq, Repr, Inhabited

/-- How an argument is to be taken. -/
inductive Shape where
  | terminator
  | long (name : String) (value : Option String)
  | short (letters : List Char)
  | plain
  deriving DecidableEq, Repr, Inhabited

/-- How an argument is to be taken while there may be options. -/
def Shape.ofArgument (arg : String) : Shape :=
  match arg.toList with
  | ['-', '-'] => terminator
  | '-' :: '-' :: rest =>
    let name := String.ofList (rest.takeWhile (· ≠ '='))
    match rest.dropWhile (· ≠ '=') with
    | _ :: value => long name (some (String.ofList value))
    | [] => long name none
  | '-' :: c :: letters => short (c :: letters)
  | _ => plain

/-- The option with a name. -/
def option? (name : String) : Option Slot :=
  if name = "config" then some .config
  else if name = "log-level" then some .logLevel
  else none

namespace State

/-- Look at the pending value. -/
def resolve (st : State) : Except Refusal State :=
  match st.pending with
  | none => .ok st
  | some ⟨_, none⟩ => .error .noValue
  | some ⟨slot, some value⟩ => do
    let settings ← st.settings.assign slot value
    return { st with settings, pending := none }

/-- Ask for help. -/
def help (st : State) : Except Refusal State := do
  let _ ← st.resolve
  .error .help

/-- Take an argument that is not an option. -/
def positional (st : State) (arg : String) : Except Refusal State :=
  if st.portSeen then .error .unknownArgument
  else do
    let st ← st.resolve
    return { st with pending := some ⟨.port, some arg⟩, portSeen := true }

/-- Take an option by its name. -/
def long (st : State) (name : String) (value : Option String) : Except Refusal State :=
  match option? name, value with
  | some slot, some value => do
    let st ← st.resolve
    let settings ← st.settings.assign slot value
    return { st with settings }
  | some slot, none => do
    let st ← st.resolve
    return { st with pending := some ⟨slot, none⟩ }
  | none, some _ => .error (if name = "help" then .unneededValue else .unknownArgument)
  | none, none => if name = "help" then st.help else .error .unknownArgument

/-- Take an argument. -/
def step (st : State) (arg : String) : Except Refusal State :=
  if st.trailing then st.positional arg
  else
    match Shape.ofArgument arg with
    | .terminator => .ok { st with trailing := true }
    | .long name value => st.long name value
    | .short letters => if letters.head? = some 'h' then st.help else .error .unknownArgument
    | .plain =>
      match st.pending with
      | some ⟨slot, none⟩ => .ok { st with pending := some ⟨slot, some arg⟩ }
      | _ => st.positional arg

end State

/-- Read arguments. A configuration file that they do not name may be named by the environment. -/
def read (environment : Option String) (args : List String) : Except Refusal Settings := do
  let st ← args.foldlM State.step {}
  let st ← st.resolve
  match st.settings.config, environment with
  | none, some path => st.settings.assign .config path
  | _, _ => return st.settings

end CommandLine

end ChannelGateway
