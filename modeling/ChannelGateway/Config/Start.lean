import ChannelGateway.CommandLine
import ChannelGateway.Config.Basic
import ChannelGateway.Config.Decode
import ChannelGateway.Env.Value
import ChannelGateway.Toml.Document

/-!
# Loading a configuration and starting a gateway

Model of the `load` of `GatewayConfig`, and of the program's `load_config`. A configuration is made
of three layers, each over the one before: the defaults, a file, and the environment. Tables are
merged key by key; anything else, arrays included, is replaced as a whole. The result is read as a
configuration and has to be free of defects.

The command line names the configuration file, unless the environment does, and overrides the port
and the log level of what is loaded. The result has to be free of defects once more.
-/

namespace ChannelGateway

/-! ## Layers -/

namespace Env

/-- What the name of a variable begins with to be a setting. -/
def marker : String := "PHIDGET_GATEWAY_"

/-- The parts between double underscores or points. -/
def segments (read : List Char) : List Char → List String
  | '_' :: '_' :: rest => String.ofList read.reverse :: segments [] rest
  | '.' :: rest => String.ofList read.reverse :: segments [] rest
  | c :: rest => segments (c :: read) rest
  | [] => [String.ofList read.reverse]

/-- The path of the setting that a variable is for. Letter case does not matter, and blanks around
the name of the variable or of the path do not count. -/
def path? (name : String) : Option (List String) :=
  let name := trim name.toList
  if (String.ofList (name.take marker.length)).toUpper = marker then
    let parts := segments [] ((trim (name.drop marker.length)).map Char.toLower)
    if parts.all (· ≠ "") then some parts else none
  else none

/-- The name of the variable for a setting. -/
def nameOf (path : List String) : String :=
  marker ++ "__".intercalate (path.map String.toUpper)

/-- A tree with a variable laid over it. -/
def lay (t : Tree) (entry : String × String) : Tree :=
  match path? entry.1 with
  | some path => t.overlay (Tree.nested path (read entry.2))
  | none => t

/-- The tree of the environment. Variables are laid over each other in the order in which the
environment lists them, so of two for one setting the later counts. -/
def tree (environment : List (String × String)) : Tree :=
  environment.foldl lay (.object [])

end Env

/-- Why no configuration can be loaded. -/
inductive LoadError where
  /-- The file is no TOML text. -/
  | unreadable
  | mismatch (m : Mismatch)
  | defect (d : ConfigDefect)
  deriving Repr, Inhabited

/-- The wording of a defect of a loaded configuration. -/
def LoadError.defectText (d : ConfigDefect) : String :=
  s!"invalid configuration: {d.text}"

namespace GatewayConfig

/-- The layers, laid over each other. -/
def layered (file : Option Tree) (environment : List (String × String)) : Tree :=
  let base := Tree.ofJson ({} : GatewayConfig).toJson
  let base := match file with
    | some tree => base.overlay tree
    | none => base
  base.overlay (Env.tree environment)

/-- The names of the variables for the settings that have a default. -/
def variableNames : List String :=
  (Tree.ofJson ({} : GatewayConfig).toJson).paths.map Env.nameOf

/-- Load a configuration from the text of a file, if there is one, and the environment. -/
def load (file : Option String) (environment : List (String × String)) :
    Except LoadError GatewayConfig := do
  let tree ← match file with
    | none => pure none
    | some text =>
      match Toml.read? text with
      | some document => pure (some (Tree.ofJson document))
      | none => .error .unreadable
  let config ← (decode .lenient (layered tree environment)).mapError .mismatch
  match config.defect? with
  | some d => .error (.defect d)
  | none => return config

end GatewayConfig

/-! ## Starting -/

/-- Why a gateway does not start. -/
inductive StartError where
  | arguments (r : CommandLine.Refusal)
  | load (e : LoadError)
  /-- A setting of the command line is defective. -/
  | override (d : ConfigDefect)
  deriving Repr, Inhabited

namespace StartError

/-- The wording of an error. -/
def text : StartError → String
  | arguments .help => CommandLine.usage
  | arguments r => s!"{r.text}\n{CommandLine.usage}"
  | load .unreadable => "the configuration file is not TOML"
  | load (.mismatch m) => s!"{m.kind.text} at {m.key}"
  | load (.defect d) => LoadError.defectText d
  | override d => d.text

/-- The exit code of a program that does not start. -/
def exitCode : StartError → UInt32
  | arguments .help => 0
  | arguments _ => 2
  | _ => 1

end StartError

/-- The variable that names the configuration file. -/
def configVariable : String := "PHIDGET_GATEWAY_CONFIG"

/-- A configuration with the settings of the command line. -/
def CommandLine.Settings.apply (s : Settings) (c : GatewayConfig) : GatewayConfig :=
  { c with
    server := { c.server with port := s.port.getD c.server.port }
    logging := { c.logging with level := s.logLevel.getD c.logging.level } }

/-- The configuration to start with. `files` has the text of each file that exists. -/
def startConfig (files : String → Option String) (environment : List (String × String))
    (args : List String) : Except StartError GatewayConfig := do
  let settings ← (CommandLine.read (Table.get? environment configVariable) args).mapError .arguments
  let loaded ← (GatewayConfig.load (settings.config.bind files) environment).mapError .load
  let config := settings.apply loaded
  match config.defect? with
  | some d => .error (.override d)
  | none => return config

end ChannelGateway
