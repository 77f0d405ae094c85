import ChannelGateway.Bench.Run
import ChannelGateway.Config.Start
import ChannelGateway.Gateway.Assembly

/-!
# The program

Model of the program's start: `load_config`, `build_factory`, `open_startup_channels`, then serving.
The gateway is configured from its arguments, a file and the environment. Then it takes requests
from standard input, one a line: a method, a target and a body, with blanks between them. Each
response is written as its status and its body. The clock is that of the simulated hub, and no
subscriber can be reached from here.
-/

namespace ChannelGateway

namespace Program

/-- The environment, as far as it is about the gateway. -/
def readEnvironment : IO (List (String × String)) := do
  let mut found := []
  for name in configVariable :: GatewayConfig.variableNames do
    if let some value ← IO.getEnv name then found := (name, value) :: found
  return found

/-- The text of a file, if there is one. -/
def fileText? (path : String) : IO (Option String) := do
  try
    return some (← IO.FS.readFile path)
  catch _ =>
    return none

/-- The configuration to start with. -/
def configure (args : List String) : IO (Except StartError GatewayConfig) := do
  let environment ← readEnvironment
  let path :=
    match CommandLine.read (Table.get? environment configVariable) args with
    | .ok settings => settings.config
    | .error _ => none
  let text ← match path with
    | some path => fileText? path
    | none => pure none
  return startConfig (fun _ => text) environment args

/-- The text up to the first blank, and the text after it. -/
def splitBlank (cs : List Char) : List Char × List Char :=
  (cs.takeWhile (· ≠ ' '), (cs.dropWhile (· ≠ ' ')).drop 1)

/-- The request of a line. -/
def requestOf (line : String) : Http.Request :=
  let (method, rest) := splitBlank line.toList
  let (target, body) := splitBlank rest
  ⟨String.ofList method, String.ofList target, (String.ofList body).toUTF8⟩

/-- What is written for an answer. -/
def answerText : Answer → String
  | .response r => s!"{r.status}\n{r.body}"
  | _ => ""

/-- Serve requests until the input ends. -/
partial def serve (b : Bench) (input output : IO.FS.Stream) : IO Unit := do
  let line ← input.getLine
  if line.isEmpty then return
  let (b, outturn) := b.take (.single (.http (requestOf line.trimAscii.toString)))
  for (answer, _) in outturn.answers do
    output.putStrLn (answerText answer)
  output.flush
  serve b input output

/-- Build the gateway, open its startup channels and serve. -/
def run (config : GatewayConfig) : IO UInt32 := do
  let seed ← IO.rand 0 (UInt64.size - 1)
  match Assembly.ofConfig true config (Hub.ofConfig config.hardware.hub seed.toUInt64) with
  | .error e =>
    IO.eprintln e.text
    return 1
  | .ok assembly =>
    let bench := Bench.ofGateway assembly.gateway fun _ => { hangs := true }
    let (bench, _) := bench.take (.single .startup)
    serve bench (← IO.getStdin) (← IO.getStdout)
    return 0

/-- Run the gateway with some arguments. -/
def start (args : List String) : IO UInt32 := do
  match ← configure args with
  | .error e =>
    IO.eprintln e.text
    return e.exitCode
  | .ok config => run config

end Program

end ChannelGateway

/-- The program. -/
def main (args : List String) : IO UInt32 :=
  ChannelGateway.Program.start args
