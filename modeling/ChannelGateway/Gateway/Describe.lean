import ChannelGateway.Gateway.Basic
import ChannelGateway.Text.Classes

/-!
# Descriptions for diagnosis

The `Debug` texts of `MockChannel`, `NamedResource`, `EventDispatcher` and `GatewayService`: one
line with a type name and the fields that tell values apart. Texts inside them are quoted, durations
have the largest unit that they fill.
-/

namespace ChannelGateway.Describe

/-- Hexadecimal digits of a number. -/
def hex (n : Nat) : List Char :=
  Nat.toDigits 16 n

/-- Whether a character is told by its code, since it does not show by itself. -/
def isCoded (c : Char) : Bool :=
  Text.unseen.has c || Text.isExtending c

/-- How a character stands in a quoted text. -/
def quoteChar (c : Char) : List Char :=
  match c with
  | '"' => ['\\', '"']
  | '\\' => ['\\', '\\']
  | '\n' => ['\\', 'n']
  | '\r' => ['\\', 'r']
  | '\t' => ['\\', 't']
  | '\x00' => ['\\', '0']
  | c => if isCoded c then ['\\', 'u', '\x7b'] ++ hex c.toNat ++ ['\x7d'] else [c]

/-- A text in quotes. -/
def quote (s : String) : String :=
  String.ofList ('"' :: (s.toList.flatMap quoteChar ++ ['"']))

/-- The digits of thousandths after a point, without zeros at the end. -/
def thousandths (n : Nat) : List Char :=
  let digits := [n / 100, n / 10 % 10, n % 10].map fun d => Nat.digitChar d
  (digits.reverse.dropWhile (· = '0')).reverse

/-- A duration in milliseconds. -/
def duration (ms : Nat) : String :=
  if ms = 0 then "0ns"
  else if ms < 1000 then s!"{ms}ms"
  else
    match thousandths (ms % 1000) with
    | [] => s!"{ms / 1000}s"
    | fraction => s!"{ms / 1000}." ++ String.ofList fraction ++ "s"

/-- A type name and its fields; `more` tells that there are others. -/
def record (name : String) (fields : List (String × String)) (more : Bool) : String :=
  let shown := fields.map fun field => field.1 ++ ": " ++ field.2
  let all := if more then shown ++ [".."] else shown
  name ++ " \x7b " ++ ", ".intercalate all ++ " \x7d"

/-- The identity of a channel. -/
def channelId (id : ChannelId) : String :=
  s!"ChannelId({id})"

/-- An address. -/
def address (a : Address) : String :=
  record "ChannelAddress"
    [("channel", toString a.channel.toInt), ("hub_port", toString a.hubPort.toInt)] false

/-- What a channel is created for. -/
def spec (s : ChannelSpec) : String :=
  record "ChannelSpec"
    [("id", channelId s.id), ("kind", s.kind.label), ("address", address s.address)] false

/-- A channel of a hub. -/
def channel (config : HubConfig) (c : Channel) : String :=
  record "MockChannel"
    [("spec", spec c.spec), ("present", toString (config.contains c.spec.address)),
      ("mode", config.mode.title)] true

/-- A named resource. -/
def resource (r : Resource) : String :=
  record "NamedResource"
    [("name", quote r.name), ("kind", r.kind.label), ("channel", channelId r.id)] false

/-- The deliveries of a gateway. -/
def dispatcher (d : Dispatcher) : String :=
  let stats := record "DeliverySnapshot"
    [("attempted", toString d.attempted), ("delivered", toString d.delivered),
      ("failed", toString d.failed)] false
  record "EventDispatcher" [("delivery_timeout", duration d.timeout), ("stats", stats)] true

/-- A gateway. -/
def gateway (g : Gateway) : String :=
  record "GatewayService"
    [("resources", toString g.registry.size), ("open_timeout", duration g.openTimeout)] true

end ChannelGateway.Describe
