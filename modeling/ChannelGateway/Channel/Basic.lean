/-!
# Channels: what a hub offers and where

Model of `ChannelKind`, `ChannelAddress`, `ChannelId`, `ChannelSpec` and `OUTPUT_VOLTAGE_RANGE`. A
hub has ports, and behind each port a number of channels. A channel is a digital output, a voltage
output or a digital input. An address names a place on the hub; two values of a field are not
places: `-2` (`USE_EXISTING`) asks for a resource that is already open, `-1` (`UNSPECIFIED`) says
that the place is not known.
-/

namespace ChannelGateway

/-- What a channel is. -/
inductive ChannelKind where
  | digitalOutput
  | voltageOutput
  | digitalInput
  deriving DecidableEq, Repr, Inhabited

namespace ChannelKind

/-- The name of a kind in all outputs. -/
def label : ChannelKind → String
  | digitalOutput => "DigitalOutput"
  | voltageOutput => "VoltageOutput"
  | digitalInput => "DigitalInput"

/-- The names under which a kind may be given. -/
def names : ChannelKind → List String
  | digitalOutput => ["DigitalOutput", "digital_output", "digital_out"]
  | voltageOutput => ["VoltageOutput", "voltage_output", "voltage_out"]
  | digitalInput => ["DigitalInput", "digital_input", "digital_in"]

/-- Every kind. -/
def all : List ChannelKind := [digitalOutput, voltageOutput, digitalInput]

/-- The kind that has a name. -/
def ofName? (name : String) : Option ChannelKind :=
  all.find? fun kind => name ∈ kind.names

/-- Whether a channel of this kind has a state rather than a voltage. -/
def isDigital : ChannelKind → Bool
  | digitalOutput => true
  | voltageOutput => false
  | digitalInput => true

end ChannelKind

/-- A place on a hub. -/
structure Address where
  channel : Int32
  hubPort : Int32
  deriving DecidableEq, Repr, Inhabited

namespace Address

/-- The value of a field that asks for a resource that is already open. -/
def useExisting : Int32 := -2

/-- The value of a field that says the place is not known. -/
def unknown : Int32 := -1

/-- Whether a field says that the place is not known. -/
def isMissing (a : Address) : Bool :=
  a.channel == unknown || a.hubPort == unknown

/-- The text of an address. -/
def text (a : Address) : String :=
  s!"hub port {a.hubPort.toInt} channel {a.channel.toInt}"

end Address

/-- The identity of a channel. -/
abbrev ChannelId := Nat

/-- The text of a channel's identity. -/
def ChannelId.text (id : ChannelId) : String :=
  s!"ch#{id}"

/-- What a channel is created for. -/
structure ChannelSpec where
  id : ChannelId
  kind : ChannelKind
  address : Address
  deriving DecidableEq, Repr, Inhabited

/-- The least voltage that an output can be set to. -/
def minVoltage : Float := -10

/-- The greatest voltage that an output can be set to. -/
def maxVoltage : Float := 10

/-- Whether a voltage lies between the two ends, both included; `NaN` does not. -/
def inVoltageRange (volts : Float) : Bool :=
  minVoltage ≤ volts && volts ≤ maxVoltage

end ChannelGateway
