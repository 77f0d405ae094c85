import ChannelGateway.Config.Basic
import ChannelGateway.Config.Record

/-!
# Reading and writing configurations

The derived reader and writer of `GatewayConfig` and its sections. `GatewayConfig.decode` reads a
configuration from a tree. Settings that are missing have their defaults, except those of a startup
channel, whose place and kind have none; settings that do not exist are ignored.
-/

namespace ChannelGateway

/-! ## Reading -/

/-- The kind of a channel. -/
def ChannelKind.decode : Decoder ChannelKind :=
  Decoder.choice ChannelKind.ofName?

/-- An operation of a channel. -/
def Operation.decode : Decoder Operation :=
  Decoder.choice Operation.ofName?

/-- The operation of a fault scenario. -/
def Operation.decodeWithin : Decoder Operation :=
  Decoder.choiceWithin Operation.ofName?

/-- The variants of fault scenarios. -/
inductive ScenarioKind where
  | failAfter
  | timeout
  | linkLoss
  | hubFault
  deriving DecidableEq, Repr, Inhabited

namespace ScenarioKind

/-- The name of a variant. -/
def label : ScenarioKind → String
  | failAfter => "fail_after_n"
  | timeout => "timeout"
  | linkLoss => "communication_loss"
  | hubFault => "hardware_fault"

/-- Every variant. -/
def all : List ScenarioKind := [failAfter, timeout, linkLoss, hubFault]

/-- The field that names the variant. -/
def key : String := "fault"

/-- A variant by its name or its place among all. -/
def decode : Decoder ScenarioKind :=
  Decoder.choiceOrPlace all label

/-- How many fields a variant has. -/
def size : ScenarioKind → Nat
  | failAfter => 2
  | timeout => 1
  | linkLoss => 0
  | hubFault => 1

/-- A scenario of a variant from its fields. -/
def ofRecord (r : Record) : ScenarioKind → Decoded Scenario
  | failAfter =>
    let op := r.required 0 "operation" Operation.decodeWithin
    let count := r.required 1 "count" Decoder.word32
    r.settle [op.mismatch?, count.mismatch?] do return .failAfter (← op) (← count)
  | timeout => (r.required 0 "operation" Operation.decodeWithin).map .timeout
  | linkLoss => .ok .linkLoss
  | hubFault => (r.required 0 "code" Decoder.word32).map .hubFault

end ScenarioKind

/-- A fault scenario: an object whose field `fault` names the variant, or an array of the variant
and its fields. -/
def Scenario.decode : Decoder Scenario
  | .object fields =>
    match Tree.lookup fields ScenarioKind.key with
    | none => .refuse .missingField
    | some v => do
      let kind ← (ScenarioKind.decode v).within ScenarioKind.key
      (kind.ofRecord (.named fields)).asWhole
  | .array [] => .refuse .missingField
  | .array (v :: items) => do
    let kind ← (ScenarioKind.decode v).within "0"
    let scenario ← (kind.ofRecord (.positional items)).asWhole
    if kind.size < items.length then .refuse .wrongLength else .ok scenario
  | _ => .refuse .wrongType

/-- The timing of a hub. -/
def HubTiming.ofRecord (r : Record) : Decoded HubTiming :=
  let default : HubTiming := {}
  let attachDelay := r.field 0 "attach_delay_ms" Decoder.word64 default.attachDelay
  let ioDelay := r.field 1 "io_delay_ms" Decoder.word64 default.ioDelay
  r.settle [attachDelay.mismatch?, ioDelay.mismatch?] do
    return { attachDelay := ← attachDelay, ioDelay := ← ioDelay }

/-- The configuration of a hub. -/
def HubConfig.ofRecord (strictness : Strictness) (r : Record) : Decoded HubConfig :=
  let default : HubConfig := {}
  let hubPorts := r.field 0 "hub_ports" Decoder.word32 default.hubPorts
  let channelsPerPort := r.field 1 "channels_per_port" Decoder.word32 default.channelsPerPort
  let mode := r.field 2 "mode" (Decoder.choice (Decoder.withLabel? HubMode.all HubMode.label))
    default.mode
  let timing :=
    r.field 3 "timing" (Decoder.record strictness 2 HubTiming.ofRecord) default.timing
  let failureRate := r.field 4 "failure_rate" Decoder.number default.failureRate
  let seed := r.field 5 "seed" (Decoder.optional Decoder.word64) default.seed
  let faults := r.field 6 "faults" (Decoder.listOf Scenario.decode) default.faults
  r.settle
    [hubPorts.mismatch?, channelsPerPort.mismatch?, mode.mismatch?, timing.mismatch?,
      failureRate.mismatch?, seed.mismatch?, faults.mismatch?] do
    return {
      hubPorts := ← hubPorts, channelsPerPort := ← channelsPerPort, mode := ← mode,
      timing := ← timing, failureRate := ← failureRate, seed := ← seed, faults := ← faults }

/-- The HTTP listener. -/
def ServerConfig.ofRecord (r : Record) : Decoded ServerConfig :=
  let default : ServerConfig := {}
  let host := r.field 0 "host" Decoder.text default.host
  let port := r.field 1 "port" Decoder.word16 default.port
  let title := r.field 2 "state_page_title" Decoder.text default.title
  r.settle [host.mismatch?, port.mismatch?, title.mismatch?] do
    return { host := ← host, port := ← port, title := ← title }

/-- The hardware. -/
def HardwareConfig.ofRecord (strictness : Strictness) (r : Record) : Decoded HardwareConfig :=
  let default : HardwareConfig := {}
  let driver :=
    r.field 0 "driver" (Decoder.choice (Decoder.withLabel? HardwareDriver.all HardwareDriver.label))
      default.driver
  let openTimeout := r.field 1 "open_timeout_ms" Decoder.word64 default.openTimeout
  let hub :=
    r.field 2 "mock" (Decoder.record strictness 7 (HubConfig.ofRecord strictness)) default.hub
  r.settle [driver.mismatch?, openTimeout.mismatch?, hub.mismatch?] do
    return { driver := ← driver, openTimeout := ← openTimeout, hub := ← hub }

/-- Webhook delivery. -/
def WebhookConfig.ofRecord (r : Record) : Decoded WebhookConfig :=
  let default : WebhookConfig := {}
  let deliveryTimeout := r.field 0 "delivery_timeout_ms" Decoder.word64 default.deliveryTimeout
  let userAgent := r.field 1 "user_agent" Decoder.text default.userAgent
  r.settle [deliveryTimeout.mismatch?, userAgent.mismatch?] do
    return { deliveryTimeout := ← deliveryTimeout, userAgent := ← userAgent }

/-- Logging. -/
def LoggingConfig.ofRecord (r : Record) : Decoded LoggingConfig :=
  let default : LoggingConfig := {}
  let level := r.field 0 "level" Decoder.text default.level
  let format :=
    r.field 1 "format" (Decoder.choice (Decoder.withLabel? LogFormat.all LogFormat.label))
      default.format
  r.settle [level.mismatch?, format.mismatch?] do
    return { level := ← level, format := ← format }

/-- A startup channel. -/
def StartupChannel.ofRecord (r : Record) : Decoded StartupChannel :=
  let name := r.required 0 "name" Decoder.text
  let kind := r.required 1 "type" ChannelKind.decode
  let channel := r.required 2 "channel" Decoder.signed32
  let hubPort := r.required 3 "hub_port" Decoder.signed32
  let webhooks := r.field 4 "webhooks" (Decoder.listOf Decoder.text) []
  r.settle
    [name.mismatch?, kind.mismatch?, channel.mismatch?, hubPort.mismatch?, webhooks.mismatch?] do
    return {
      name := ← name, kind := ← kind, address := ⟨← channel, ← hubPort⟩, webhooks := ← webhooks }

/-- A configuration. -/
def GatewayConfig.ofRecord (strictness : Strictness) (r : Record) : Decoded GatewayConfig :=
  let default : GatewayConfig := {}
  let server := r.field 0 "server" (Decoder.record strictness 3 ServerConfig.ofRecord)
    default.server
  let hardware :=
    r.field 1 "hardware" (Decoder.record strictness 3 (HardwareConfig.ofRecord strictness))
      default.hardware
  let webhooks := r.field 2 "webhooks" (Decoder.record strictness 2 WebhookConfig.ofRecord)
    default.webhooks
  let logging := r.field 3 "logging" (Decoder.record strictness 2 LoggingConfig.ofRecord)
    default.logging
  let channels :=
    r.field 4 "channels" (Decoder.listOf (Decoder.record strictness 5 StartupChannel.ofRecord))
      default.channels
  r.settle
    [server.mismatch?, hardware.mismatch?, webhooks.mismatch?, logging.mismatch?,
      channels.mismatch?] do
    return {
      server := ← server, hardware := ← hardware, webhooks := ← webhooks, logging := ← logging,
      channels := ← channels }

/-- Read a configuration from a tree. -/
def GatewayConfig.decode (strictness : Strictness) : Decoder GatewayConfig :=
  Decoder.record strictness 5 (GatewayConfig.ofRecord strictness)

/-!
## Writing

A configuration is written as a JSON object with every setting, so reading it back gives the same
configuration, unless it has a number that is not finite.
-/

/-- A natural number as a JSON integer. -/
def Json.ofNat (n : Nat) : Json :=
  .int (Int.ofNat n)

/-- A number as a JSON number; one that is not finite is none, and null stands in its place. -/
def Json.ofFloat (x : Float) : Json :=
  if x.isFinite then .float x else .null

/-- A JSON value that may be missing; null stands in its place. -/
def Json.orNull : Option Json → Json
  | some v => v
  | none => .null

/-- A fault scenario as a JSON object. -/
def Scenario.toJson : Scenario → Json
  | failAfter op count =>
    .object [(ScenarioKind.key, .text ScenarioKind.failAfter.label), ("operation", .text op.label),
      ("count", .ofNat count.toNat)]
  | timeout op =>
    .object [(ScenarioKind.key, .text ScenarioKind.timeout.label), ("operation", .text op.label)]
  | linkLoss => .object [(ScenarioKind.key, .text ScenarioKind.linkLoss.label)]
  | hubFault code =>
    .object [(ScenarioKind.key, .text ScenarioKind.hubFault.label), ("code", .ofNat code.toNat)]

/-- The configuration of a hub as a JSON object. -/
def HubConfig.toJson (c : HubConfig) : Json :=
  .object [
    ("hub_ports", .ofNat c.hubPorts.toNat),
    ("channels_per_port", .ofNat c.channelsPerPort.toNat),
    ("mode", .text c.mode.label),
    ("timing", .object [
      ("attach_delay_ms", .ofNat c.timing.attachDelay.toNat),
      ("io_delay_ms", .ofNat c.timing.ioDelay.toNat)]),
    ("failure_rate", .ofFloat c.failureRate),
    ("seed", .orNull (c.seed.map fun seed => .ofNat seed.toNat)),
    ("faults", .array (c.faults.map Scenario.toJson))]

/-- A startup channel as a JSON object. -/
def StartupChannel.toJson (c : StartupChannel) : Json :=
  .object [
    ("name", .text c.name),
    ("type", .text c.kind.label),
    ("channel", .int c.address.channel.toInt),
    ("hub_port", .int c.address.hubPort.toInt),
    ("webhooks", .array (c.webhooks.map .text))]

/-- A configuration as a JSON object. -/
def GatewayConfig.toJson (c : GatewayConfig) : Json :=
  .object [
    ("server", .object [
      ("host", .text c.server.host),
      ("port", .ofNat c.server.port.toNat),
      ("state_page_title", .text c.server.title)]),
    ("hardware", .object [
      ("driver", .text c.hardware.driver.label),
      ("open_timeout_ms", .ofNat c.hardware.openTimeout.toNat),
      ("mock", c.hardware.hub.toJson)]),
    ("webhooks", .object [
      ("delivery_timeout_ms", .ofNat c.webhooks.deliveryTimeout.toNat),
      ("user_agent", .text c.webhooks.userAgent)]),
    ("logging", .object [
      ("level", .text c.logging.level),
      ("format", .text c.logging.format.label)]),
    ("channels", .array (c.channels.map StartupChannel.toJson))]

end ChannelGateway
