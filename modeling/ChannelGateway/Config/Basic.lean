import ChannelGateway.Hub.Basic

/-!
# The configuration of a gateway

Model of `GatewayConfig`, of `parse_log_level` and `TracingConfig`, and of what `validate` refuses.
Five sections: the HTTP listener, the hardware, webhook delivery, logging, and the channels that are
opened when the gateway starts. Every setting has a default.
-/

namespace ChannelGateway

/-! ## Sections -/

/-- The HTTP listener. -/
structure ServerConfig where
  host : String := "0.0.0.0"
  port : UInt16 := 4002
  /-- Title of the state page. -/
  title : String := "Phidgets State"
  deriving DecidableEq, Repr, Inhabited

/-- The address to listen on. -/
def ServerConfig.bindAddress (c : ServerConfig) : String :=
  s!"{c.host}:{c.port.toNat}"

/-- Which hardware is behind the gateway. -/
inductive HardwareDriver where
  /-- A simulated hub. -/
  | simulated
  deriving DecidableEq, Repr, Inhabited

/-- The name of a driver in configurations. -/
def HardwareDriver.label : HardwareDriver → String
  | simulated => "mock"

/-- Every driver. -/
def HardwareDriver.all : List HardwareDriver := [simulated]

/-- The hardware. -/
structure HardwareConfig where
  driver : HardwareDriver := .simulated
  /-- How long an open waits for its channel, in milliseconds. -/
  openTimeout : UInt64 := 5000
  hub : HubConfig := {}
  deriving Repr, Inhabited

/-- Webhook delivery. -/
structure WebhookConfig where
  /-- How long a delivery may take, in milliseconds. -/
  deliveryTimeout : UInt64 := 5000
  userAgent : String := "phidget-gateway/0.1.0"
  deriving DecidableEq, Repr, Inhabited

/-- How log lines look. -/
inductive LogFormat where
  | pretty
  | compact
  | json
  deriving DecidableEq, Repr, Inhabited

/-- The name of a log format. -/
def LogFormat.label : LogFormat → String
  | pretty => "pretty"
  | compact => "compact"
  | json => "json"

/-- Every log format. -/
def LogFormat.all : List LogFormat := [pretty, compact, json]

/-- Logging. -/
structure LoggingConfig where
  level : String := "info"
  format : LogFormat := .compact
  deriving DecidableEq, Repr, Inhabited

/-- A channel that is opened when the gateway starts. -/
structure StartupChannel where
  name : String
  kind : ChannelKind
  address : Address
  /-- Subscribers of its state changes. -/
  webhooks : List String
  deriving DecidableEq, Repr, Inhabited

/-- The configuration of a gateway. -/
structure GatewayConfig where
  server : ServerConfig := {}
  hardware : HardwareConfig := {}
  webhooks : WebhookConfig := {}
  logging : LoggingConfig := {}
  channels : List StartupChannel := []
  deriving Repr, Inhabited

/-!
## Log levels and log options

A level is given by name in any letter case.
-/

/-- The least severe log lines that are written. -/
inductive LogLevel where
  | trace
  | debug
  | info
  | warn
  | error
  deriving DecidableEq, Repr, Inhabited

namespace LogLevel

/-- The name of a level in configurations. -/
def label : LogLevel → String
  | trace => "trace"
  | debug => "debug"
  | info => "info"
  | warn => "warn"
  | error => "error"

/-- The name of a level in log lines. -/
def title : LogLevel → String
  | trace => "TRACE"
  | debug => "DEBUG"
  | info => "INFO"
  | warn => "WARN"
  | error => "ERROR"

/-- Every level. -/
def all : List LogLevel := [trace, debug, info, warn, error]

/-- The names that a configuration may give. -/
def names : List String := ["trace", "debug", "info", "warn", "error"]

/-- Whether a configuration may give a name. No letter outside ASCII has a small form that occurs in
one of the names. -/
def isName (name : String) : Bool :=
  names.contains name.toLower

/-- The level that has a name. -/
def ofName? (name : String) : Option LogLevel :=
  all.find? fun level => level.label = name.toLower

/-- What is said of a name that no level has. -/
def unknownText (name : String) : String :=
  let labels := ", ".intercalate (all.map label)
  s!"Invalid log level '{name}'. Must be one of: {labels}"

end LogLevel

/-- How log lines are written. -/
structure LogOptions where
  level : LogLevel
  format : LogFormat
  /-- Tell when a span begins and ends. -/
  spanEvents : Bool := false
  fileAndLine : Bool := false
  threadNames : Bool := false
  deriving DecidableEq, Repr, Inhabited

/-- The log options of a configuration, or what is wrong with its level. -/
def LoggingConfig.options (c : LoggingConfig) : Except String LogOptions :=
  match LogLevel.ofName? c.level with
  | some level => .ok { level, format := c.format }
  | none => .error (LogLevel.unknownText c.level)

/-!
## Defects

What a configuration may say and a gateway cannot do. The sections are looked at in a fixed order
and the first defect is told.
-/

/-- What is wrong with a configuration. -/
inductive ConfigDefect where
  | unknownLevel (name : String)
  | noOpenTimeout
  | noDeliveryTimeout
  | hub (defect : HubConfig.Defect)
  | unnamedChannel
  | repeatedName (name : String)
  /-- A startup channel does not say where it is. -/
  | noAddress (name : String)
  deriving Repr, Inhabited

/-- The wording of a defect. -/
def ConfigDefect.text : ConfigDefect → String
  | unknownLevel name => LogLevel.unknownText name
  | noOpenTimeout => "hardware.open_timeout_ms must be greater than 0"
  | noDeliveryTimeout => "webhooks.delivery_timeout_ms must be greater than 0"
  | hub defect => defect.text
  | unnamedChannel => "startup channel name must not be empty"
  | repeatedName name => s!"Duplicate startup channel name: {name}"
  | noAddress name => s!"startup channel '{name}' needs a channel and hub_port"

/-- The first defect of a list of startup channels, after some names have been given. -/
def StartupChannel.defectIn? (names : List String) : List StartupChannel → Option ConfigDefect
  | [] => none
  | c :: rest =>
    if c.name = "" then some .unnamedChannel
    else if c.name ∈ names then some (.repeatedName c.name)
    else if c.address.isMissing then some (.noAddress c.name)
    else defectIn? (c.name :: names) rest

/-- The first defect of a configuration. -/
def GatewayConfig.defect? (c : GatewayConfig) : Option ConfigDefect :=
  if ¬ LogLevel.isName c.logging.level then some (.unknownLevel c.logging.level)
  else if c.hardware.openTimeout = 0 then some .noOpenTimeout
  else if c.webhooks.deliveryTimeout = 0 then some .noDeliveryTimeout
  else
    match c.hardware.hub.defect? with
    | some defect => some (.hub defect)
    | none => StartupChannel.defectIn? [] c.channels

end ChannelGateway
