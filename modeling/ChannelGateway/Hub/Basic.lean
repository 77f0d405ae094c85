import ChannelGateway.Hub.Fault

/-!
# The hub and its channels

Model of `MockHubConfig` (`contains`, `validate`), `MockMode`, `TimingConfig` and `MockHub`: its
`create`, `channel`, `channel_at`, `created_count` and `live_count`.

A channel is created for an address whether or not that place exists; its serial number is the count
of channels created before it. The hub does not keep channels alive: whoever created or looked one
up holds it, and `held` tells, for a serial number, whether anybody still does. The hub forgets the
channels that nobody holds when the next one is created, and never finds one of them.
-/

namespace ChannelGateway

/-!
## Configuration

Its shape (ports, channels behind each port), whether operations take time, and the faults it is
told to have.
-/

/-- How a hub behaves in time. -/
inductive HubMode where
  /-- Nothing takes time. -/
  | instant
  /-- Attaching a channel and writing to it take time. -/
  | realistic
  /-- Nothing takes time; meant for random failures. -/
  | chaos
  deriving DecidableEq, Repr, Inhabited

namespace HubMode

/-- The name of a mode. -/
def label : HubMode → String
  | instant => "instant"
  | realistic => "realistic"
  | chaos => "chaos"

/-- The name of a mode in descriptions of channels. -/
def title : HubMode → String
  | instant => "Instant"
  | realistic => "Realistic"
  | chaos => "Chaos"

/-- Every mode. -/
def all : List HubMode := [instant, realistic, chaos]

end HubMode

/-- How long operations take in realistic mode, in milliseconds. -/
structure HubTiming where
  attachDelay : UInt64 := 250
  ioDelay : UInt64 := 2
  deriving DecidableEq, Repr, Inhabited

/-- The configuration of a simulated hub. -/
structure HubConfig where
  hubPorts : UInt32 := 6
  channelsPerPort : UInt32 := 16
  mode : HubMode := .instant
  timing : HubTiming := {}
  failureRate : Float := 0
  /-- Seed of the random failures; without one the caller chooses. -/
  seed : Option UInt64 := none
  faults : List Scenario := []
  deriving Repr, Inhabited

namespace HubConfig

/-- Whether an address is a place on the hub. -/
def contains (c : HubConfig) (a : Address) : Bool :=
  0 ≤ a.hubPort.toInt && a.hubPort.toInt < Int.ofNat c.hubPorts.toNat &&
    0 ≤ a.channel.toInt && a.channel.toInt < Int.ofNat c.channelsPerPort.toNat

/-- How long an operation waits: not at all outside realistic mode. -/
def delay (c : HubConfig) (ms : UInt64) : Nat :=
  if c.mode = .realistic then ms.toNat else 0

/-- What is wrong with a configuration. -/
inductive Defect where
  | noChannels
  | failureRate (rate : Float)
  deriving Repr, Inhabited

/-- The wording of a defect. -/
def Defect.text : Defect → String
  | noChannels => "mock hub must expose at least one port and one channel"
  | failureRate rate =>
    s!"failure_rate {Decimal.Layout.message.write rate} must be between 0.0 and 1.0"

/-- The first defect of a configuration. -/
def defect? (c : HubConfig) : Option Defect :=
  if c.hubPorts = 0 ∨ c.channelsPerPort = 0 then some .noChannels
  else if ¬ (0 ≤ c.failureRate ∧ c.failureRate ≤ 1) then some (.failureRate c.failureRate)
  else none

/-- The injected faults of a hub. The seed is used when the configuration has none. -/
def injection (c : HubConfig) (seed : UInt64) : Injection :=
  .ofScenarios c.faults c.failureRate (c.seed.getD seed)

end HubConfig

/-! ## Channels -/

/-- A channel of the hub. -/
structure Channel where
  serial : Nat
  spec : ChannelSpec
  /-- Opened and not closed since. -/
  isOpen : Bool
  /-- Connected to its hardware. -/
  attached : Bool
  state : Bool
  voltage : Float
  /-- Successful writes. -/
  writes : Nat
  deriving Repr, Inhabited

namespace Channel

/-- A channel that has just been created. -/
def fresh (serial : Nat) (spec : ChannelSpec) : Channel :=
  ⟨serial, spec, false, false, false, 0, 0⟩

/-- The failure of an operation that needs the hardware. -/
def notAttached (c : Channel) : HubFailure :=
  .notAttached c.spec.kind c.spec.address

/-- The failure of an operation that channels of this kind do not have. -/
def unsupported (c : Channel) (operation : String) : HubFailure :=
  .unsupported c.spec.kind operation

/-- The channel after it has attached to its hardware. -/
def connect (c : Channel) : Channel :=
  { c with isOpen := true, attached := true }

/-- The channel after it has been closed. -/
def disconnect (c : Channel) : Channel :=
  { c with isOpen := false, attached := false }

end Channel

/-- A simulated hub. -/
structure Hub where
  config : HubConfig
  injection : Injection
  /-- Channels created so far. -/
  created : Nat
  /-- Channels not yet forgotten, in order of creation. -/
  tracked : List Channel

namespace Hub

/-- A hub on which nothing has been created. -/
def ofConfig (config : HubConfig) (seed : UInt64) : Hub :=
  ⟨config, config.injection seed, 0, []⟩

/-- Replace the injected faults. -/
def withInjection (h : Hub) (injection : Injection) : Hub :=
  { h with injection }

/-- The channels that somebody holds, in order of creation. -/
def live (h : Hub) (held : Nat → Bool) : List Channel :=
  h.tracked.filter fun c => held c.serial

/-- Create a channel, and forget the ones that nobody holds. The new one has the serial number
`h.created`. -/
def create (h : Hub) (held : Nat → Bool) (spec : ChannelSpec) : Hub :=
  { h with
    created := h.created + 1
    tracked := h.live held ++ [Channel.fresh h.created spec] }

/-- How many channels somebody holds. -/
def liveCount (h : Hub) (held : Nat → Bool) : Nat :=
  (h.live held).length

/-- The first held channel with an identity. -/
def withId? (h : Hub) (held : Nat → Bool) (id : ChannelId) : Option Channel :=
  (h.live held).find? fun c => c.spec.id = id

/-- The last held channel at an address. -/
def at? (h : Hub) (held : Nat → Bool) (address : Address) : Option Channel :=
  (h.live held).reverse.find? fun c => c.spec.address = address

/-- The channel with a serial number. -/
def channel? (h : Hub) (serial : Nat) : Option Channel :=
  h.tracked.find? fun c => c.serial = serial

/-- Change the channel with a serial number. -/
def modify (h : Hub) (serial : Nat) (f : Channel → Channel) : Hub :=
  { h with tracked := h.tracked.map fun c => if c.serial = serial then f c else c }

/-- Ask the injected faults whether an operation fails. -/
def check (h : Hub) (op : Operation) : Option HubFailure × Hub :=
  let (failure, injection) := h.injection.check op
  (failure, { h with injection })

end Hub

end ChannelGateway
