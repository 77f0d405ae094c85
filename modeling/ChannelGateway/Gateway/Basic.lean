import ChannelGateway.Config.Basic
import ChannelGateway.Gateway.Delivery
import ChannelGateway.Gateway.Gates
import ChannelGateway.Gateway.Registry

/-!
# The state of a gateway

Model of `GatewayService` and of the `on_` functions of `EventDispatcher`, with `snapshot` and
`shutdown`. A hub, the registry of open names, the gates of names that are being opened or closed,
the webhook subscriptions and the deliveries. The gateway listens to its hub: a detached channel
leaves the registry without being closed, and a change of a registered input is delivered to the
subscribers that its name has at that moment.
-/

namespace ChannelGateway

/-- A gateway. -/
structure Gateway where
  hub : Hub
  registry : Registry
  gates : Gates
  subscriptions : Subscriptions
  dispatcher : Dispatcher
  /-- How long an open waits for its channel, in milliseconds. -/
  openTimeout : Nat
  startup : List StartupChannel
  /-- Title of the state page. -/
  title : String

namespace Gateway

/-- The gateway of a configuration, on its own hub, with nothing open. -/
def ofConfig (config : GatewayConfig) (hub : Hub) : Gateway :=
  { hub
    registry := .empty
    gates := []
    subscriptions := .empty
    dispatcher := .ofTimeout config.webhooks.deliveryTimeout.toNat
    openTimeout := config.hardware.openTimeout.toNat
    startup := config.channels
    title := config.server.title }

/-- Deliver a state change to the subscribers of a name. -/
def fanOut (g : Gateway) (name : String) (state : Bool) : Gateway :=
  { g with dispatcher := g.dispatcher.fanOut ⟨name, state⟩ (g.subscriptions.listFor name) }

/-- What the gateway does about an event of its hub. -/
def observe (g : Gateway) : HubEvent → Gateway
  | .attached _ => g
  | .detached id => { g with registry := (g.registry.removeChannel id).2 }
  | .fault _ _ _ => g
  | .changed id state =>
    match g.registry.nameFor id with
    | some name => g.fanOut name state
    | none => g

/-- What the gateway does about events of its hub, in order. -/
def observeAll (g : Gateway) (events : List HubEvent) : Gateway :=
  events.foldl observe g

/-- The channel of a resource. -/
def channelOf (g : Gateway) (r : Resource) : Channel :=
  (g.hub.channel? r.serial).getD (.fresh r.serial r.spec)

/-- Read the channel of a resource. -/
def status (g : Gateway) (r : Resource) : Status × Gateway :=
  let (hub, result) := g.hub.read (g.channelOf r)
  (⟨r.name, r.kind, .ofResult result⟩, { g with hub })

/-- Read the channels of resources, one after the other. -/
def statuses (g : Gateway) : List Resource → List Status × Gateway
  | [] => ([], g)
  | r :: rest =>
    let (first, g) := g.status r
    let (others, g) := g.statuses rest
    (first :: others, g)

/-- The status records of all open names, in the order of their names. -/
def snapshot (g : Gateway) : List Status × Gateway :=
  let (records, g) := g.statuses g.registry.resources
  (records.mergeSort fun a b => !(b.name < a.name), g)

/-- Close the channels of resources, whatever comes of it. -/
def closeAll (g : Gateway) (resources : List Resource) : Gateway :=
  resources.foldl (fun g r => { g with hub := (g.hub.startClose (g.channelOf r)).1 }) g

/-- Forget every open name, then close their channels. -/
def shutdown (g : Gateway) : Gateway :=
  let (resources, registry) := g.registry.drain
  { g with registry }.closeAll resources

/-- Whether a registered name holds a channel. -/
def registers (g : Gateway) (serial : Nat) : Bool :=
  g.registry.resources.any fun r => r.serial = serial

/-- Whether a channel is held, by the registry or by somebody else. -/
def holds (g : Gateway) (others : Nat → Bool) (serial : Nat) : Bool :=
  g.registers serial || others serial

end Gateway

end ChannelGateway
