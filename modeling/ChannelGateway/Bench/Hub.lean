import ChannelGateway.Http.Server

/-!
# A hub on the bench

A bench is a `MockHub` or a gateway on a virtual clock, driven by a list of steps. Nothing takes
time on it except what waits, and when everything waits the clock jumps to the next moment at which
something can go on. Each step has an answer.

On the bench of a hub, channels are created under handles, which hold them, and every event of the
hub is recorded. One step runs at a time, so an operation that waits makes the clock jump to its
end.
-/

namespace ChannelGateway

/-! ## Answers -/

/-- The counters of a gateway. -/
structure Tally where
  /-- Channels created so far. -/
  created : Nat
  /-- Channels that somebody holds. -/
  live : Nat
  resources : Nat
  subscriptions : Nat
  attempted : Nat
  delivered : Nat
  failed : Nat
  deriving DecidableEq, Repr, Inhabited

/-- Texts that describe the parts of a gateway. -/
structure Description where
  resource : Option String
  channel : Option String
  dispatcher : String
  gateway : String
  deriving DecidableEq, Repr, Inhabited

/-- The answer to a step. -/
inductive Answer where
  | done
  | flag (b : Bool)
  | count (n : Nat)
  | name (s : Option String)
  | names (l : List String)
  /-- What an operation answered. -/
  | reply (r : Reply)
  /-- What a channel reads. -/
  | reading (r : Reply)
  | refused (f : HubFailure)
  | failed (e : GatewayError)
  | channel (c : Channel)
  | resource (r : Option Resource)
  | status (s : Status)
  | statuses (l : List Status)
  | response (r : Http.Response)
  | created (driver : String)
  | counts (created live : Nat)
  | tally (t : Tally)
  | description (d : Description)
  | noChannel
  | noHandle
  | notHeld
  | badKind
  | unknownStep
  deriving Inhabited

/-- The answer to an operation. -/
def Answer.ofIo (io : Io) : Except HubFailure Reply → Answer
  | .error f => .refused f
  | .ok r =>
    match io with
    | .read => .reading r
    | _ => .reply r

/-- The answer to a request that tells nothing but its success. -/
def Answer.ofOutcome : Outcome → Answer
  | .ok _ => .done
  | .error e => .failed e

/-- The answer to a request that tells its resource. -/
def Answer.ofOpening : Outcome → Answer
  | .ok r => .resource r
  | .error e => .failed e

/-!
## Interventions

A step may find a channel of the hub and do something to it behind the back of the gateway.
-/

/-- How a channel is found. -/
inductive Locator where
  /-- The first one with an identity. -/
  | identity (id : ChannelId)
  /-- The last one at an address. -/
  | place (a : Address)
  deriving DecidableEq, Repr, Inhabited

/-- The held channel that a locator finds. -/
def Locator.find? (h : Hub) (held : Nat → Bool) : Locator → Option Channel
  | identity id => h.withId? held id
  | place a => h.at? held a

/-- What is done to a channel. -/
inductive Intervention where
  /-- The input takes a state. -/
  | change (state : Bool)
  | detach
  | attach
  | fault (code : UInt32) (text : String)
  /-- Only look at it. -/
  | inspect
  | operate (io : Io)
  deriving Repr, Inhabited

/-- What comes of an intervention at once. -/
inductive Effect where
  | answered (a : Answer)
  | waiting (w : Waiting)
  deriving Inhabited

namespace Hub

/-- Begin an operation. -/
def operate (h : Hub) (now : Nat) (c : Channel) (io : Io) : Hub × List HubEvent × Effect :=
  match h.start now c io with
  | (h, events, .finished result) => (h, events, .answered (.ofIo io result))
  | (h, events, .waiting w) => (h, events, .waiting w)

/-- Begin an intervention. -/
def intervene (h : Hub) (now : Nat) (c : Channel) :
    Intervention → Hub × List HubEvent × Effect
  | .change state =>
    match h.changeInput c state with
    | (h, events, .ok changed) => (h, events, .answered (.flag changed))
    | (h, events, .error f) => (h, events, .answered (.refused f))
  | .detach => let (h, events) := h.detach c; (h, events, .answered .done)
  | .attach => let (h, events) := h.reattach c; (h, events, .answered .done)
  | .fault code text => (h, raise c code text, .answered .done)
  | .inspect => (h, [], .answered (.channel c))
  | .operate io => h.operate now c io

/-- The channel of an operation that has waited. -/
def current (h : Hub) (c : Channel) : Channel :=
  (h.channel? c.serial).getD c

/-- End an operation that has waited. -/
def conclude (h : Hub) (c : Channel) (w : Waiting) : Hub × List HubEvent × Answer :=
  match h.resume (h.current c) w with
  | (h, events, .ok r) => (h, events, .reply r)
  | (h, events, .error f) => (h, events, .refused f)

end Hub

/-! ## Steps -/

/-- A hub on the bench. -/
structure HubBench where
  hub : Hub
  now : Nat
  /-- The serial numbers of the channels that are held. -/
  handles : Table String Nat

/-- A step of a hub on the bench. -/
inductive HubStep where
  | create (handle : String) (spec : ChannelSpec)
  | drop (handle : String)
  /-- Count the channels that can still report events. -/
  | listeners
  | counts
  | operate (handle : String) (io : Io)
  | intervene (locator : Option Locator) (what : Intervention)
  | unknown
  deriving Repr, Inhabited

namespace HubBench

/-- A hub on which nothing has been created, at the beginning of time. -/
def ofHub (hub : Hub) : HubBench := ⟨hub, 0, []⟩

/-- Whether a handle holds a channel. -/
def held (b : HubBench) (serial : Nat) : Bool :=
  b.handles.values.contains serial

/-- Do something to a channel and wait until it is done. -/
def run (b : HubBench) (c : Channel) (what : Intervention) : HubBench × List HubEvent × Answer :=
  match b.hub.intervene b.now c what with
  | (hub, events, .answered a) => ({ b with hub }, events, a)
  | (hub, events, .waiting w) =>
    let (hub, more, a) := hub.conclude c w
    ({ b with hub, now := w.due }, events ++ more, a)

/-- Take a step; the events are those that it caused. -/
def step (b : HubBench) : HubStep → HubBench × List HubEvent × Answer
  | .create handle spec =>
    ({ b with
        hub := b.hub.create b.held spec
        handles := b.handles.insert handle b.hub.created },
      [], .created HubFailure.driver)
  | .drop handle =>
    ({ b with handles := b.handles.erase handle }, [], .flag (b.handles.contains handle))
  | .listeners => (b, [], .count (b.hub.liveCount b.held))
  | .counts => (b, [], .counts b.hub.created (b.hub.liveCount b.held))
  | .operate handle io =>
    match (b.handles.get? handle).bind b.hub.channel? with
    | some c => b.run c (.operate io)
    | none => (b, [], .noHandle)
  | .intervene locator what =>
    match locator.bind (Locator.find? b.hub b.held) with
    | some c => b.run c what
    | none => (b, [], .noChannel)
  | .unknown => (b, [], .unknownStep)

/-- Take steps one after the other; with each its events, its answer and the time after it. -/
def play (b : HubBench) : List HubStep → List (List HubEvent × Answer × Nat)
  | [] => []
  | s :: rest =>
    let (b, events, a) := b.step s
    (events, a, b.now) :: play b rest

end HubBench

end ChannelGateway
