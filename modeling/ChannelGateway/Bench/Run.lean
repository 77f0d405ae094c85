import ChannelGateway.Bench.Hub
import ChannelGateway.Gateway.Describe

/-!
# A gateway on the bench

A gateway on the bench takes several steps together. Each is an errand that runs until it has to
wait: for a gate, for a channel, for a moment, or for deliveries. Errands that are under way
together are taken up in the order of their steps. After each round the deliveries that were
scheduled in it begin. Rounds go on as long as an errand can; then the clock jumps to the next
moment at which an errand or a delivery goes on. The runtime of the program takes up its tasks in
some order; on the bench the order is fixed.
-/

namespace ChannelGateway

/-! ## Errands -/

/-- What is done with a resource that is kept. -/
inductive KeptUse where
  | status
  | operate (io : Io)
  deriving Repr, Inhabited

/-- A step of a gateway on the bench. -/
inductive Step where
  | http (r : Http.Request)
  | call (c : Call)
  /-- Open a name, and keep the resource under a key. -/
  | openName (request : OpenRequest) (keep : Option String)
  | kept (key : String) (use : KeptUse)
  | release (key : String)
  | startup
  | shutdown
  | snapshot
  | drain
  | resolve (name : String)
  | contains (name : String)
  | nameFor (id : ChannelId)
  | removeChannel (id : ChannelId)
  | subscribe (name url : String)
  | urls (name : String)
  | fanOut (name : String) (state : Bool)
  /-- Deliver a state change and wait until every delivery has ended. -/
  | fanOutWait (name : String) (state : Bool)
  /-- Tell the gateway of an event. -/
  | tell (event : HubEvent)
  | rest (ms : Nat)
  | tally
  | counts
  | describe (name : String) (locator : Option Locator)
  | intervene (locator : Option Locator) (what : Intervention)
  /-- A step that cannot be taken. -/
  | invalid (a : Answer)
  deriving Inhabited

/-- What the answer of a request is made of. -/
inductive AnswerShape where
  | plain
  | response
  /-- The resource, which is also kept under a key. -/
  | opening (keep : Option String)
  /-- How many requests succeeded. -/
  | successes
  deriving DecidableEq, Repr, Inhabited

/-- A step that is under way. -/
inductive Errand where
  | fresh (s : Step)
  | requesting (t : Task) (shape : AnswerShape)
  | operating (c : Channel) (w : Waiting)
  | resting (due : Nat)
  /-- It waits for so many deliveries, from a number on. -/
  | awaiting (first count : Nat)
  | finished (a : Answer) (time : Nat)
  deriving Inhabited

namespace Errand

/-- Whether an errand holds a channel. -/
def holds (serial : Nat) : Errand → Bool
  | requesting t _ => t.progress.holds serial
  | operating c _ => c.serial = serial
  | _ => false

/-- When an errand that waits for a moment goes on. -/
def due? : Errand → Option Nat
  | requesting t _ => t.progress.due?
  | operating _ w => some w.due
  | resting due => some due
  | _ => none

/-- The answer and its time, once there is one. -/
def answer? : Errand → Option (Answer × Nat)
  | finished a time => some (a, time)
  | _ => none

/-- At most so many times an errand that has begun is still to be taken up. -/
def remaining : Errand → Nat
  | fresh _ => 1
  | requesting t _ => t.remaining
  | operating _ _ => 1
  | resting _ => 1
  | awaiting _ _ => 1
  | finished _ _ => 0

end Errand

/-- A gateway on the bench. -/
structure Bench where
  gateway : Gateway
  now : Nat
  receivers : String → Receiver
  /-- Resources that are held beside the registry. -/
  kept : Table String Resource
  /-- The number of the next request. -/
  ticket : Nat

namespace Bench

/-- A gateway at the beginning of time. -/
def ofGateway (gateway : Gateway) (receivers : String → Receiver) : Bench :=
  ⟨gateway, 0, receivers, [], 0⟩

/-- Whether a channel is held beside the registry. -/
def keeps (b : Bench) (others : Nat → Bool) (serial : Nat) : Bool :=
  b.kept.values.any (fun r => r.serial = serial) || others serial

/-- Whether a channel is held. -/
def held (b : Bench) (others : Nat → Bool) : Nat → Bool :=
  b.gateway.holds (b.keeps others)

/-- The channel that a locator finds. -/
def locate? (b : Bench) (others : Nat → Bool) (locator : Option Locator) : Option Channel :=
  locator.bind (Locator.find? b.gateway.hub (b.held others))

/-- An errand that is finished now. -/
def finish (b : Bench) (a : Answer) : Bench × Errand :=
  (b, .finished a b.now)

/-- An errand that makes requests. -/
def request (b : Bench) (jobs : List Job) (shape : AnswerShape) : Bench × Errand :=
  match Task.ofJobs? b.ticket jobs with
  | some t => ({ b with ticket := b.ticket + 1 }, .requesting t shape)
  | none => b.finish (.count 0)

/-- The gateway learns what has happened to its hub. -/
def learn (b : Bench) (hub : Hub) (events : List HubEvent) : Bench :=
  { b with gateway := { b.gateway with hub }.observeAll events }

/-- Do something to a channel. -/
def intervene (b : Bench) (c : Channel) (what : Intervention) : Bench × Errand :=
  match b.gateway.hub.intervene b.now c what with
  | (hub, events, .answered a) => (b.learn hub events).finish a
  | (hub, events, .waiting w) => (b.learn hub events, .operating c w)

/-- The counters. -/
def tally (b : Bench) (others : Nat → Bool) : Tally :=
  let g := b.gateway
  { created := g.hub.created
    live := g.hub.liveCount (b.held others)
    resources := g.registry.size
    subscriptions := g.subscriptions.count
    attempted := g.dispatcher.attempted
    delivered := g.dispatcher.delivered
    failed := g.dispatcher.failed }

/-- Texts that describe the gateway, a resource and a channel. -/
def describe (b : Bench) (others : Nat → Bool) (name : String) (locator : Option Locator) :
    Description :=
  let g := b.gateway
  { resource := (g.registry.resolve name).map Describe.resource
    channel := (b.locate? others locator).map (Describe.channel g.hub.config)
    dispatcher := Describe.dispatcher g.dispatcher
    gateway := Describe.gateway g }

/-- Begin a step. `others` tells which channels other errands hold. -/
def perform (b : Bench) (others : Nat → Bool) (s : Step) : Bench × Errand :=
  let g := b.gateway
  match s with
  | .http r =>
    match Http.handle g r with
    | .answered response gateway => { b with gateway }.finish (.response response)
    | .accepted job => b.request [job] .response
  | .call c =>
    match c.job g.openTimeout with
    | .ok job => b.request [job] .plain
    | .error e => b.finish (.failed e)
  | .openName request keep => b.request [.use request .nothing] (.opening keep)
  | .kept key use =>
    match b.kept.get? key, use with
    | none, _ => b.finish .notHeld
    | some r, .status =>
      let (status, gateway) := g.status r
      { b with gateway }.finish (.status status)
    | some r, .operate io => b.intervene (g.channelOf r) (.operate io)
  | .release key => { b with kept := b.kept.erase key }.finish (.flag (b.kept.contains key))
  | .startup => b.request g.startupJobs .successes
  | .shutdown => { b with gateway := g.shutdown }.finish .done
  | .snapshot =>
    let (statuses, gateway) := g.snapshot
    { b with gateway }.finish (.statuses statuses)
  | .drain =>
    let (resources, registry) := g.registry.drain
    let names := (resources.map Resource.name).mergeSort fun a b => !(b < a)
    { b with gateway := { g with registry } }.finish (.names names)
  | .resolve name => b.finish (.resource (g.registry.resolve name))
  | .contains name => b.finish (.flag (g.registry.resolve name).isSome)
  | .nameFor id => b.finish (.name (g.registry.nameFor id))
  | .removeChannel id =>
    let (resource, registry) := g.registry.removeChannel id
    { b with gateway := { g with registry } }.finish (.resource resource)
  | .subscribe name url =>
    let subscriptions := g.subscriptions.subscribe name url
    { b with gateway := { g with subscriptions } }.finish .done
  | .urls name => b.finish (.names (g.subscriptions.listFor name))
  | .fanOut name state =>
    { b with gateway := g.fanOut name state }.finish
      (.count (g.subscriptions.listFor name).length)
  | .fanOutWait name state =>
    ({ b with gateway := g.fanOut name state },
      .awaiting g.dispatcher.next (g.subscriptions.listFor name).length)
  | .tell event => { b with gateway := g.observe event }.finish .done
  | .rest ms => (b, .resting (b.now + ms))
  | .tally => b.finish (.tally (b.tally others))
  | .counts => b.finish (.counts g.hub.created (g.hub.liveCount (b.held others)))
  | .describe name locator => b.finish (.description (b.describe others name locator))
  | .intervene locator what =>
    match b.locate? others locator with
    | some c => b.intervene c what
    | none => b.finish .noChannel
  | .invalid a => b.finish a

/-- The answer of requests, and the bench with the resource that is kept. -/
def conclude (b : Bench) (outcomes : List Outcome) : AnswerShape → Bench × Errand
  | .plain => b.finish (outcomes.getLast?.elim .done Answer.ofOutcome)
  | .response => b.finish (outcomes.getLast?.elim .done fun o => .response (.ofOutcome o))
  | .successes => b.finish (.count (successes outcomes))
  | .opening keep =>
    let b :=
      match keep, outcomes.getLast? with
      | some key, some (.ok (some r)) => { b with kept := b.kept.insert key r }
      | _, _ => b
    b.finish (outcomes.getLast?.elim .done Answer.ofOpening)

/-- Whether some of a range of deliveries have not ended. -/
def isAwaiting (b : Bench) (first count : Nat) : Bool :=
  (List.range count).any fun k => b.gateway.dispatcher.isPending (first + k)

/-- Take up an errand that has begun, until it has to wait. -/
def resume (b : Bench) (others : Nat → Bool) : Errand → Bench × Errand
  | .requesting t shape =>
    let (gateway, t) := t.run b.now (b.keeps others) b.gateway
    let b := { b with gateway }
    match t.outcomes? with
    | some outcomes => b.conclude outcomes shape
    | none => (b, .requesting t shape)
  | .operating c w =>
    if w.due ≤ b.now then
      let (hub, events, a) := b.gateway.hub.conclude c w
      (b.learn hub events).finish a
    else (b, .operating c w)
  | .resting due => if due ≤ b.now then b.finish .done else (b, .resting due)
  | .awaiting first count =>
    if b.isAwaiting first count then (b, .awaiting first count) else b.finish (.count count)
  | e => (b, e)

/-- Take up an errand, until it has to wait. -/
def poll (b : Bench) (others : Nat → Bool) : Errand → Bench × Errand
  | .fresh s =>
    let (b, e) := b.perform others s
    b.resume others e
  | e => b.resume others e

/-- Whether an errand that has begun can go on. -/
def canResume (b : Bench) : Errand → Bool
  | .fresh _ => true
  | .requesting t _ => t.canAdvance b.now b.gateway
  | .operating _ w => w.due ≤ b.now
  | .resting due => due ≤ b.now
  | .awaiting first count => !b.isAwaiting first count
  | .finished _ _ => false

end Bench

/-! ## Rounds -/

namespace Bench

/-- Take up every errand once. `before` are the errands already taken up, in reverse. -/
def round (b : Bench) (before : List Errand) : List Errand → Bench × List Errand
  | [] => (b, before.reverse)
  | e :: after =>
    let others := fun serial =>
      before.any (Errand.holds serial) || after.any (Errand.holds serial)
    let (b, e) := b.poll others e
    round b (e :: before) after

/-- Begin the scheduled deliveries and end those whose time has come; the ones that begin are
told. -/
def deliver (b : Bench) : Bench × List Delivery :=
  let d := b.gateway.dispatcher
  let dispatcher := (d.beginAll b.now b.receivers).settle b.now
  ({ b with gateway := { b.gateway with dispatcher } }, d.scheduled)

/-- The next moment at which an errand or a delivery goes on. -/
def nextDue? (b : Bench) (errands : List Errand) : Option Nat :=
  (errands.filterMap Errand.due? ++ b.gateway.dispatcher.nextDue?.toList).min?

/-- How many rounds errands that have begun can still take. -/
def roundsLeft (b : Bench) (errands : List Errand) : Nat :=
  errands.foldr (fun e n => e.remaining + n) 0 + b.gateway.dispatcher.inFlight.length

/-- Go on for at most so many rounds, until every errand is finished. -/
def rounds : Nat → Bench → List Errand → Bench × List Errand × List Delivery
  | 0, b, errands => (b, errands, [])
  | fuel + 1, b, errands =>
    if errands.all fun e => e.answer?.isSome then (b, errands, [])
    else
      let now :=
        if errands.any b.canResume then b.now else ((b.nextDue? errands).getD b.now)
      let (b, errands) := { b with now }.round [] errands
      let (b, sent) := b.deliver
      let (b, errands, more) := rounds fuel b errands
      (b, errands, sent ++ more)

/-- Run steps together until all are finished. -/
def run (b : Bench) (steps : List Step) : Bench × List Errand × List Delivery :=
  let (b, errands) := b.round [] (steps.map .fresh)
  let (b, sent) := b.deliver
  let (b, errands, more) := rounds (b.roundsLeft errands) b errands
  (b, errands, sent ++ more)

end Bench

/-- A line of a scenario: a step, or steps that are taken together. -/
inductive Line where
  | single (s : Step)
  | together (steps : List Step)
  deriving Inhabited

/-- What came of a line. -/
structure Outturn where
  /-- The answer of each step, and its time. -/
  answers : List (Answer × Nat)
  /-- The deliveries that began. -/
  sent : List Delivery
  /-- The time after the line. -/
  time : Nat

/-- The steps of a line. -/
def Line.steps : Line → List Step
  | single s => [s]
  | together steps => steps

namespace Bench

/-- Take a line. -/
def take (b : Bench) (line : Line) : Bench × Outturn :=
  let (b, errands, sent) := b.run line.steps
  (b, ⟨errands.filterMap Errand.answer?, sent, b.now⟩)

/-- Take lines one after the other. -/
def play (b : Bench) : List Line → List Outturn
  | [] => []
  | line :: rest =>
    let (b, outturn) := b.take line
    outturn :: play b rest

end Bench

end ChannelGateway
