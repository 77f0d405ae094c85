import ChannelGateway.Gateway.Basic

/-!
# Requests in progress

Model of `get_or_open` and `remove` of `ResourceRegistry`, and of the calls of `GatewayService` that
are made of them: `set_digital_output`, `set_voltage_output`, `open_digital_input`, `close` and
`open_startup_channels`.

A request on a name runs until it has to wait: for the gate of the name, for its channel to attach,
or for the hardware to take a value. `Progress` says where a request stands and `Gateway.advance`
takes it from there to the next place where it may have to wait. Nothing else happens in between, so
runs of many requests are interleavings of these pieces.

Opening a name looks it up twice (`reuse`): before taking a ticket, and again when the gate is held,
since another request may have opened it in the meantime. A failed open gives its gate back, and the
next request tries for itself.
-/

namespace ChannelGateway

/-! ## Progress -/

/-- How a name is to be opened when it is not open yet. -/
structure OpenRequest where
  name : String
  kind : ChannelKind
  address : Address
  /-- How long to wait for the channel, in milliseconds. -/
  timeout : Nat
  deriving DecidableEq, Repr, Inhabited

/-- What is done with a name once it is open. -/
inductive Followup where
  | nothing
  | write (w : Write)
  | subscribe (urls : List String)
  deriving Repr, Inhabited

/-- A request on a name. -/
inductive Job where
  | use (request : OpenRequest) (followup : Followup)
  | close (name : String)
  deriving Repr, Inhabited

/-- The name of a request. -/
def Job.name : Job → String
  | use request _ => request.name
  | close name => name

/-- What a request ends with; a request that used a name tells its resource. -/
abbrev Outcome := Except GatewayError (Option Resource)

/-- Where a request stands. -/
inductive Progress where
  /-- It has not begun. -/
  | ready (job : Job)
  /-- It waits for the gate of its name. -/
  | queued (job : Job)
  /-- It holds the gate and waits for a channel to attach. -/
  | opening (resource : Resource) (followup : Followup) (w : Waiting)
  /-- It waits for the channel of an open name to take a value. -/
  | writing (resource : Resource) (w : Waiting)
  | done (outcome : Outcome)
  deriving Inhabited

namespace Progress

/-- Whether a request holds a channel. -/
def holds (serial : Nat) : Progress → Bool
  | opening resource _ _ => resource.serial = serial
  | writing resource _ => resource.serial = serial
  | _ => false

/-- When a request that waits for its channel goes on. -/
def due? : Progress → Option Nat
  | opening _ _ w => some w.due
  | writing _ w => some w.due
  | _ => none

/-- The name at whose gate a request has a ticket. -/
def gate? : Progress → Option String
  | queued job => some job.name
  | opening resource _ _ => some resource.name
  | _ => none

/-- At most so many pieces are still to come. -/
def remaining : Progress → Nat
  | ready _ => 4
  | queued _ => 3
  | opening _ _ _ => 2
  | writing _ _ => 1
  | done _ => 0

end Progress

namespace Gateway

/-- Give a ticket back. -/
def leaveGate (g : Gateway) (name : String) (ticket : Nat) : Gateway :=
  { g with gates := g.gates.leave name ticket }

/-- Do with an open name what the request asks for. -/
def follow (g : Gateway) (now : Nat) (r : Resource) : Followup → Gateway × Progress
  | .nothing => (g, .done (.ok (some r)))
  | .subscribe urls =>
    ({ g with subscriptions := g.subscriptions.subscribeAll r.name urls }, .done (.ok (some r)))
  | .write w =>
    match g.hub.startWrite now (g.channelOf r) w with
    | (hub, .finished (.ok _)) => ({ g with hub }, .done (.ok (some r)))
    | (hub, .finished (.error f)) =>
      ({ g with hub }, .done (.error (.deviceFailed r.name f.error)))
    | (hub, .waiting w) => ({ g with hub }, .writing r w)

/-- A channel has attached: register its name and give the gate back. -/
def register (g : Gateway) (now ticket : Nat) (r : Resource) (followup : Followup) :
    Gateway × Progress :=
  ({ g with registry := g.registry.insert r }.leaveGate r.name ticket).follow now r followup

/-- A channel has not opened: close it, whatever comes of it, and give the gate back. -/
def abandon (g : Gateway) (ticket : Nat) (r : Resource) (f : HubFailure) : Gateway × Progress :=
  let g := { g with hub := (g.hub.startClose (g.channelOf r)).1 }
  (g.leaveGate r.name ticket, .done (.error (.openFailed r.name f.error)))

/-- Create a channel for a name and begin to open it. `held` tells which channels somebody other
than the registry holds. -/
def create (g : Gateway) (now : Nat) (held : Nat → Bool) (ticket : Nat) (request : OpenRequest)
    (followup : Followup) : Gateway × Progress :=
  let (id, registry) := g.registry.takeId
  let spec : ChannelSpec := ⟨id, request.kind, request.address⟩
  let resource : Resource := ⟨request.name, request.kind, g.hub.created, spec⟩
  let g := { g with registry, hub := g.hub.create (g.holds held) spec }
  match g.hub.startOpen now (g.channelOf resource) request.timeout with
  | (hub, events, .finished (.ok _)) =>
    ({ g with hub }.observeAll events).register now ticket resource followup
  | (hub, events, .finished (.error f)) =>
    ({ g with hub }.observeAll events).abandon ticket resource f
  | (hub, events, .waiting w) =>
    ({ g with hub }.observeAll events, .opening resource followup w)

/-- Close the channel of a name and forget the name. A channel that fails to close stays. -/
def close (g : Gateway) (ticket : Nat) (name : String) : Gateway × Progress :=
  match g.registry.resolve name with
  | none => (g.leaveGate name ticket, .done (.error (.notFound name)))
  | some r =>
    match g.hub.startClose (g.channelOf r) with
    | (hub, .finished (.error f)) =>
      ({ g with hub }.leaveGate name ticket, .done (.error (.closeFailed name f.error)))
    | (hub, _) =>
      ({ g with hub, registry := (g.registry.removeIfBound name r.id).2 }.leaveGate name ticket,
        .done (.ok none))

/-- Go on with a request whose ticket holds the gate. -/
def pass (g : Gateway) (now : Nat) (held : Nat → Bool) (ticket : Nat) : Job → Gateway × Progress
  | .use request followup =>
    match g.registry.resolve request.name with
    | some r => (g.leaveGate request.name ticket).follow now r followup
    | none =>
      if request.address.isMissing then
        (g.leaveGate request.name ticket, .done (.error (.missingAddress request.name)))
      else g.create now held ticket request followup
  | .close name => g.close ticket name

/-- Take a ticket, and go on at once if the gate is free. -/
def queue (g : Gateway) (now : Nat) (held : Nat → Bool) (ticket : Nat) (job : Job) :
    Gateway × Progress :=
  let g := { g with gates := g.gates.enter job.name ticket }
  if g.gates.holds job.name ticket then g.pass now held ticket job else (g, .queued job)

/-- Begin a request. A name that is open is used without passing its gate. -/
def begin (g : Gateway) (now : Nat) (held : Nat → Bool) (ticket : Nat) (job : Job) :
    Gateway × Progress :=
  match job with
  | .use request followup =>
    match g.registry.resolve request.name with
    | some r => g.follow now r followup
    | none => g.queue now held ticket job
  | .close _ => g.queue now held ticket job

/-- Take a request to the next place where it may have to wait; none when it has to wait where it
is, or is done. `held` tells which channels somebody other than the registry holds. -/
def advance (g : Gateway) (now : Nat) (held : Nat → Bool) (ticket : Nat) :
    Progress → Option (Gateway × Progress)
  | .ready job => some (g.begin now held ticket job)
  | .queued job =>
    if g.gates.holds job.name ticket then some (g.pass now held ticket job) else none
  | .opening r followup w =>
    if w.due ≤ now then
      let (hub, events, result) := g.hub.resume (g.channelOf r) w
      let g := { g with hub }.observeAll events
      match result with
      | .ok _ => some (g.register now ticket r followup)
      | .error f => some (g.abandon ticket r f)
    else none
  | .writing r w =>
    if w.due ≤ now then
      let (hub, events, result) := g.hub.resume (g.channelOf r) w
      let g := { g with hub }.observeAll events
      match result with
      | .ok _ => some (g, .done (.ok (some r)))
      | .error f => some (g, .done (.error (.deviceFailed r.name f.error)))
    else none
  | .done _ => none

/-- Give up a request where it stands. -/
def cancel (g : Gateway) (ticket : Nat) (p : Progress) : Gateway :=
  match p.gate? with
  | some name => g.leaveGate name ticket
  | none => g

end Gateway

/-- Requests that are made one after the other, and what the ones before have ended with. -/
structure Task where
  ticket : Nat
  progress : Progress
  rest : List Job
  outcomes : List Outcome

namespace Task

/-- A task of several requests; none when there are none. -/
def ofJobs? (ticket : Nat) : List Job → Option Task
  | [] => none
  | job :: rest => some ⟨ticket, .ready job, rest, []⟩

/-- Take a task to the next place where it may have to wait. -/
def advance (t : Task) (now : Nat) (held : Nat → Bool) (g : Gateway) : Option (Gateway × Task) :=
  match t.progress, t.rest with
  | .done outcome, job :: rest =>
    some (g, { t with progress := .ready job, rest, outcomes := t.outcomes ++ [outcome] })
  | p, _ => (g.advance now held t.ticket p).map fun (g, p) => (g, { t with progress := p })

/-- At most so many pieces are still to come. -/
def remaining (t : Task) : Nat :=
  t.progress.remaining + 5 * t.rest.length

/-- Advance at most so many times, as far as the task need not wait. -/
def advanceUpTo (now : Nat) (held : Nat → Bool) : Nat → Gateway → Task → Gateway × Task
  | 0, g, t => (g, t)
  | fuel + 1, g, t =>
    match t.advance now held g with
    | none => (g, t)
    | some (g, t) => advanceUpTo now held fuel g t

/-- Run a task until it has to wait or is done. -/
def run (t : Task) (now : Nat) (held : Nat → Bool) (g : Gateway) : Gateway × Task :=
  advanceUpTo now held t.remaining g t

/-- What all requests of a task have ended with, once the last has. -/
def outcomes? (t : Task) : Option (List Outcome) :=
  match t.progress, t.rest with
  | .done outcome, [] => some (t.outcomes ++ [outcome])
  | _, _ => none

/-- Whether a task can go on. -/
def canAdvance (t : Task) (now : Nat) (g : Gateway) : Bool :=
  match t.progress, t.rest with
  | .done _, rest => !rest.isEmpty
  | .ready _, _ => true
  | .queued job, _ => g.gates.holds job.name t.ticket
  | p, _ => p.due?.any (· ≤ now)

end Task

/-!
## Calls

A call drives an output, opens an input or closes a name. A voltage out of range is refused before
anything else is looked at; an empty webhook subscribes nothing.
-/

/-- A call. -/
inductive Call where
  | digitalOut (name : String) (state : Bool) (address : Address)
  | voltageOut (name : String) (volts : Float) (address : Address)
  | digitalIn (name : String) (address : Address) (webhook : Option String)
  | close (name : String)
  deriving Repr, Inhabited

namespace Call

/-- The request that a call makes, or why it makes none. -/
def job (openTimeout : Nat) : Call → Except GatewayError Job
  | digitalOut name state address =>
    .ok (.use ⟨name, .digitalOutput, address, openTimeout⟩ (.write (.state state)))
  | voltageOut name volts address =>
    if inVoltageRange volts then
      .ok (.use ⟨name, .voltageOutput, address, openTimeout⟩ (.write (.voltage volts)))
    else .error (.validation "target_state must be +/- 10V")
  | digitalIn name address webhook =>
    .ok (.use ⟨name, .digitalInput, address, openTimeout⟩
      (.subscribe (webhook.toList.filter fun url => url ≠ "")))
  | close name => .ok (.close name)

end Call

/-- The request that opens a startup channel. -/
def StartupChannel.job (openTimeout : Nat) (c : StartupChannel) : Job :=
  .use ⟨c.name, c.kind, c.address, openTimeout⟩ (.subscribe c.webhooks)

/-- The requests that open the startup channels. -/
def Gateway.startupJobs (g : Gateway) : List Job :=
  g.startup.map (StartupChannel.job g.openTimeout)

/-- How many requests succeeded. -/
def successes (outcomes : List Outcome) : Nat :=
  outcomes.countP fun o => o.isOk

end ChannelGateway
