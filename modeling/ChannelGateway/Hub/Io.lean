import ChannelGateway.Hub.Basic

/-!
# Operations on channels

Model of `MockChannel`: its `open`, `close`, `state`, `set_state`, `voltage` and `set_voltage`, and
the `simulate_` functions that act for the hardware.

`Hub.start` begins an operation. Most end at once; in realistic mode opening and writing sleep
(`io_delay`), and `Hub.resume` ends them when their time has come. They sleep whatever the delay is:
a sleep of no length is due at once, but others may come before it is taken up. Everything that
happens to a channel is told as a `HubEvent`.
-/

namespace ChannelGateway

/-- What a hub tells about its channels. -/
inductive HubEvent where
  | attached (id : ChannelId)
  | detached (id : ChannelId)
  | fault (id : ChannelId) (code : UInt32) (text : String)
  | changed (id : ChannelId) (state : Bool)
  deriving DecidableEq, Repr, Inhabited

/-- A value to be written. -/
inductive Write where
  | state (b : Bool)
  | voltage (volts : Float)
  deriving Repr, Inhabited

namespace Write

/-- The operation that writes a value. -/
def operation : Write → Operation
  | state _ => .settingState
  | voltage _ => .settingVoltage

/-- The kind of channel that takes a value. -/
def kind : Write → ChannelKind
  | state _ => .digitalOutput
  | voltage _ => .voltageOutput

/-- Why a value may not be written to any channel. -/
def refusal? : Write → Option HubFailure
  | state _ => none
  | voltage volts => if inVoltageRange volts then none else some (.voltageOutOfRange volts)

/-- A channel after a value has been written to it. -/
def apply (w : Write) (c : Channel) : Channel :=
  match w with
  | state b => { c with state := b, writes := c.writes + 1 }
  | voltage volts => { c with voltage := volts, writes := c.writes + 1 }

end Write

/-- An operation on a channel. -/
inductive Io where
  /-- Open, waiting at most so many milliseconds for the hardware. -/
  | openWithin (timeout : Nat)
  | close
  | readState
  | readVoltage
  /-- Read the state or the voltage, whichever the channel has. -/
  | read
  | write (w : Write)
  deriving Repr, Inhabited

/-- What a successful operation answers. -/
inductive Reply where
  | done
  | state (b : Bool)
  | voltage (volts : Float)
  deriving Repr, Inhabited

/-- What an operation waits for. -/
inductive Waiting where
  /-- The channel attaches at a time. -/
  | attaching (due : Nat)
  /-- Nothing is there to attach; the operation gives up at a time. -/
  | absent (due : Nat) (timeout : Nat)
  /-- A value is written at a time. -/
  | writing (due : Nat) (w : Write)
  deriving Repr, Inhabited

/-- When an operation goes on. -/
def Waiting.due : Waiting → Nat
  | attaching due => due
  | absent due _ => due
  | writing due _ => due

/-- How far an operation has come. -/
inductive IoStatus where
  | finished (result : Except HubFailure Reply)
  | waiting (w : Waiting)
  deriving Inhabited

namespace Hub

/-- A channel attaches to its hardware. -/
def connect (h : Hub) (c : Channel) : Hub × List HubEvent :=
  (h.modify c.serial Channel.connect, [.attached c.spec.id])

/-- Begin to open a channel. A channel that is open stays as it is. -/
def startOpen (h : Hub) (now : Nat) (c : Channel) (timeout : Nat) :
    Hub × List HubEvent × IoStatus :=
  match h.check .opening with
  | (some f, h) => (h, [], .finished (.error f))
  | (none, h) =>
    let attachDelay := h.config.delay h.config.timing.attachDelay
    if c.isOpen then (h, [], .finished (.ok .done))
    else if h.config.contains c.spec.address ∧ attachDelay ≤ timeout then
      if h.config.mode = .realistic then (h, [], .waiting (.attaching (now + attachDelay)))
      else
        let (h, events) := h.connect c
        (h, events, .finished (.ok .done))
    else if h.config.mode = .realistic then (h, [], .waiting (.absent (now + timeout) timeout))
    else (h, [], .finished (.error (.attachTimeout c.spec.address timeout)))

/-- Close a channel. -/
def startClose (h : Hub) (c : Channel) : Hub × IoStatus :=
  match h.check .closing with
  | (some f, h) => (h, .finished (.error f))
  | (none, h) => (h.modify c.serial Channel.disconnect, .finished (.ok .done))

/-- Read the state of a digital channel. -/
def readState (h : Hub) (c : Channel) : Hub × Except HubFailure Reply :=
  if !c.spec.kind.isDigital then (h, .error (c.unsupported Operation.readingState.label))
  else
    match h.check .readingState with
    | (some f, h) => (h, .error f)
    | (none, h) => (h, if c.attached then .ok (.state c.state) else .error c.notAttached)

/-- Read the voltage of a voltage output. -/
def readVoltage (h : Hub) (c : Channel) : Hub × Except HubFailure Reply :=
  if c.spec.kind ≠ .voltageOutput then
    (h, .error (c.unsupported Operation.readingVoltage.label))
  else
    match h.check .readingVoltage with
    | (some f, h) => (h, .error f)
    | (none, h) => (h, if c.attached then .ok (.voltage c.voltage) else .error c.notAttached)

/-- Read what a channel has to read. -/
def read (h : Hub) (c : Channel) : Hub × Except HubFailure Reply :=
  if c.spec.kind.isDigital then h.readState c else h.readVoltage c

/-- Begin to write a value: its kind, its range, the injected faults and the hardware are checked in
this order. -/
def startWrite (h : Hub) (now : Nat) (c : Channel) (w : Write) : Hub × IoStatus :=
  if c.spec.kind ≠ w.kind then (h, .finished (.error (c.unsupported w.operation.label)))
  else
    match w.refusal? with
    | some f => (h, .finished (.error f))
    | none =>
      match h.check w.operation with
      | (some f, h) => (h, .finished (.error f))
      | (none, h) =>
        let ioDelay := h.config.delay h.config.timing.ioDelay
        if !c.attached then (h, .finished (.error c.notAttached))
        else if h.config.mode = .realistic then (h, .waiting (.writing (now + ioDelay) w))
        else (h.modify c.serial w.apply, .finished (.ok .done))

/-- Begin an operation on a channel. -/
def start (h : Hub) (now : Nat) (c : Channel) : Io → Hub × List HubEvent × IoStatus
  | .openWithin timeout => h.startOpen now c timeout
  | .close => let (h, status) := h.startClose c; (h, [], status)
  | .readState => let (h, result) := h.readState c; (h, [], .finished result)
  | .readVoltage => let (h, result) := h.readVoltage c; (h, [], .finished result)
  | .read => let (h, result) := h.read c; (h, [], .finished result)
  | .write w => let (h, status) := h.startWrite now c w; (h, [], status)

/-- End an operation whose time has come. -/
def resume (h : Hub) (c : Channel) : Waiting → Hub × List HubEvent × Except HubFailure Reply
  | .attaching _ => let (h, events) := h.connect c; (h, events, .ok .done)
  | .absent _ timeout => (h, [], .error (.attachTimeout c.spec.address timeout))
  | .writing _ w => (h.modify c.serial w.apply, [], .ok .done)

/-- An input takes a state. Only a change of an attached input is told. -/
def changeInput (h : Hub) (c : Channel) (state : Bool) :
    Hub × List HubEvent × Except HubFailure Bool :=
  if c.spec.kind ≠ .digitalInput then (h, [], .error (c.unsupported "simulate_state_change"))
  else if !c.attached then (h, [], .error c.notAttached)
  else if c.state = state then (h, [], .ok false)
  else (h.modify c.serial fun c => { c with state }, [.changed c.spec.id state], .ok true)

/-- A channel loses its hardware. -/
def detach (h : Hub) (c : Channel) : Hub × List HubEvent :=
  (h.modify c.serial fun c => { c with attached := false }, [.detached c.spec.id])

/-- An open channel gets its hardware back. -/
def reattach (h : Hub) (c : Channel) : Hub × List HubEvent :=
  if c.isOpen then
    (h.modify c.serial fun c => { c with attached := true }, [.attached c.spec.id])
  else (h, [])

/-- A channel reports a fault. -/
def raise (c : Channel) (code : UInt32) (text : String) : List HubEvent :=
  [.fault c.spec.id code text]

end Hub

end ChannelGateway
