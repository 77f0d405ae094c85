import ChannelGateway.Proofs.Apart
import Mathlib.Data.List.Induction

/-!
# Channels in the hands of many callers

A `Rig` is a hub, its clock and the calls on channels that wait. A touch creates a channel, begins a
call on one, takes up a call that waits, gives it up, or lets time pass. Calls wait only where the
hub makes them wait, so a list of touches is an interleaving of any number of calls on any number of
channels, and a touch that cannot be made does nothing. A touch that takes up a channel leaves a
`CallReport`: the channel as it was found, what was asked of it, what the hub told, and the answer,
if the call ended with it.

`Deed` says once what a call can do to its channel between two places where it may have to wait,
with one constructor for each way, and with the events and the answer that go with it. What is true
of every channel over every run then follows from a look at the deeds: `Rig.channels_keep` takes a
property of a channel and of the reports on it, and asks for it of a channel that has just been
created and of a channel after each deed.

Results:
* `Hub.intervene_deed`, `Hub.conclude_deed`: a call does nothing but deeds.
* `Rig.act_outcome`: all that a touch does.
* **`Rig.channels_keep`**: what every deed keeps holds of every channel after every run.
-/

namespace ChannelGateway

/-- The answer, if there is one at once. -/
def Effect.answer? : Effect → Option Answer
  | answered a => some a
  | waiting _ => none

namespace Channel

/-- What a channel tells a reading that its kind has. -/
def reads? (c : Channel) : Io → Option Reply
  | .readState => if c.spec.kind.isDigital then some (.state c.state) else none
  | .readVoltage => if c.spec.kind = .voltageOutput then some (.voltage c.voltage) else none
  | .read => some (if c.spec.kind.isDigital then .state c.state else .voltage c.voltage)
  | _ => none

/-! ## Deeds -/

/-- **What a call can do to its channel** between two places where it may have to wait: the channel
afterwards, the events, and the answer if the call ends. -/
inductive Deed (c : Channel) : Intervention → Channel → List HubEvent → Option Answer → Prop
  | waits {what : Intervention} : Deed c what c [] none
  | refused {what : Intervention} (f : HubFailure) : Deed c what c [] (some (.refused f))
  | opened {timeout : Nat} :
    Deed c (.operate (.openWithin timeout)) c.connect [.attached c.spec.id] (some (.reply .done))
  | openAlready {timeout : Nat} (isOpen : c.isOpen = true) :
    Deed c (.operate (.openWithin timeout)) c [] (some (.reply .done))
  | closed : Deed c (.operate .close) c.disconnect [] (some (.reply .done))
  | reads {io : Io} {reply : Reply} (attached : c.attached = true)
    (told : c.reads? io = some reply) : Deed c (.operate io) c [] (some (.ofIo io (.ok reply)))
  | written {w : Write} (kind : c.spec.kind = w.kind) :
    Deed c (.operate (.write w)) (w.apply c) [] (some (.reply .done))
  | redundant {state : Bool} (kind : c.spec.kind = .digitalInput) (same : c.state = state) :
    Deed c (.change state) c [] (some (.flag false))
  | changed {state : Bool} (kind : c.spec.kind = .digitalInput) (attached : c.attached = true)
    (edge : c.state ≠ state) :
    Deed c (.change state) { c with state } [.changed c.spec.id state] (some (.flag true))
  | detached : Deed c .detach { c with attached := false } [.detached c.spec.id] (some .done)
  | reattached (isOpen : c.isOpen = true) :
    Deed c .attach { c with attached := true } [.attached c.spec.id] (some .done)
  | unopened (closed : c.isOpen = false) : Deed c .attach c [] (some .done)
  | raised {code : UInt32} {text : String} :
    Deed c (.fault code text) c [.fault c.spec.id code text] (some .done)
  | inspected : Deed c .inspect c [] (some (.channel c))

namespace Deed

variable {c c' : Channel} {what : Intervention} {events : List HubEvent} {answer? : Option Answer}

/-- A deed leaves a channel with its serial number and what it was created for. -/
theorem identity (hd : Deed c what c' events answer?) :
    c'.serial = c.serial ∧ c'.spec = c.spec := by
  cases hd with
  | @written w kind => cases w <;> exact ⟨rfl, rfl⟩
  | _ => exact ⟨rfl, rfl⟩

theorem serial_eq (hd : Deed c what c' events answer?) : c'.serial = c.serial := hd.identity.1

theorem spec_eq (hd : Deed c what c' events answer?) : c'.spec = c.spec := hd.identity.2

end Deed

end Channel

/-- What a call on a channel of a kind waits for. -/
inductive Waiting.Serves (kind : ChannelKind) : Intervention → Waiting → Prop
  | attaching (timeout due : Nat) : Serves kind (.operate (.openWithin timeout)) (.attaching due)
  | absent (timeout due : Nat) : Serves kind (.operate (.openWithin timeout)) (.absent due timeout)
  | writing {w : Write} (due : Nat) (takes : kind = w.kind) :
    Serves kind (.operate (.write w)) (.writing due w)

namespace Hub

variable {h h' : Hub} {c c' : Channel}

/-- A hub after one channel has been put in the place of the one with its serial number, and the
faults have been asked any number of times. -/
structure Puts (h : Hub) (c : Channel) (h' : Hub) : Prop where
  frame : h'.frame = h.frame
  numbered : h.Numbered → h'.Numbered
  channel? : ∀ serial,
    h'.channel? serial = if serial = c.serial then some c else h.channel? serial

theorem Puts.same (hc : h.channel? c.serial = some c) (i : Injection) :
    h.Puts c (h.withInjection i) where
  frame := rfl
  numbered := id
  channel? serial := by
    split
    · rename_i he
      rw [he]
      exact hc
    · rfl

theorem Puts.refl (hc : h.channel? c.serial = some c) : h.Puts c h := .same hc h.injection

theorem Puts.modify (hc : h.channel? c.serial = some c) (i : Injection) {f : Channel → Channel}
    (hf : ∀ c, (f c).serial = c.serial) :
    h.Puts (f c) ((h.withInjection i).modify c.serial f) where
  frame := rfl
  numbered hn := Numbered.modify (h := h.withInjection i) hn c.serial hf
  channel? serial := by
    rw [channel?_modify _ _ _ hf, hf]
    split
    · rename_i he
      rw [he]
      exact congrArg (Option.map f) hc
    · rfl

/-- What comes of beginning a call. -/
structure Begins (h : Hub) (c : Channel) (what : Intervention)
    (result : Hub × List HubEvent × Effect) : Prop where
  deed : ∃ c', c.Deed what c' result.2.1 result.2.2.answer? ∧ h.Puts c' result.1
  serves : ∀ w, result.2.2 = .waiting w → w.Serves c.spec.kind what

/-- A call that ends at once with a deed. -/
theorem Begins.ends {what : Intervention} {events : List HubEvent} {a : Answer}
    (deed : c.Deed what c' events (some a)) (puts : h.Puts c' h') :
    h.Begins c what (h', events, .answered a) :=
  ⟨⟨c', deed, puts⟩, fun _ he => by cases he⟩

/-- A call that has to wait. -/
theorem Begins.waits (hc : h.channel? c.serial = some c) (i : Injection) {what : Intervention}
    {w : Waiting} (serves : w.Serves c.spec.kind what) :
    h.Begins c what (h.withInjection i, [], .waiting w) :=
  ⟨⟨c, .waits, .same hc i⟩, fun _ he => by cases he; exact serves⟩

/-- A call that is refused. -/
theorem Begins.refused (hc : h.channel? c.serial = some c) (i : Injection) (what : Intervention)
    (f : HubFailure) : h.Begins c what (h.withInjection i, [], .answered (.refused f)) :=
  .ends (.refused f) (.same hc i)

/-- What comes of a reading: it is refused, or tells what the channel holds. -/
inductive Reads (h : Hub) (c : Channel) (io : Io) : Hub × Except HubFailure Reply → Prop
  | refused (i : Injection) (f : HubFailure) : Reads h c io (h.withInjection i, .error f)
  | told (i : Injection) {reply : Reply} (attached : c.attached = true)
    (told : c.reads? io = some reply) : Reads h c io (h.withInjection i, .ok reply)

/-- A reading that its kind has asks the faults, and then whether the channel is attached. -/
theorem reads_checked (h : Hub) {io : Io} {reply : Reply} (told : c.reads? io = some reply)
    (op : Operation) :
    h.Reads c io (match h.check op with
      | (some f, h) => (h, .error f)
      | (none, h) => (h, if c.attached then .ok reply else .error c.notAttached)) := by
  rw [check_eq]
  cases (h.injection.check op).1 with
  | some f => exact .refused _ f
  | none =>
    by_cases ha : c.attached = true
    · rw [if_pos ha]
      exact .told _ ha told
    · rw [if_neg ha]
      exact .refused _ _

theorem reads_readState (h : Hub) (c : Channel) : h.Reads c .readState (h.readState c) := by
  unfold readState
  split
  · exact .refused h.injection _
  · rename_i hk
    exact h.reads_checked (by simpa [Channel.reads?] using hk) _

theorem reads_readVoltage (h : Hub) (c : Channel) : h.Reads c .readVoltage (h.readVoltage c) := by
  unfold readVoltage
  split
  · exact .refused h.injection _
  · rename_i hk
    exact h.reads_checked (by simpa [Channel.reads?] using hk) _

/-- Reading what a channel has to read is a reading of its kind. -/
theorem reads_read (h : Hub) (c : Channel) : h.Reads c .read (h.read c) := by
  unfold read
  split
  · rename_i hk
    have hr := h.reads_readState c
    generalize h.readState c = result at hr
    cases hr with
    | refused i f => exact .refused i f
    | told i attached told =>
      refine .told i attached ?_
      simpa [Channel.reads?, hk] using told
  · rename_i hk
    have hr := h.reads_readVoltage c
    generalize h.readVoltage c = result at hr
    cases hr with
    | refused i f => exact .refused i f
    | told i attached told =>
      refine .told i attached ?_
      obtain ⟨-, hv⟩ := Option.ite_none_right_eq_some.mp told
      simpa [Channel.reads?, hk] using hv

section Calls

variable (hc : h.channel? c.serial = some c)

include hc

theorem begins_open (now timeout : Nat) :
    h.Begins c (.operate (.openWithin timeout)) (h.operate now c (.openWithin timeout)) := by
  have ho := h.startOpen_outcome now c timeout
  simp only [operate, start]
  generalize h.startOpen now c timeout = result at ho
  cases ho with
  | failed i f => exact .refused hc i _ f
  | attaching i due place => exact .waits hc i (.attaching timeout due)
  | absent i due => exact .waits hc i (.absent timeout due)
  | already i isOpen => exact .ends (.openAlready isOpen) (.same hc i)
  | opened i place => exact .ends .opened (.modify hc i fun _ => rfl)

theorem begins_close (now : Nat) : h.Begins c (.operate .close) (h.operate now c .close) := by
  have ho := h.startClose_outcome c
  simp only [operate, start]
  generalize h.startClose c = result at ho
  cases ho with
  | failed i f => exact .refused hc i _ f
  | closed i => exact .ends .closed (.modify hc i fun _ => rfl)

theorem begins_reading (now : Nat) {io : Io} {result : Hub × Except HubFailure Reply}
    (hr : h.Reads c io result) (hs : h.start now c io = (result.1, [], .finished result.2)) :
    h.Begins c (.operate io) (h.operate now c io) := by
  unfold operate
  rw [hs]
  cases hr with
  | refused i f => exact .refused hc i _ f
  | told i attached told => exact .ends (.reads attached told) (.same hc i)

theorem begins_write (now : Nat) (w : Write) :
    h.Begins c (.operate (.write w)) (h.operate now c (.write w)) := by
  simp only [operate, start, startWrite]
  by_cases hk : c.spec.kind = w.kind
  · rw [if_neg (not_not.mpr hk)]
    cases w.refusal? with
    | some f => exact .refused hc h.injection _ f
    | none =>
      dsimp only
      rw [check_eq]
      cases (h.injection.check w.operation).1 with
      | some f => exact .refused hc _ _ f
      | none =>
        dsimp only
        split_ifs
        · exact .refused hc _ _ _
        · exact .waits hc _ (.writing _ hk)
        · exact .ends (.written hk) (.modify hc _ fun _ => by cases w <;> rfl)
  · rw [if_pos hk]
    exact .refused hc h.injection _ _

theorem begins_change (now : Nat) (state : Bool) :
    h.Begins c (.change state) (h.intervene now c (.change state)) := by
  simp only [intervene, changeInput]
  split_ifs with hk ha hs
  · exact .refused hc h.injection _ _
  · exact .refused hc h.injection _ _
  · exact .ends (.redundant (not_not.mp hk) hs) (.refl hc)
  · have hattached : c.attached = true := by simpa using ha
    exact .ends (.changed (not_not.mp hk) hattached hs)
      (.modify (f := fun c => { c with state }) hc h.injection fun _ => rfl)

theorem begins_attach (now : Nat) : h.Begins c .attach (h.intervene now c .attach) := by
  simp only [intervene, reattach]
  split_ifs with ho
  · exact .ends (.reattached ho)
      (.modify (f := fun c => { c with attached := true }) hc h.injection fun _ => rfl)
  · exact .ends (.unopened (Bool.eq_false_iff.mpr ho)) (.refl hc)

/-- **Beginning a call does nothing but a deed.** -/
theorem intervene_deed (now : Nat) (what : Intervention) :
    h.Begins c what (h.intervene now c what) := by
  cases what with
  | change state => exact begins_change hc now state
  | detach =>
    exact .ends .detached
      (.modify (f := fun c => { c with attached := false }) hc h.injection fun _ => rfl)
  | attach => exact begins_attach hc now
  | fault code text => exact .ends .raised (.refl hc)
  | inspect => exact .ends .inspected (.refl hc)
  | operate io =>
    cases io with
    | openWithin timeout => exact begins_open hc now timeout
    | close => exact begins_close hc now
    | readState => exact begins_reading hc now (h.reads_readState c) rfl
    | readVoltage => exact begins_reading hc now (h.reads_readVoltage c) rfl
    | read => exact begins_reading hc now (h.reads_read c) rfl
    | write w => exact begins_write hc now w

/-- **Taking up a call that has waited ends it with a deed.** -/
theorem conclude_deed {what : Intervention} {w : Waiting} (hw : w.Serves c.spec.kind what) :
    ∃ c', c.Deed what c' (h.conclude c w).2.1 (some (h.conclude c w).2.2) ∧
      h.Puts c' (h.conclude c w).1 := by
  have hcurrent : h.current c = c := by
    rw [current, hc]
    rfl
  unfold conclude
  rw [hcurrent]
  cases hw with
  | attaching timeout due => exact ⟨c.connect, .opened, .modify hc h.injection fun _ => rfl⟩
  | absent timeout due => exact ⟨c, .refused _, .refl hc⟩
  | @writing v due takes =>
    exact ⟨v.apply c, .written takes, .modify hc h.injection fun _ => by cases v <;> rfl⟩

end Calls

end Hub

/-- A call that waits: the serial number of its channel, what was asked, and what it waits for. -/
structure Pending where
  serial : Nat
  what : Intervention
  waiting : Waiting

/-- What is told of a touch that takes up a channel. -/
structure CallReport where
  /-- The channel as it was found. -/
  channel : Channel
  what : Intervention
  events : List HubEvent
  /-- The answer, if the call ends. -/
  answer? : Option Answer

/-- One thing that is done with the channels of a hub. -/
inductive Touch where
  /-- A channel is created; `outside` tells which channels somebody holds who makes no call. -/
  | create (outside : Nat → Bool) (spec : ChannelSpec)
  /-- A call on the channel with a serial number begins, under a handle that no call has. -/
  | call (handle serial : Nat) (what : Intervention)
  /-- A call that has waited is taken up, if it is due. -/
  | finish (handle : Nat)
  /-- A call that waits is given up. -/
  | giveUp (handle : Nat)
  | wait (ms : Nat)

/-- A hub, its clock and the calls that wait, by handle. -/
structure Rig where
  hub : Hub
  now : Nat
  calls : Table Nat Pending

namespace Rig

/-- A hub at the beginning of time, with no call. -/
def ofHub (hub : Hub) : Rig := ⟨hub, 0, []⟩

/-- Whether somebody holds a channel. A call holds its channel as long as it waits. -/
def held (r : Rig) (outside : Nat → Bool) (serial : Nat) : Bool :=
  r.calls.values.any (fun call => call.serial = serial) || outside serial

/-- Begin a call on a channel. -/
def begin (r : Rig) (handle : Nat) (c : Channel) (what : Intervention) : Rig × CallReport :=
  let (hub, events, effect) := r.hub.intervene r.now c what
  let calls :=
    match effect with
    | .answered _ => r.calls
    | .waiting w => r.calls.insert handle ⟨c.serial, what, w⟩
  ({ r with hub, calls }, ⟨c, what, events, effect.answer?⟩)

/-- Take up a call that has waited. -/
def finish (r : Rig) (handle : Nat) (c : Channel) (call : Pending) : Rig × CallReport :=
  let (hub, events, a) := r.hub.conclude c call.waiting
  ({ r with hub, calls := r.calls.erase handle }, ⟨c, call.what, events, some a⟩)

/-- Touch. A touch that cannot be made does nothing. -/
def act (r : Rig) : Touch → Rig × Option CallReport
  | .create outside spec => ({ r with hub := r.hub.create (r.held outside) spec }, none)
  | .call handle serial what =>
    match r.calls.get? handle, r.hub.channel? serial with
    | none, some c => let (r, report) := r.begin handle c what; (r, some report)
    | _, _ => (r, none)
  | .finish handle =>
    match r.calls.get? handle with
    | none => (r, none)
    | some call =>
      match r.hub.channel? call.serial with
      | none => (r, none)
      | some c =>
        if call.waiting.due ≤ r.now then
          let (r, report) := r.finish handle c call
          (r, some report)
        else (r, none)
  | .giveUp handle => ({ r with calls := r.calls.erase handle }, none)
  | .wait ms => ({ r with now := r.now + ms }, none)

/-- The rig after a touch. -/
def step (r : Rig) (touch : Touch) : Rig := (r.act touch).1

/-- What is told of a touch, if it takes up a channel. -/
def report? (r : Rig) (touch : Touch) : Option CallReport := (r.act touch).2

/-- Touch one thing after the other. -/
def run (r : Rig) (touches : List Touch) : Rig := touches.foldl step r

/-- What is told of touches, one after the other. -/
def log (r : Rig) : List Touch → List CallReport
  | [] => []
  | touch :: rest => (r.report? touch).toList ++ (r.step touch).log rest

theorem run_append (r : Rig) (touches more : List Touch) :
    r.run (touches ++ more) = (r.run touches).run more :=
  List.foldl_append

theorem run_concat (r : Rig) (touches : List Touch) (touch : Touch) :
    r.run (touches ++ [touch]) = (r.run touches).step touch :=
  run_append ..

theorem log_append (r : Rig) (touches more : List Touch) :
    r.log (touches ++ more) = r.log touches ++ (r.run touches).log more := by
  induction touches generalizing r with
  | nil => rfl
  | cons touch rest ih =>
    rw [List.cons_append, log, ih, log, List.append_assoc]
    rfl

theorem log_concat (r : Rig) (touches : List Touch) (touch : Touch) :
    r.log (touches ++ [touch]) = r.log touches ++ ((r.run touches).report? touch).toList := by
  rw [log_append]
  simp [log]

/-! ## All that a touch does -/

/-- The channels have been numbered, and every call that waits has its channel and waits for what
such a call waits for. -/
structure Sound (r : Rig) : Prop where
  numbered : r.hub.Numbered
  calls : ∀ {handle call}, r.calls.get? handle = some call →
    ∃ c, r.hub.channel? call.serial = some c ∧ call.waiting.Serves c.spec.kind call.what

/-- All that a touch does: no channel is taken up; one is created; or one is taken up, and a deed is
done to it. -/
inductive Outcome (r r' : Rig) : Option CallReport → Prop
  | still (hub : r'.hub = r.hub)
    (calls : ∀ {handle call}, r'.calls.get? handle = some call →
      r.calls.get? handle = some call) : Outcome r r' none
  | created (outside : Nat → Bool) (spec : ChannelSpec)
    (hub : r'.hub = r.hub.create (r.held outside) spec) (calls : r'.calls = r.calls) :
    Outcome r r' none
  | taken {c c' : Channel} {what : Intervention} {events : List HubEvent} {answer? : Option Answer}
    (found : r.hub.channel? c.serial = some c) (deed : c.Deed what c' events answer?)
    (puts : r.hub.Puts c' r'.hub)
    (calls : ∀ {handle call}, r'.calls.get? handle = some call →
      r.calls.get? handle = some call ∨
        call.serial = c.serial ∧ call.waiting.Serves c.spec.kind call.what) :
    Outcome r r' (some ⟨c, what, events, answer?⟩)

variable {r : Rig} {c : Channel}

theorem held_of_call {handle : Nat} {call : Pending} (hcall : r.calls.get? handle = some call)
    (outside : Nat → Bool) : r.held outside call.serial = true := by
  have hmem : call ∈ r.calls.values := List.mem_map.mpr ⟨_, Table.mem_of_get? hcall, rfl⟩
  unfold held
  rw [Bool.or_eq_true, List.any_eq_true]
  exact .inl ⟨call, hmem, decide_eq_true rfl⟩

theorem begin_outcome (hc : r.hub.channel? c.serial = some c) (handle : Nat)
    (what : Intervention) :
    r.Outcome (r.begin handle c what).1 (some (r.begin handle c what).2) := by
  have hbegins := Hub.intervene_deed hc r.now what
  unfold begin
  generalize r.hub.intervene r.now c what = result at hbegins
  obtain ⟨hub, events, effect⟩ := result
  obtain ⟨c', hdeed, hputs⟩ := hbegins.deed
  refine .taken hc hdeed hputs fun {other call} hcall => ?_
  cases effect with
  | answered a => exact .inl hcall
  | waiting w =>
    rw [Table.get?_insert] at hcall
    split at hcall
    · cases hcall
      exact .inr ⟨rfl, hbegins.serves w rfl⟩
    · exact .inl hcall

theorem get?_erase_calls {handle other : Nat} {call : Pending}
    (hcall : (r.calls.erase handle).get? other = some call) : r.calls.get? other = some call := by
  rw [Table.get?_erase] at hcall
  split at hcall
  · cases hcall
  · exact hcall

/-- **All that a touch does.** -/
theorem act_outcome (hr : r.Sound) (touch : Touch) :
    r.Outcome (r.step touch) (r.report? touch) := by
  unfold step report?
  cases touch with
  | create outside spec => exact .created outside spec rfl rfl
  | call handle serial what =>
    simp only [act]
    split
    · rename_i c hfree hc
      have hserial := Hub.serial_of_channel? hc
      exact begin_outcome (hserial.symm ▸ hc) handle what
    · exact .still rfl id
  | finish handle =>
    simp only [act]
    split
    · exact .still rfl id
    rename_i call hcall
    obtain ⟨c, hc, hserves⟩ := hr.calls hcall
    rw [hc]
    dsimp only
    split_ifs
    · have hserial := Hub.serial_of_channel? hc
      rw [← hserial] at hc
      obtain ⟨c', hdeed, hputs⟩ := Hub.conclude_deed hc hserves
      exact .taken hc hdeed hputs fun hother => .inl (get?_erase_calls hother)
    · exact .still rfl id
  | giveUp handle => exact .still rfl get?_erase_calls
  | wait ms => exact .still rfl id

/-- A channel that differs after a touch has been taken up by it, and a deed was done to it. -/
theorem deed_of_ne (hr : r.Sound) {touch : Touch} {serial : Nat} {c c' : Channel}
    (hc : r.hub.channel? serial = some c) (hc' : (r.step touch).hub.channel? serial = some c')
    (differs : c' ≠ c) :
    ∃ what events answer?, r.report? touch = some ⟨c, what, events, answer?⟩ ∧
      c.Deed what c' events answer? := by
  have ho := r.act_outcome hr touch
  generalize r.step touch = r', r.report? touch = report at ho hc' ⊢
  cases ho with
  | still hub calls =>
    rw [hub, hc] at hc'
    exact absurd (Option.some.inj hc').symm differs
  | created outside spec hub calls =>
    have hlt := hr.numbered.lt_of_channel? hc
    rw [hub, Hub.channel?_create r.hub _ spec (Nat.ne_of_lt hlt)] at hc'
    have hkept := (Option.ite_none_right_eq_some.mp hc').2
    rw [hc] at hkept
    exact absurd (Option.some.inj hkept).symm differs
  | @taken d d' what events answer? found deed puts calls =>
    rw [puts.channel?, deed.serial_eq] at hc'
    split at hc'
    · rename_i he
      rw [he, found] at hc
      cases hc
      cases hc'
      exact ⟨what, events, answer?, rfl, deed⟩
    · rw [hc] at hc'
      exact absurd (Option.some.inj hc').symm differs

/-- What is told of a touch is told of a deed that was done to its channel. -/
theorem deed_of_report (hr : r.Sound) {touch : Touch} {report : CallReport}
    (ht : r.report? touch = some report) :
    r.hub.channel? report.channel.serial = some report.channel ∧
      ∃ c', report.channel.Deed report.what c' report.events report.answer? ∧
        r.hub.Puts c' (r.step touch).hub := by
  have ho := r.act_outcome hr touch
  rw [ht] at ho
  cases ho with
  | taken found deed puts calls => exact ⟨found, _, deed, puts⟩

theorem Sound.step (hr : r.Sound) (touch : Touch) : (r.step touch).Sound := by
  have ho := r.act_outcome hr touch
  generalize r.step touch = r', r.report? touch = report at ho
  cases ho with
  | still hub calls =>
    refine ⟨hub ▸ hr.numbered, fun hcall => ?_⟩
    rw [hub]
    exact hr.calls (calls hcall)
  | created outside spec hub calls =>
    refine ⟨hub ▸ hr.numbered.create _ spec, fun {handle call} hcall => ?_⟩
    rw [calls] at hcall
    obtain ⟨c, hc, hserves⟩ := hr.calls hcall
    -- a call that waits holds its channel, so the hub does not forget it
    have hlt := hr.numbered.lt_of_channel? hc
    rw [hub, Hub.channel?_create_of_ne spec (held_of_call hcall outside) (Nat.ne_of_lt hlt)]
    exact ⟨c, hc, hserves⟩
  | @taken c c' what events answer? found deed puts calls =>
    refine ⟨puts.numbered hr.numbered, fun {handle call} hcall => ?_⟩
    rw [puts.channel?, deed.serial_eq]
    split
    · rename_i he
      refine ⟨c', rfl, ?_⟩
      rw [deed.spec_eq]
      rcases calls hcall with hold | ⟨-, hserves⟩
      · obtain ⟨d, hd, hserves⟩ := hr.calls hold
        rw [he, found] at hd
        cases hd
        exact hserves
      · exact hserves
    · rename_i hne
      rcases calls hcall with hold | ⟨he, -⟩
      · exact hr.calls hold
      · exact absurd he hne

theorem Sound.run (hr : r.Sound) (touches : List Touch) : (r.run touches).Sound := by
  induction touches generalizing r with
  | nil => exact hr
  | cons touch rest ih => exact ih (hr.step touch)

/-- A hub on which nothing has been created, with any injected faults. -/
def ofConfig (config : HubConfig) (seed : UInt64) (injection : Injection) : Rig :=
  ofHub ((Hub.ofConfig config seed).withInjection injection)

theorem sound_ofConfig (config : HubConfig) (seed : UInt64) (injection : Injection) :
    (ofConfig config seed injection).Sound where
  numbered _ hc := by cases hc
  calls hcall := by cases hcall

/-! ## Every channel after every run -/

/-- What is told of one channel. -/
def history (r : Rig) (touches : List Touch) (serial : Nat) : List CallReport :=
  (r.log touches).filter fun report => report.channel.serial = serial

theorem history_concat (r : Rig) (touches : List Touch) (touch : Touch) (serial : Nat) :
    r.history (touches ++ [touch]) serial =
      r.history touches serial ++
        ((r.run touches).report? touch).toList.filter fun report =>
          report.channel.serial = serial := by
  rw [history, log_concat, List.filter_append]
  rfl

/-- A property of a channel and of what is told of it, for one serial number of a hub. Nothing is
told of a channel that has not been created; of one that has been forgotten the property still holds
as it was last found. -/
structure Holds (P : List CallReport → Channel → Prop) (hub : Hub) (serial : Nat)
    (told : List CallReport) : Prop where
  unborn : hub.created ≤ serial → told = []
  known : serial < hub.created → ∃ c, P told c ∧ ∀ d, hub.channel? serial = some d → d = c

section Keeps

variable {P : List CallReport → Channel → Prop}

theorem Holds.channel {hub : Hub} {serial : Nat} {told : List CallReport}
    (hh : Holds P hub serial told) (hn : hub.Numbered) (hc : hub.channel? serial = some c) :
    P told c := by
  obtain ⟨d, hd, heq⟩ := hh.known (hn.lt_of_channel? hc)
  rw [heq c hc]
  exact hd

/-- A channel is created: it is new, and the others are kept or forgotten. -/
theorem Holds.create {hub : Hub} {serial : Nat} {told : List CallReport}
    (fresh : ∀ serial spec, P [] (.fresh serial spec)) (hn : hub.Numbered)
    (hh : Holds P hub serial told) (held : Nat → Bool) (spec : ChannelSpec) :
    Holds P (hub.create held spec) serial told where
  unborn hle := hh.unborn (Nat.le_of_succ_le hle)
  known hlt := by
    rcases Nat.lt_succ_iff_lt_or_eq.mp hlt with hold | rfl
    · obtain ⟨c, hP, heq⟩ := hh.known hold
      refine ⟨c, hP, fun d hd => heq d ?_⟩
      rw [Hub.channel?_create hub held spec (Nat.ne_of_lt hold)] at hd
      exact (Option.ite_none_right_eq_some.mp hd).2
    · rw [hh.unborn (Nat.le_refl _), Hub.channel?_create_self spec hn]
      exact ⟨_, fresh _ spec, fun d hd => (Option.some.inj hd).symm⟩

/-- What every deed keeps is kept by every touch. -/
theorem Holds.act (fresh : ∀ serial spec, P [] (.fresh serial spec))
    (keep : ∀ {told c what c' events answer?}, P told c → c.Deed what c' events answer? →
      P (told ++ [⟨c, what, events, answer?⟩]) c')
    (hr : r.Sound) {serial : Nat} {told : List CallReport} (hh : Holds P r.hub serial told)
    (touch : Touch) :
    Holds P (r.step touch).hub serial
      (told ++ (r.report? touch).toList.filter fun report => report.channel.serial = serial) := by
  have ho := r.act_outcome hr touch
  generalize r.step touch = r', r.report? touch = report at ho ⊢
  cases ho with
  | still hub calls =>
    rw [hub]
    simpa using hh
  | created outside spec hub calls =>
    rw [hub]
    simpa using hh.create fresh hr.numbered (r.held outside) spec
  | @taken c c' what events answer? found deed puts calls =>
    have hframe : r'.hub.created = r.hub.created := congrArg Prod.snd puts.frame
    have hlt := hr.numbered.lt_of_channel? found
    by_cases he : c.serial = serial
    · subst he
      refine ⟨fun hle => ?_, fun _ => ⟨c', ?_, fun d hd => ?_⟩⟩
      · rw [hframe] at hle
        exact absurd hlt (Nat.not_lt.mpr hle)
      · simpa using keep (hh.channel hr.numbered found) deed
      · rw [puts.channel?, deed.serial_eq, if_pos rfl] at hd
        exact (Option.some.inj hd).symm
    · have htold : (some (⟨c, what, events, answer?⟩ : CallReport)).toList.filter
          (fun report => decide (report.channel.serial = serial)) = [] := by
        simp [he]
      rw [htold, List.append_nil]
      refine ⟨fun hle => hh.unborn (hframe ▸ hle), fun hlt' => ?_⟩
      obtain ⟨d, hP, heq⟩ := hh.known (hframe ▸ hlt')
      refine ⟨d, hP, fun e hd => heq e ?_⟩
      rwa [puts.channel?, deed.serial_eq, if_neg (Ne.symm he)] at hd

/-- **What a channel that has just been created has, and every deed keeps, every channel has after
every run**, with what has been told of it. -/
theorem channels_keep (fresh : ∀ serial spec, P [] (.fresh serial spec))
    (keep : ∀ {told c what c' events answer?}, P told c → c.Deed what c' events answer? →
      P (told ++ [⟨c, what, events, answer?⟩]) c')
    (config : HubConfig) (seed : UInt64) (injection : Injection) (touches : List Touch)
    (serial : Nat) :
    Holds P ((ofConfig config seed injection).run touches).hub serial
      ((ofConfig config seed injection).history touches serial) := by
  -- from the end of the run, since what is told is told of the beginning first
  induction touches using List.reverseRecOn with
  | nil => exact ⟨fun _ => rfl, fun hlt => absurd hlt (Nat.not_lt_zero serial)⟩
  | append_singleton touches touch ih =>
    rw [run_concat, history_concat]
    exact ih.act fresh keep ((sound_ofConfig config seed injection).run touches) touch

end Keeps

end Rig

end ChannelGateway
