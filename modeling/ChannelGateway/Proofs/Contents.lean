import ChannelGateway.Proofs.Rig
import ChannelGateway.Proofs.Writes

/-!
# What a channel holds is what was written to it

Three kinds of channels, ten calls, four reasons to refuse one and two places where a call may have
to wait come down to the fourteen deeds: only two of them change what a channel holds, each asks for
the kind of channel that it is for, and each ends its call with a success. So what a channel holds
can be read off the reports on it (`Channel.Records`): the last state and the last voltage that it
took, and how many writes have succeeded.

Results:
* `Channel.Records.deed`: what a deed does to the records of a channel.
* **`Rig.channels_obey`**: over every run of calls, with every fault, every hub agrees with what has
  been told of its channels, and the next touch changes, tells and reads what it may.
-/

namespace ChannelGateway

namespace CallReport

/-- The state that a channel takes with the end of a call: it is written, or an input takes it. -/
def state? (report : CallReport) : Option Bool :=
  match report.what, report.answer? with
  | .operate (.write (.state b)), some (.reply _) => some b
  | .change b, some (.flag true) => some b
  | _, _ => none

/-- The voltage that is written with the end of a call. -/
def voltage? (report : CallReport) : Option Float :=
  match report.what, report.answer? with
  | .operate (.write (.voltage volts)), some (.reply _) => some volts
  | _, _ => none

/-- Whether a write succeeds. -/
def isWrite (report : CallReport) : Bool :=
  match report.what, report.answer? with
  | .operate (.write _), some (.reply _) => true
  | _, _ => false

/-- What is read with the end of a call. -/
def read? (report : CallReport) : Option Reply :=
  match report.answer? with
  | some (.reply reply) => some reply
  | some (.reading reply) => some reply
  | _ => none

/-- Whether a call has come to nothing so far: it has to wait, or is refused. -/
def isVain (report : CallReport) : Bool :=
  match report.answer? with
  | none => true
  | some (.refused _) => true
  | _ => false

/-- No value is taken with a touch. -/
structure IsIdle (report : CallReport) : Prop where
  state : report.state? = none
  voltage : report.voltage? = none
  write : report.isWrite = false

/-- A call that has come to nothing takes no value. -/
theorem IsIdle.of_vain {report : CallReport} (vain : report.isVain = true) : report.IsIdle := by
  obtain ⟨c, what, events, answer?⟩ := report
  unfold isVain at vain
  constructor
  · unfold state?
    split <;> simp_all
  · unfold voltage?
    split <;> simp_all
  · unfold isWrite
    split <;> simp_all

/-- A reading takes no value. -/
theorem IsIdle.of_reads {c : Channel} {io : Io} {reply : Reply} (told : c.reads? io = some reply)
    (events : List HubEvent) (answer? : Option Answer) :
    IsIdle ⟨c, .operate io, events, answer?⟩ := by
  cases io with
  | write w => cases told
  | _ => exact ⟨rfl, rfl, rfl⟩

end CallReport

/-- The last state that a channel has taken, by what is told of it. -/
def lastState (told : List CallReport) : Bool :=
  (told.filterMap CallReport.state?).getLast?.getD false

/-- The last voltage that was written to a channel, by what is told of it. -/
def lastVoltage (told : List CallReport) : Float :=
  (told.filterMap CallReport.voltage?).getLast?.getD 0

theorem lastState_concat (told : List CallReport) (report : CallReport) :
    lastState (told ++ [report]) = report.state?.getD (lastState told) := by
  unfold lastState
  rw [List.filterMap_append]
  cases h : report.state? <;> simp [h]

theorem lastVoltage_concat (told : List CallReport) (report : CallReport) :
    lastVoltage (told ++ [report]) = report.voltage?.getD (lastVoltage told) := by
  unfold lastVoltage
  rw [List.filterMap_append]
  cases h : report.voltage? <;> simp [h]

/-- A channel agrees with what is told of it, and holds nothing that its kind does not have. -/
structure Channel.Records (told : List CallReport) (c : Channel) : Prop where
  attached : c.attached = true → c.isOpen = true
  state : c.state = lastState told
  voltage : c.voltage = lastVoltage told
  writes : c.writes = told.countP CallReport.isWrite
  stateless : c.spec.kind = .voltageOutput → c.state = false
  voltageless : c.spec.kind ≠ .voltageOutput → c.voltage = 0
  unwritable : c.spec.kind = .digitalInput → c.writes = 0

namespace Channel

variable {told : List CallReport} {c c' : Channel} {what : Intervention} {events : List HubEvent}
  {answer? : Option Answer}

theorem records_fresh (serial : Nat) (spec : ChannelSpec) : Records [] (.fresh serial spec) where
  attached h := by cases h
  state := rfl
  voltage := rfl
  writes := rfl
  stateless _ := rfl
  voltageless _ := rfl
  unwritable _ := rfl

namespace Records

/-- A touch by which a channel takes no value: it holds what it held. -/
theorem keep (hr : Records told c) {report : CallReport} (idle : report.IsIdle)
    (held : c'.content = c.content) (spec : c'.spec = c.spec)
    (attached : c'.attached = true → c'.isOpen = true) : Records (told ++ [report]) c' := by
  obtain ⟨hstate, hvoltage, hwrites⟩ : c'.state = c.state ∧ c'.voltage = c.voltage ∧
      c'.writes = c.writes := by simpa [content] using held
  constructor
  · exact attached
  · rw [lastState_concat, idle.state, hstate]
    exact hr.state
  · rw [lastVoltage_concat, idle.voltage, hvoltage]
    exact hr.voltage
  · rw [List.countP_append, List.countP_singleton, idle.write, hwrites]
    exact hr.writes
  · rw [spec, hstate]
    exact hr.stateless
  · rw [spec, hvoltage]
    exact hr.voltageless
  · rw [spec, hwrites]
    exact hr.unwritable

/-- A value is written. -/
theorem write (hr : Records told c) {w : Write} (kind : c.spec.kind = w.kind) :
    Records (told ++ [⟨c, .operate (.write w), events, some (.reply .done)⟩]) (w.apply c) := by
  cases w with
  | state b =>
    have hk : c.spec.kind = .digitalOutput := kind
    constructor
    · exact hr.attached
    · rw [lastState_concat]
      rfl
    · rw [lastVoltage_concat]
      exact hr.voltage
    · rw [List.countP_append, ← hr.writes]
      rfl
    · intro h
      rw [show (Write.apply (.state b) c).spec.kind = .digitalOutput from hk] at h
      cases h
    · exact hr.voltageless
    · intro h
      rw [show (Write.apply (.state b) c).spec.kind = .digitalOutput from hk] at h
      cases h
  | voltage volts =>
    have hk : c.spec.kind = .voltageOutput := kind
    constructor
    · exact hr.attached
    · rw [lastState_concat]
      exact hr.state
    · rw [lastVoltage_concat]
      rfl
    · rw [List.countP_append, ← hr.writes]
      rfl
    · exact hr.stateless
    · exact fun h => absurd hk h
    · intro h
      rw [show (Write.apply (.voltage volts) c).spec.kind = .voltageOutput from hk] at h
      cases h

/-- An input takes another state. -/
theorem change (hr : Records told c) {state : Bool} (kind : c.spec.kind = .digitalInput) :
    Records (told ++ [⟨c, .change state, events, some (.flag true)⟩]) { c with state } where
  attached := hr.attached
  state := by
    rw [lastState_concat]
    rfl
  voltage := by
    rw [lastVoltage_concat]
    exact hr.voltage
  writes := by
    rw [List.countP_append, ← hr.writes]
    rfl
  stateless h := by
    rw [show ({ c with state } : Channel).spec.kind = .digitalInput from kind] at h
    cases h
  voltageless := hr.voltageless
  unwritable := hr.unwritable

/-- **What a deed does to the records of a channel.** -/
theorem deed (hr : Records told c) (hd : c.Deed what c' events answer?) :
    Records (told ++ [⟨c, what, events, answer?⟩]) c' := by
  cases hd with
  | waits => exact hr.keep (.of_vain rfl) rfl rfl hr.attached
  | refused f => exact hr.keep (.of_vain rfl) rfl rfl hr.attached
  | reads attached told => exact hr.keep (.of_reads told _ _) rfl rfl hr.attached
  | written kind => exact hr.write kind
  | changed kind attached edge => exact hr.change kind
  | opened => exact hr.keep ⟨rfl, rfl, rfl⟩ rfl rfl fun _ => rfl
  | closed => exact hr.keep ⟨rfl, rfl, rfl⟩ rfl rfl nofun
  | detached => exact hr.keep ⟨rfl, rfl, rfl⟩ rfl rfl nofun
  | reattached isOpen => exact hr.keep ⟨rfl, rfl, rfl⟩ rfl rfl fun _ => isOpen
  | _ => exact hr.keep ⟨rfl, rfl, rfl⟩ rfl rfl hr.attached

end Records

end Channel

namespace Channel

variable {c c' : Channel} {what : Intervention} {events : List HubEvent} {answer? : Option Answer}

theorem state_of_reads? {io : Io} {b : Bool} (told : c.reads? io = some (.state b)) :
    b = c.state := by
  cases io with
  | readState =>
    cases (Option.ite_none_right_eq_some.mp told).2
    rfl
  | readVoltage => cases (Option.ite_none_right_eq_some.mp told).2
  | read =>
    have hreply := Option.some.inj told
    split at hreply <;> cases hreply
    rfl
  | _ => cases told

theorem voltage_of_reads? {io : Io} {volts : Float} (told : c.reads? io = some (.voltage volts)) :
    volts = c.voltage := by
  cases io with
  | readState => cases (Option.ite_none_right_eq_some.mp told).2
  | readVoltage =>
    cases (Option.ite_none_right_eq_some.mp told).2
    rfl
  | read =>
    have hreply := Option.some.inj told
    split at hreply <;> cases hreply
    rfl
  | _ => cases told

namespace Deed

/-- A deed that changes the state of a channel writes one to a digital output, or a digital input
takes it. -/
theorem state (hd : c.Deed what c' events answer?) (differs : c'.state ≠ c.state) :
    c.spec.kind = .digitalOutput ∧ what = .operate (.write (.state c'.state)) ∧
        answer? = some (.reply .done) ∨
      c.spec.kind = .digitalInput ∧ what = .change c'.state ∧ answer? = some (.flag true) := by
  cases hd with
  | @written w kind =>
    cases w with
    | state b => exact .inl ⟨kind, rfl, rfl⟩
    | voltage volts => exact absurd rfl differs
  | changed kind attached edge => exact .inr ⟨kind, rfl, rfl⟩
  | _ => exact absurd rfl differs

/-- A deed that changes the voltage of a channel writes one to a voltage output. -/
theorem voltage (hd : c.Deed what c' events answer?) (differs : c'.voltage ≠ c.voltage) :
    c.spec.kind = .voltageOutput ∧ what = .operate (.write (.voltage c'.voltage)) ∧
      answer? = some (.reply .done) := by
  cases hd with
  | @written w kind =>
    cases w with
    | state b => exact absurd rfl differs
    | voltage volts => exact ⟨kind, rfl, rfl⟩
  | _ => exact absurd rfl differs

/-- What is read is what the channel holds. -/
theorem read (hd : c.Deed what c' events answer?) {reply : Reply}
    (hr : CallReport.read? ⟨c, what, events, answer?⟩ = some reply) :
    reply = .done ∨ ∃ io, c.reads? io = some reply := by
  cases hd with
  | @reads io reply' attached told =>
    refine .inr ⟨io, told.trans ?_⟩
    cases io <;> exact hr
  | opened => exact .inl (Option.some.inj hr).symm
  | openAlready isOpen => exact .inl (Option.some.inj hr).symm
  | closed => exact .inl (Option.some.inj hr).symm
  | written kind => exact .inl (Option.some.inj hr).symm
  | _ => cases hr

/-- A call that has come to nothing has changed nothing and tells of nothing. -/
theorem vain (hd : c.Deed what c' events answer?)
    (hv : CallReport.isVain ⟨c, what, events, answer?⟩ = true) : events = [] ∧ c' = c := by
  cases hd with
  | waits => exact ⟨rfl, rfl⟩
  | refused f => exact ⟨rfl, rfl⟩
  | @reads io reply attached told => cases io <;> cases hv
  | _ => cases hv

end Deed

end Channel

namespace Rig

/-- A rig of which all this has been told agrees with it, and the next touch does to its channels
what it may do. -/
structure Obeys (r : Rig) (told : Nat → List CallReport) (touch : Touch) : Prop where
  /-- Every channel holds what has been written to it, and is open if it is attached. -/
  records : ∀ {serial c}, r.hub.channel? serial = some c → c.Records (told serial)
  /-- A channel changes only when it is taken up. -/
  apart : ∀ {serial c c'}, r.hub.channel? serial = some c →
    (r.step touch).hub.channel? serial = some c' → c' ≠ c →
      ∃ report, r.report? touch = some report ∧ report.channel = c
  /-- A state changes only when one is written to a digital output, or when a digital input takes
  it. -/
  state : ∀ {serial c c'}, r.hub.channel? serial = some c →
    (r.step touch).hub.channel? serial = some c' → c'.state ≠ c.state →
      ∃ report, r.report? touch = some report ∧ report.channel = c ∧
        (c.spec.kind = .digitalOutput ∧ report.what = .operate (.write (.state c'.state)) ∧
            report.answer? = some (.reply .done) ∨
          c.spec.kind = .digitalInput ∧ report.what = .change c'.state ∧
            report.answer? = some (.flag true))
  /-- A voltage changes only when one is written to a voltage output. -/
  voltage : ∀ {serial c c'}, r.hub.channel? serial = some c →
    (r.step touch).hub.channel? serial = some c' → c'.voltage ≠ c.voltage →
      ∃ report, r.report? touch = some report ∧ report.channel = c ∧
        c.spec.kind = .voltageOutput ∧ report.what = .operate (.write (.voltage c'.voltage)) ∧
        report.answer? = some (.reply .done)
  /-- A state that is read is the last one that the channel has taken. -/
  readState : ∀ {report b}, r.report? touch = some report → report.read? = some (.state b) →
    b = lastState (told report.channel.serial)
  /-- A voltage that is read is the last one that was written. -/
  readVoltage : ∀ {report volts}, r.report? touch = some report →
    report.read? = some (.voltage volts) → volts = lastVoltage (told report.channel.serial)
  /-- A call that is refused, or has to wait, changes no channel and tells of nothing. -/
  vain : ∀ {report}, r.report? touch = some report → report.isVain = true →
    report.events = [] ∧
      ∀ serial, (r.step touch).hub.channel? serial = r.hub.channel? serial

/-- **What every channel holds, after every run of calls**, with any faults, in any mode and with
any timing: attached channels are open, each channel holds what was last written to it and counts
what was written, a reading tells it, only a write of its kind or a change of an input changes it,
and a call that is refused does nothing. -/
theorem channels_obey (config : HubConfig) (seed : UInt64) (injection : Injection)
    (touches : List Touch) (touch : Touch) :
    ((ofConfig config seed injection).run touches).Obeys
      ((ofConfig config seed injection).history touches) touch := by
  have hr := (sound_ofConfig config seed injection).run touches
  have hrecords : ∀ {serial c},
      ((ofConfig config seed injection).run touches).hub.channel? serial = some c →
        c.Records ((ofConfig config seed injection).history touches serial) :=
    fun {serial c} hc => (channels_keep Channel.records_fresh (fun hr hd => hr.deed hd) config seed
      injection touches serial).channel hr.numbered hc
  refine ⟨hrecords, fun hc hc' differs => ?_, fun hc hc' differs => ?_, fun hc hc' differs => ?_,
    fun ht hread => ?_, fun ht hread => ?_, fun ht hvain => ?_⟩
  · obtain ⟨what, events, answer?, ht, -⟩ := deed_of_ne hr hc hc' differs
    exact ⟨_, ht, rfl⟩
  · obtain ⟨what, events, answer?, ht, hd⟩ :=
      deed_of_ne hr hc hc' fun he => differs (congrArg Channel.state he)
    exact ⟨_, ht, rfl, hd.state differs⟩
  · obtain ⟨what, events, answer?, ht, hd⟩ :=
      deed_of_ne hr hc hc' fun he => differs (congrArg Channel.voltage he)
    exact ⟨_, ht, rfl, hd.voltage differs⟩
  · obtain ⟨found, c', hd, -⟩ := deed_of_report hr ht
    obtain hdone | ⟨io, told⟩ := hd.read hread
    · cases hdone
    · exact (Channel.state_of_reads? told).trans (hrecords found).state
  · obtain ⟨found, c', hd, -⟩ := deed_of_report hr ht
    obtain hdone | ⟨io, told⟩ := hd.read hread
    · cases hdone
    · exact (Channel.voltage_of_reads? told).trans (hrecords found).voltage
  · obtain ⟨found, c', hd, hputs⟩ := deed_of_report hr ht
    obtain ⟨hevents, rfl⟩ := hd.vain hvain
    refine ⟨hevents, fun serial => ?_⟩
    rw [hputs.channel?]
    split
    · rename_i he
      rw [he, found]
    · rfl

end Rig

end ChannelGateway
