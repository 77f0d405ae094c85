import ChannelGateway.Proofs.Reading
import ChannelGateway.Proofs.Served

/-!
# What is in the range of voltages

A channel refuses a voltage out of `OUTPUT_VOLTAGE_RANGE` when a write begins (`set_voltage` of a
channel of the `MockHub`), and no operation refuses a parameter otherwise. So nothing out of range
gets into a channel by a write. What is kept along a run is said of every place where a voltage may
be: the channels, the writes that wait, and the writes that are still to come with a request. With
it goes that no request has ended because a parameter was refused: the writes of the requests are in
range, and those are not refused.

Results:
* `Hub.start_refuses`: an operation refuses its parameter only if that is a voltage out of range,
  and then does nothing.
* `Hub.startWrite_outOfRange`: a voltage out of range leaves the hub as it is.
* `Hub.InRange.start`, `Hub.InRange.resume`: what an operation keeps, as it begins and when it ends.
* `Gateway.piece_inRange`, `Traffic.InRange.step`: what a piece of a request and a move keep.
-/

namespace ChannelGateway

/-! ## Refused parameters -/

/-- An injected fault refuses no parameter. -/
theorem HubFailure.kind_ne_of_isInjected {f : HubFailure} (h : f.isInjected = true) :
    f.kind ≠ .invalidParameter := by
  cases f with
  | voltageOutOfRange volts => cases h
  | _ => exact nofun

/-- Whether a request has ended because a channel refused a parameter. -/
def Outcome.blamesParameter : Outcome → Bool
  | .ok _ => false
  | .error e => e.source?.any fun source => source.kind = .invalidParameter

namespace Hub

variable {h : Hub} {now : Nat} {c : Channel} {f : HubFailure}

theorem check_kind {op : Operation} (hcheck : (h.injection.check op).1 = some f) :
    f.kind ≠ .invalidParameter :=
  HubFailure.kind_ne_of_isInjected (Injection.isInjected_of_check hcheck)

theorem startOpen_kind {timeout : Nat}
    (hs : (h.startOpen now c timeout).2.2 = .finished (.error f)) :
    f.kind ≠ .invalidParameter := by
  unfold startOpen at hs
  rw [check_eq] at hs
  cases hcheck : (h.injection.check .opening).1 with
  | some f' =>
    rw [hcheck] at hs
    cases hs
    exact check_kind hcheck
  | none =>
    rw [hcheck] at hs
    dsimp only at hs
    split at hs
    · cases hs
    split at hs
    · split at hs <;> cases hs
    split at hs
    · cases hs
    · cases hs
      exact nofun

theorem startClose_kind (hs : (h.startClose c).2 = .finished (.error f)) :
    f.kind ≠ .invalidParameter := by
  unfold startClose at hs
  rw [check_eq] at hs
  cases hcheck : (h.injection.check .closing).1 with
  | some f' =>
    rw [hcheck] at hs
    cases hs
    exact check_kind hcheck
  | none =>
    rw [hcheck] at hs
    cases hs

/-- What reading a channel ends in. -/
inductive ReadOutcome (h : Hub) (c : Channel) : Hub × Except HubFailure Reply → Prop
  | failed (i : Injection) (f : HubFailure) (kind : f.kind ≠ .invalidParameter) :
    ReadOutcome h c (h.withInjection i, .error f)
  | state (i : Injection) : ReadOutcome h c (h.withInjection i, .ok (.state c.state))
  | voltage (i : Injection) : ReadOutcome h c (h.withInjection i, .ok (.voltage c.voltage))

theorem readState_outcome (h : Hub) (c : Channel) : ReadOutcome h c (h.readState c) := by
  unfold readState
  split
  · exact .failed h.injection _ nofun
  rw [check_eq]
  cases hcheck : (h.injection.check .readingState).1 with
  | some f => exact .failed _ f (check_kind hcheck)
  | none =>
    dsimp only
    split
    · exact .state _
    · exact .failed _ _ nofun

theorem readVoltage_outcome (h : Hub) (c : Channel) : ReadOutcome h c (h.readVoltage c) := by
  unfold readVoltage
  split
  · exact .failed h.injection _ nofun
  rw [check_eq]
  cases hcheck : (h.injection.check .readingVoltage).1 with
  | some f => exact .failed _ f (check_kind hcheck)
  | none =>
    dsimp only
    split
    · exact .voltage _
    · exact .failed _ _ nofun

/-- **All that reading a channel can do.** -/
theorem read_outcome (h : Hub) (c : Channel) : ReadOutcome h c (h.read c) := by
  unfold read
  split
  · exact h.readState_outcome c
  · exact h.readVoltage_outcome c

section ReadOutcome

variable {result : Hub × Except HubFailure Reply}

theorem ReadOutcome.kind (ho : ReadOutcome h c result) (he : result.2 = .error f) :
    f.kind ≠ .invalidParameter := by
  cases ho with
  | failed i f' kind =>
    cases he
    exact kind
  | _ => cases he

theorem ReadOutcome.voltage_eq (ho : ReadOutcome h c result) {volts : Float}
    (hr : Reading.ofResult result.2 = .voltage volts) : volts = c.voltage := by
  cases ho with
  | voltage i =>
    cases hr
    rfl
  | _ => cases hr

end ReadOutcome

theorem resume_kind {w : Waiting} (hs : (h.resume c w).2.2 = .error f) :
    f.kind ≠ .invalidParameter := by
  cases w with
  | absent due timeout =>
    cases hs
    exact nofun
  | _ => cases hs

/-- A write is refused for its parameter only if no channel takes the value, and then nothing
happens. -/
theorem startWrite_refuses {w : Write} (hs : (h.startWrite now c w).2 = .finished (.error f))
    (hf : f.kind = .invalidParameter) :
    w.refusal? = some f ∧ (h.startWrite now c w).1 = h := by
  unfold startWrite at hs ⊢
  split at hs
  · cases hs
    cases hf
  rename_i hkind
  rw [if_neg hkind]
  cases hr : w.refusal? with
  | some f' =>
    rw [hr] at hs
    cases hs
    exact ⟨rfl, rfl⟩
  | none =>
    rw [hr, check_eq] at hs
    dsimp only at hs
    cases hcheck : (h.injection.check w.operation).1 with
    | some f' =>
      rw [hcheck] at hs
      cases hs
      exact absurd hf (check_kind hcheck)
    | none =>
      rw [hcheck] at hs
      dsimp only at hs
      split at hs
      · cases hs
        cases hf
      · split at hs <;> cases hs

/-- **An operation refuses its parameter** only if that is a voltage out of range, and then does
nothing. -/
theorem start_refuses {io : Io} (hs : (h.start now c io).2.2 = .finished (.error f))
    (hf : f.kind = .invalidParameter) :
    ∃ volts, io = .write (.voltage volts) ∧ inVoltageRange volts = false ∧
      (h.start now c io).1 = h := by
  cases io with
  | openWithin timeout => exact absurd hf (startOpen_kind hs)
  | close => exact absurd hf (startClose_kind hs)
  | readState => exact absurd hf ((h.readState_outcome c).kind (IoStatus.finished.inj hs))
  | readVoltage => exact absurd hf ((h.readVoltage_outcome c).kind (IoStatus.finished.inj hs))
  | read => exact absurd hf ((h.read_outcome c).kind (IoStatus.finished.inj hs))
  | write w =>
    obtain ⟨hrefusal, hstays⟩ := startWrite_refuses hs hf
    cases w with
    | state b => cases hrefusal
    | voltage volts =>
      refine ⟨volts, rfl, ?_, hstays⟩
      by_contra hrange
      rw [Write.refusal?, if_pos (by simpa using hrange)] at hrefusal
      cases hrefusal

/-- **A voltage out of range is refused** before the injected faults are asked. -/
theorem startWrite_outOfRange {volts : Float} (hrange : inVoltageRange volts = false) (h : Hub)
    (now : Nat) {c : Channel} (hkind : c.spec.kind = .voltageOutput) :
    h.startWrite now c (.voltage volts) = (h, .finished (.error (.voltageOutOfRange volts))) := by
  have hrefusal : (Write.voltage volts).refusal? = some (.voltageOutOfRange volts) :=
    if_neg (by simp [hrange])
  unfold startWrite
  rw [if_neg (fun hne => hne hkind), hrefusal]

end Hub

/-! ## What is in range -/

/-- A write that is not refused for its value. -/
def Write.InRange (w : Write) : Prop := w.refusal? = none

/-- What is waited for is no write that would be refused. -/
def Waiting.InRange : Waiting → Prop
  | writing _ w => w.InRange
  | _ => True

/-- If an operation has to wait, then for no write that would be refused. -/
def IoStatus.InRange : IoStatus → Prop
  | waiting w => w.InRange
  | finished _ => True

/-- What is done with an open name is no write that would be refused. -/
def Followup.InRange : Followup → Prop
  | write w => w.InRange
  | _ => True

/-- A request makes no write that would be refused. -/
def Job.InRange : Job → Prop
  | use _ followup => followup.InRange
  | close _ => True

/-- A request is still to make, or waits for, no write that would be refused; and it has not ended
because a parameter was refused. -/
def Progress.InRange : Progress → Prop
  | ready job => job.InRange
  | queued job => job.InRange
  | opening _ followup w => followup.InRange ∧ w.InRange
  | writing _ w => w.InRange
  | done outcome => outcome.blamesParameter = false

/-- The requests of a task make no write that would be refused, and none has ended because a
parameter was refused. -/
structure Task.InRange (u : Task) : Prop where
  progress : u.progress.InRange
  rest : ∀ job ∈ u.rest, job.InRange
  outcomes : ∀ outcome ∈ u.outcomes, outcome.blamesParameter = false

/-- The voltages that channels hold are in range. -/
def Hub.InRange (h : Hub) : Prop :=
  ∀ c ∈ h.tracked, inVoltageRange c.voltage = true

theorem inVoltageRange_zero : inVoltageRange 0 = true := by
  decide +kernel

theorem Write.inRange_voltage {volts : Float} :
    (voltage volts).InRange ↔ inVoltageRange volts = true := by
  by_cases hrange : inVoltageRange volts = true
  · exact iff_of_true (if_pos hrange) hrange
  · refine iff_of_false (fun hw => ?_) hrange
    rw [InRange, refusal?, if_neg hrange] at hw
    cases hw

theorem Write.InRange.apply {w : Write} (hw : w.InRange) {c : Channel}
    (hc : inVoltageRange c.voltage = true) : inVoltageRange (w.apply c).voltage = true := by
  cases w with
  | state b => exact hc
  | voltage volts => exact inRange_voltage.mp hw

namespace Hub.InRange

variable {h : Hub} {c : Channel}

theorem modify (hh : h.InRange) (serial : Nat) {f : Channel → Channel}
    (hf : ∀ c, inVoltageRange c.voltage = true → inVoltageRange (f c).voltage = true) :
    (h.modify serial f).InRange := by
  intro c hc
  obtain ⟨c', hc', rfl⟩ := List.mem_map.mp hc
  split
  · exact hf c' (hh c' hc')
  · exact hh c' hc'

theorem create (hh : h.InRange) (held : Nat → Bool) (spec : ChannelSpec) :
    (h.create held spec).InRange := by
  intro c hc
  rcases List.mem_append.mp hc with hlive | hfresh
  · exact hh c (List.mem_filter.mp hlive).1
  · rw [List.mem_singleton.mp hfresh]
    exact inVoltageRange_zero

theorem startOpen (hh : h.InRange) (now : Nat) (c : Channel) (timeout : Nat) :
    (h.startOpen now c timeout).1.InRange ∧ (h.startOpen now c timeout).2.2.InRange := by
  have ho := startOpen_outcome h now c timeout
  generalize h.startOpen now c timeout = result at ho ⊢
  cases ho with
  | opened i place => exact ⟨modify hh c.serial fun _ hc => hc, trivial⟩
  | _ => exact ⟨hh, trivial⟩

theorem startClose (hh : h.InRange) (c : Channel) : (h.startClose c).1.InRange := by
  have ho := startClose_outcome h c
  generalize h.startClose c = result at ho ⊢
  cases ho with
  | failed i f => exact hh
  | closed i => exact modify hh c.serial fun _ hc => hc

/-- A write of any value: it is in range, or refused. -/
theorem startWrite (hh : h.InRange) (now : Nat) (c : Channel) (w : Write) :
    (h.startWrite now c w).1.InRange ∧ (h.startWrite now c w).2.InRange := by
  have hrange : (∃ f, (h.startWrite now c w).2 = .finished (.error f)) ∨ w.InRange := by
    unfold Hub.startWrite Write.InRange
    split
    · exact .inl ⟨_, rfl⟩
    cases w.refusal? with
    | some f => exact .inl ⟨f, rfl⟩
    | none => exact .inr rfl
  have ho := startWrite_outcome h now c w
  generalize h.startWrite now c w = result at ho hrange ⊢
  cases ho with
  | failed i f => exact ⟨hh, trivial⟩
  | waiting i due =>
    refine ⟨hh, hrange.resolve_left ?_⟩
    rintro ⟨f, hf⟩
    cases hf
  | written i =>
    have hw : w.InRange := hrange.resolve_left (by rintro ⟨f, hf⟩; cases hf)
    exact ⟨modify hh c.serial fun _ hc => hw.apply hc, trivial⟩

/-- **Whatever operation begins**, the channels stay in range, and it waits for no write that would
be refused. -/
theorem start (hh : h.InRange) (now : Nat) (c : Channel) (io : Io) :
    (h.start now c io).1.InRange ∧ (h.start now c io).2.2.InRange := by
  cases io with
  | openWithin timeout => exact hh.startOpen now c timeout
  | close =>
    refine ⟨hh.startClose c, ?_⟩
    have ho := startClose_outcome h c
    simp only [Hub.start]
    generalize h.startClose c = result at ho ⊢
    cases ho <;> exact trivial
  | readState =>
    obtain ⟨i, hi⟩ := h.readState_fst c
    simp only [Hub.start, hi]
    exact ⟨hh, trivial⟩
  | readVoltage =>
    obtain ⟨i, hi⟩ := h.readVoltage_fst c
    simp only [Hub.start, hi]
    exact ⟨hh, trivial⟩
  | read =>
    obtain ⟨i, hi⟩ := h.read_fst c
    simp only [Hub.start, hi]
    exact ⟨hh, trivial⟩
  | write w => exact hh.startWrite now c w

theorem resume (hh : h.InRange) (c : Channel) {w : Waiting} (hw : w.InRange) :
    (h.resume c w).1.InRange := by
  cases w with
  | attaching due => exact modify hh c.serial fun _ hc => hc
  | absent due timeout => exact hh
  | writing due v => exact modify hh c.serial fun _ hc => Write.InRange.apply hw hc

theorem of_startClose (hh : h.InRange) {hub : Hub} {status : IoStatus}
    (result : h.startClose c = (hub, status)) : hub.InRange := by
  have hclose := hh.startClose c
  rwa [result] at hclose

theorem of_resume (hh : h.InRange) {w : Waiting} (hw : w.InRange) {hub : Hub}
    {events : List HubEvent} {reply : Except HubFailure Reply}
    (result : h.resume c w = (hub, events, reply)) : hub.InRange := by
  have hresume := hh.resume c hw
  rwa [result] at hresume

/-- Whatever is done to a channel, the channels stay in range. -/
theorem intervene (hh : h.InRange) (now : Nat) (c : Channel) (what : Intervention) :
    (h.intervene now c what).1.InRange := by
  by_cases hw : ∃ io, what = .operate io
  · obtain ⟨io, rfl⟩ := hw
    have hstart := (hh.start now c io).1
    simp only [Hub.intervene]
    rwa [operate_fst]
  · have hd := h.intervene_disturbance now c (fun io he => hw ⟨io, he⟩)
    generalize (h.intervene now c what).1 = hub, (h.intervene now c what).2.1 = events at hd ⊢
    cases hd with
    | still events quiet => exact hh
    | changed state => exact modify hh c.serial fun _ hc => hc
    | detached => exact modify hh c.serial fun _ hc => hc
    | attached isOpen => exact modify hh c.serial fun _ hc => hc

end Hub.InRange

/-! ## Requests -/

/-- A request that ends because an operation failed does not blame the parameter, unless the
operation did. -/
theorem Outcome.blamesParameter_error {e : GatewayError} {f : HubFailure}
    (he : e.source? = some f.error) (hf : f.kind ≠ .invalidParameter) :
    Outcome.blamesParameter (.error e) = false := by
  simp only [blamesParameter, he, Option.any_some]
  exact decide_eq_false hf

namespace Gateway

variable {g g' : Gateway} {now ticket : Nat} {held : Nat → Bool} {p p' : Progress}

/-- Using an open name keeps what is in range. -/
theorem follow_inRange (hh : g.hub.InRange) (now : Nat) (r : Resource) {followup : Followup}
    (hf : followup.InRange) :
    (g.follow now r followup).1.hub.InRange ∧ (g.follow now r followup).2.InRange := by
  cases followup with
  | nothing => exact ⟨hh, rfl⟩
  | subscribe urls => exact ⟨hh, rfl⟩
  | write w =>
    obtain ⟨hhub, hwaits⟩ := hh.startWrite now (g.channelOf r) w
    simp only [follow]
    rcases hs : g.hub.startWrite now (g.channelOf r) w with ⟨hub, status⟩
    rw [hs] at hhub hwaits
    cases status with
    | waiting v => exact ⟨hhub, hwaits⟩
    | finished result =>
      cases result with
      | ok reply => exact ⟨hhub, rfl⟩
      | error f =>
        refine ⟨hhub, Outcome.blamesParameter_error (f := f) rfl fun hkind => ?_⟩
        have hrefusal := (Hub.startWrite_refuses (congrArg Prod.snd hs) hkind).1
        cases hrefusal.symm.trans hf

/-- Closing a channel that has not opened keeps what is in range. -/
theorem abandon_inRange (hh : g.hub.InRange) (ticket : Nat) (r : Resource) {f : HubFailure}
    (hf : f.kind ≠ .invalidParameter) :
    (g.abandon ticket r f).1.hub.InRange ∧ (g.abandon ticket r f).2.InRange :=
  ⟨hh.startClose _, Outcome.blamesParameter_error rfl hf⟩

/-- What the hub does when a channel is created and begins to open. -/
theorem attempt_inRange (hh : g.hub.InRange) {request : OpenRequest} {hub : Hub}
    {events : List HubEvent} {status : IoStatus}
    (attempt : g.attempt now held request = (hub, events, status)) :
    hub.InRange ∧ status.InRange ∧
      ∀ f, status = .finished (.error f) → f.kind ≠ .invalidParameter := by
  obtain ⟨hhub, hwaits⟩ := (hh.create (g.holds held) (g.newcomer request).spec).startOpen now
    ((g.enlist held request).channelOf (g.newcomer request)) request.timeout
  unfold Gateway.attempt at attempt
  have hstatus : ∀ f, status = .finished (.error f) → f.kind ≠ .invalidParameter := by
    rintro f rfl
    exact Hub.startOpen_kind (congrArg (fun result => result.2.2) attempt)
  change ((g.enlist held request).hub.startOpen _ _ _).1.InRange at hhub
  change ((g.enlist held request).hub.startOpen _ _ _).2.2.InRange at hwaits
  rw [attempt] at hhub hwaits
  exact ⟨hhub, hwaits, hstatus⟩

/-- **A piece of a request keeps what is in range**, and does not end because a parameter was
refused. -/
theorem piece_inRange (hh : g.hub.InRange) (hr : p.InRange)
    (hp : g.Piece now held ticket p g' p') : g'.hub.InRange ∧ p'.InRange := by
  cases hp with
  | enter job => exact ⟨hh, hr⟩
  | reuse found => exact follow_inRange hh _ _ hr
  | @join request _ _ turn found =>
    exact follow_inRange (g := g.leaveGate request.name ticket) hh _ _ hr
  | refuse turn free missing => exact ⟨hh, rfl⟩
  | create turn free known attempt =>
    obtain ⟨hhub, hwaits, -⟩ := attempt_inRange hh attempt
    exact ⟨hhub, hr, hwaits⟩
  | createOpen turn free known attempt =>
    exact follow_inRange (attempt_inRange hh attempt).1 _ _ hr
  | createFailed turn free known attempt =>
    obtain ⟨hhub, -, hstatus⟩ := attempt_inRange hh attempt
    exact abandon_inRange hhub _ _ (hstatus _ rfl)
  | attached due result => exact follow_inRange (hh.of_resume hr.2 result) _ _ hr.1
  | unattached due result =>
    have hkind := Hub.resume_kind (congrArg (fun result => result.2.2) result)
    exact abandon_inRange (hh.of_resume hr.2 result) _ _ hkind
  | written due result => exact ⟨hh.of_resume hr result, rfl⟩
  | unwritten due result =>
    have hkind := Hub.resume_kind (congrArg (fun result => result.2.2) result)
    exact ⟨hh.of_resume hr result, Outcome.blamesParameter_error rfl hkind⟩
  | notFound turn free => exact ⟨hh, rfl⟩
  | closeFailed turn found result =>
    have hkind := Hub.startClose_kind (congrArg Prod.snd result)
    exact ⟨hh.of_startClose result, Outcome.blamesParameter_error rfl hkind⟩
  | closed turn found result => exact ⟨hh.of_startClose result, rfl⟩

theorem advance_inRange (hh : g.hub.InRange) (hr : p.InRange)
    (ha : g.advance now held ticket p = some (g', p')) : g'.hub.InRange ∧ p'.InRange := by
  obtain ⟨gates, q, hp, hq⟩ := advance_last ha
  have hqr : q.InRange := by
    rcases hq with rfl | ⟨job, rfl, rfl⟩
    · exact hr
    · exact hr
  exact piece_inRange (g := { g with gates }) hh hqr hp

/-- Shutting down keeps what is in range. -/
theorem shutdown_inRange (hh : g.hub.InRange) : g.shutdown.hub.InRange :=
  shutdown_keeps (fun _ c h => h.startClose c) hh

end Gateway

/-! ## Moves -/

namespace Traffic

/-- Every voltage that is held, waited for or still to be written is in range. -/
structure InRange (t : Traffic) : Prop where
  hub : t.gateway.hub.InRange
  tasks : ∀ {ticket u}, t.task? ticket = some u → u.InRange

variable {t t' : Traffic}

/-- Traffic in which only one task has moved. -/
theorem InRange.moved (h : t.InRange) (hhub : t'.gateway.hub.InRange) {ticket : Nat}
    {u : Option Task} (htasks : t'.task? = Function.update t.task? ticket u)
    (hu : ∀ v, u = some v → v.InRange) : t'.InRange where
  hub := hhub
  tasks {k v} hv := by
    rw [htasks, Function.update_apply] at hv
    split at hv
    · exact hu v hv
    · exact h.tasks hv

/-- A task that arrives and makes no write that would be refused. -/
theorem InRange.arrive (h : t.InRange) (ticket : Nat) {jobs : List Job}
    (hjobs : ∀ job ∈ jobs, job.InRange) : (t.arrive ticket jobs).InRange := by
  cases hfree : t.task? ticket with
  | some u =>
    have hstay : t.arrive ticket jobs = t := by rw [Traffic.arrive, hfree]
    rwa [hstay]
  | none =>
    cases jobs with
    | nil =>
      have hstay : t.arrive ticket [] = t := by rw [Traffic.arrive, hfree]; rfl
      rwa [hstay]
    | cons job rest =>
      have hgateway : (t.arrive ticket (job :: rest)).gateway = t.gateway := by
        rw [Traffic.arrive, hfree]
        rfl
      refine h.moved (hgateway ▸ h.hub) (task?_arrive hfree rfl) ?_
      intro v hv
      cases hv
      obtain ⟨hjob, hrest⟩ := List.forall_mem_cons.mp hjobs
      exact ⟨hjob, hrest, fun _ ho => by cases ho⟩

/-- A task that goes on. -/
theorem InRange.advance (h : t.InRange) (ticket : Nat) (outside : Nat → Bool) :
    (t.advance ticket outside).InRange := by
  cases hu : t.task? ticket with
  | none =>
    have hstay : t.advance ticket outside = t := by rw [Traffic.advance, hu]
    rwa [hstay]
  | some u =>
    have hur := h.tasks hu
    cases polled hu outside with
    | waits stays ending => rwa [stays]
    | @begins outcome job rest done more gateway tasks ending =>
      refine h.moved (gateway ▸ h.hub) tasks ?_
      intro v hv
      cases hv
      have hprogress := hur.progress
      rw [done] at hprogress
      have hrest := hur.rest
      rw [more] at hrest
      obtain ⟨hjob, hrest⟩ := List.forall_mem_cons.mp hrest
      refine ⟨hjob, hrest, fun o ho => ?_⟩
      rcases List.mem_append.mp ho with hold | hnew
      · exact hur.outcomes o hold
      · rw [List.mem_singleton.mp hnew]
        exact hprogress
    | goes advance tasks ending =>
      obtain ⟨hhub, hp⟩ := Gateway.advance_inRange h.hub hur.progress advance
      refine h.moved hhub tasks ?_
      intro v hv
      cases hv
      exact ⟨hp, hur.rest, hur.outcomes⟩

theorem InRange.cancel (h : t.InRange) (ticket : Nat) : (t.cancel ticket).InRange := by
  have hhub : (t.cancel ticket).gateway.hub = t.gateway.hub := by
    rcases t.cancel_cases ticket with he | ⟨p, -, hg, -⟩
    · rw [he]
    · rw [hg, Gateway.hub_cancel]
  exact h.moved (hhub ▸ h.hub) (t.task?_cancel ticket) fun v hv => by cases hv

/-- Traffic in which no task has moved. -/
theorem InRange.kept (h : t.InRange) (htasks : t'.tasks = t.tasks) (hhub : t'.gateway.hub.InRange) :
    t'.InRange where
  hub := hhub
  tasks {k v} hv := by
    rw [task?, htasks] at hv
    exact h.tasks hv

theorem InRange.intervene (h : t.InRange) (serial : Nat) (what : Intervention) :
    (t.intervene serial what).InRange := by
  rcases t.intervene_cases serial what with he | ⟨c, hub, events, effect, -, hi, he⟩
  · rwa [he]
  · have hhub := h.hub.intervene t.now c what
    rw [hi] at hhub
    rw [he]
    exact h.kept rfl ((Gateway.hub_observeAll { t.gateway with hub } events).symm ▸ hhub)

/-- **A move keeps what is in range**, if the requests that arrive with it are, and no other hub is
put in place. -/
theorem InRange.step (h : t.InRange) {m : Move} (own : ∀ hub, m ≠ .meddle hub)
    (hjobs : ∀ ticket jobs, m = .arrive ticket jobs → ∀ job ∈ jobs, job.InRange) :
    (t.step m).InRange := by
  cases m with
  | arrive ticket jobs => exact h.arrive ticket (hjobs ticket jobs rfl)
  | advance ticket outside => exact h.advance ticket outside
  | cancel ticket => exact h.cancel ticket
  | intervene serial what => exact h.intervene serial what
  | tell event => exact h.kept rfl (t.gateway.hub_observe event ▸ h.hub)
  | shutdown => exact h.kept rfl (Gateway.shutdown_inRange h.hub)
  | snapshot =>
    obtain ⟨i, hi⟩ := t.gateway.snapshot_snd
    have hhub : t.gateway.snapshot.2.hub.InRange := hi ▸ h.hub
    exact h.kept rfl hhub
  | meddle hub => exact absurd rfl (own hub)
  | _ => exact h.kept rfl h.hub

end Traffic

end ChannelGateway
