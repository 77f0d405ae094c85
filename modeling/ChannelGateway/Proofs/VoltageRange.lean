import ChannelGateway.Proofs.InRange
import ChannelGateway.Proofs.Intact
import ChannelGateway.Proofs.Scene
import ChannelGateway.Proofs.Volts

/-!
# The range of voltages, from the body to the hardware

The range is checked three times: when a body is read (`Body.voltage`, for `parse_voltage_out`),
when a call is made (`Call.job`, for `set_voltage_output` of the `GatewayService`), and when a write
begins on a channel (`Hub.startWrite`). The first two let only requests in whose writes are in range
(`Job.InRange`), so the third refuses no write of a request; it still guards the channels against
those who write to them directly (`Scene.InRange`).

A run is a list of incidents: HTTP requests, calls, the opening of the startup channels, and any
other act that neither brings a task by another way nor puts another hub in place.

Results:
* `Call.inRange_of_job`, `Endpoint.isInRange_of_read`: what calls and bodies let in.
* `Gateway.inVoltageRange_snapshot`: what is listed.
* `Scene.InRange.meet`, `Scene.InRange.meetAll`: what an incident and a run keep.
* `Http.handle_defect`: a body with a defect is answered at once, and nothing happens.
* **`voltages_safe`**: what is stored, listed and answered after every run, and what becomes of a
  voltage out of range.
-/

namespace ChannelGateway

/-! ## Requests that are made -/

/-- A call that is not refused makes a request whose write is in range. -/
theorem Call.inRange_of_job {call : Call} {timeout : Nat} {job : Job}
    (h : call.job timeout = .ok job) : job.InRange := by
  cases call with
  | voltageOut name volts address =>
    simp only [Call.job] at h
    split at h
    · rename_i hrange
      cases h
      exact Write.inRange_voltage.mpr hrange
    · cases h
  | digitalOut name state address =>
    cases h
    exact rfl
  | digitalIn name address webhook =>
    cases h
    exact trivial
  | close name =>
    cases h
    exact trivial

theorem Gateway.startupJobs_inRange (g : Gateway) : ∀ job ∈ g.startupJobs, job.InRange := by
  intro job hjob
  obtain ⟨c, -, rfl⟩ := List.mem_map.mp hjob
  exact trivial

/-- What succeeds after something else does so after that has succeeded. -/
theorem Except.exists_of_bind {ε α β : Type} {x : Except ε α} {f : α → Except ε β} {b : β}
    (h : x >>= f = .ok b) : ∃ a, x = .ok a ∧ f a = .ok b := by
  cases x with
  | error e => cases h
  | ok a => exact ⟨a, rfl, h⟩

namespace Body

variable {fields : Fields} {call : Call}

theorem inVoltageRange_of_voltage {volts : Float} (h : voltage fields = .ok volts) :
    inVoltageRange volts = true := by
  obtain ⟨read, -, hread⟩ := Except.exists_of_bind h
  split at hread
  · rename_i hrange
    cases hread
    exact hrange
  · cases hread

theorem isInRange_of_digitalOut (h : digitalOut fields = .ok call) : call.isInRange = true := by
  obtain ⟨_, -, h⟩ := Except.exists_of_bind h
  obtain ⟨name, -, h⟩ := Except.exists_of_bind h
  obtain ⟨state, -, h⟩ := Except.exists_of_bind h
  obtain ⟨address, -, h⟩ := Except.exists_of_bind h
  cases h
  rfl

theorem isInRange_of_voltageOut (h : voltageOut fields = .ok call) : call.isInRange = true := by
  obtain ⟨_, -, h⟩ := Except.exists_of_bind h
  obtain ⟨name, -, h⟩ := Except.exists_of_bind h
  obtain ⟨volts, hvolts, h⟩ := Except.exists_of_bind h
  obtain ⟨address, -, h⟩ := Except.exists_of_bind h
  cases h
  exact inVoltageRange_of_voltage hvolts

theorem isInRange_of_digitalIn (h : digitalIn fields = .ok call) : call.isInRange = true := by
  obtain ⟨name, -, h⟩ := Except.exists_of_bind h
  obtain ⟨channel, -, h⟩ := Except.exists_of_bind h
  obtain ⟨hubPort, -, h⟩ := Except.exists_of_bind h
  obtain ⟨url, -, h⟩ := Except.exists_of_bind h
  cases h
  rfl

theorem isInRange_of_close (h : close fields = .ok call) : call.isInRange = true := by
  obtain ⟨_, -, h⟩ := Except.exists_of_bind h
  obtain ⟨name, -, h⟩ := Except.exists_of_bind h
  cases h
  rfl

end Body

/-- **What a body is read as is in range.** -/
theorem Endpoint.isInRange_of_read {endpoint : Endpoint} {body : ByteArray} {call : Call}
    (h : endpoint.read body = .ok call) : call.isInRange = true := by
  unfold Endpoint.read at h
  cases ho : Body.object body with
  | error d =>
    rw [ho] at h
    cases endpoint <;> cases h
  | ok fields =>
    rw [ho] at h
    cases endpoint with
    | digitalOut => exact Body.isInRange_of_digitalOut h
    | voltageOut => exact Body.isInRange_of_voltageOut h
    | digitalIn => exact Body.isInRange_of_digitalIn h
    | close => exact Body.isInRange_of_close h

/-- A voltage out of range is the first defect of a body that has a name. -/
theorem Endpoint.read_outOfRange {body : ByteArray} {fields : Body.Fields} {name : String}
    {volts : Float} (hobject : Body.object body = .ok fields)
    (hname : Body.field? fields "name" Json.asText? = some name)
    (hvolts : Body.field? fields "target_state" Json.asFloat? = some volts)
    (hrange : inVoltageRange volts = false) :
    Endpoint.voltageOut.read body = .error .voltageOutOfRange := by
  have hpresent : ∀ {α : Type} {key : String} {read : Json → Option α} {v : α},
      Body.field? fields key read = some v → Json.has fields key = true := by
    intro α key read v hv
    obtain ⟨w, hw, -⟩ := Option.bind_eq_some_iff.mp hv
    rw [Json.has, hw]
    rfl
  have hall : Body.requireAll .voltageOut fields = .ok () := by
    refine if_pos ?_
    simp [Endpoint.required, hpresent hname, hpresent hvolts]
  unfold Endpoint.read
  rw [hobject]
  simp [Body.voltageOut, hall, Body.name, hname, Body.voltage, hvolts, Body.orDefect, hrange, bind,
    Except.bind]

/-- An integer that fits no 64 bits is a number like any other; one that no `Float` can hold is no
JSON. -/
example :
    let body (number : String) := "\x7b\"name\":\"dac\",\"target_state\":" ++ number ++ "\x7d"
    let defect (number : String) : Option BodyDefect :=
      match Endpoint.voltageOut.read (body number).toUTF8 with
      | .ok _ => none
      | .error d => some d
    defect "10" = none ∧ defect "-11" = some .voltageOutOfRange ∧
      defect "18446744073709551616" = some .voltageOutOfRange ∧
      defect "1e999" = some .notAnObject := by
  decide +kernel

namespace Http

variable {g : Gateway} {r : Request}

/-- An accepted request makes no write that would be refused. -/
theorem inRange_of_accepted {job : Job} (h : handle g r = .accepted job) : job.InRange := by
  unfold handle at h
  split at h
  · cases h
  · split at h
    · split at h
      · cases h
      · rename_i hpost
        cases h
        unfold post at hpost
        split at hpost
        · cases hpost
        split at hpost
        · cases hpost
        split at hpost
        · cases hpost
        · rename_i hjob
          cases hpost
          exact Call.inRange_of_job hjob
    · cases h
  · split at h
    · cases h
    · split at h <;> cases h

/-- **A body with a defect is answered at once**, and nothing happens. -/
theorem handle_defect {endpoint : Endpoint} {d : BodyDefect} (hmethod : r.method = "POST")
    (hroute : Route.ofTarget? r.target = some (.endpoint endpoint))
    (hsize : r.body.size ≤ bodyLimit)
    (hread : endpoint.read r.body = .error d) :
    handle g r = .answered (.ofRejection d.rejection) g := by
  have hpost : post endpoint r.body g.openTimeout = .error (.ofRejection d.rejection) := by
    rw [post, if_neg (Nat.not_lt_of_le hsize), hread]
  unfold handle
  simp only [hroute, hmethod, if_true, hpost]

/-- What is answered at once is no failure of a channel: it is a page, or the answer to a path, a
method or a length, or names a defect of the body. -/
theorem response_atOnce {g' : Gateway} {response : Response}
    (h : handle g r = .answered response g') :
    response.status ∈ [200, 302, 404, 405, 413] ∨
      ∃ d : BodyDefect, response = .ofRejection d.rejection := by
  unfold handle at h
  split at h
  · cases h
    exact .inl (by simp [Response.unknownPath])
  · split at h
    · split at h
      · rename_i hpost
        cases h
        unfold post at hpost
        split at hpost
        · cases hpost
          exact .inl (by simp [Response.tooLong, Response.plain])
        split at hpost
        · rename_i d _
          cases hpost
          exact .inr ⟨d, rfl⟩
        · rename_i call hread
          -- a call that has been read is not refused
          obtain ⟨job, hjob, -⟩ := Call.job_of_isInRange (Endpoint.isInRange_of_read hread)
            g.openTimeout
          rw [hjob] at hpost
          cases hpost
      · cases h
    · cases h
      exact .inl (by simp [Response.wrongMethod])
  · rename_i resource _
    have hstatus := (fetch_answered g resource).1
    have hpage : (resource.fetch g).1.status ∈ [200, 302, 404, 405, 413] := by
      simp only [List.mem_cons, List.not_mem_nil, or_false] at hstatus ⊢
      omega
    split at h
    · cases h
      exact .inl hpage
    split at h
    · cases h
      exact .inl hpage
    · cases h
      exact .inl (by simp [Response.wrongMethod])

end Http

/-! ## Listings -/

/-- A resource whose channel is forgotten stands for a fresh one. -/
theorem Gateway.inVoltageRange_channelOf {g : Gateway} (hh : g.hub.InRange) (r : Resource) :
    inVoltageRange (g.channelOf r).voltage = true := by
  unfold channelOf
  cases hc : g.hub.channel? r.serial with
  | none => exact inVoltageRange_zero
  | some c => exact hh c (Hub.mem_of_channel? hc)

/-- **The voltages of a listing are in range.** -/
theorem Gateway.inVoltageRange_snapshot {g : Gateway} (hh : g.hub.InRange) {record : Status}
    (hrecord : record ∈ g.snapshot.1) {volts : Float} (hvolts : record.reading = .voltage volts) :
    inVoltageRange volts = true := by
  have hstatuses : ∀ (resources : List Resource) (g : Gateway), g.hub.InRange →
      ∀ record ∈ (g.statuses resources).1, record.reading = .voltage volts →
        inVoltageRange volts = true := by
    intro resources
    induction resources with
    | nil => exact fun _ _ _ h => by cases h
    | cons r rest ih =>
      intro g hh record hrecord hvolts
      rcases List.mem_cons.mp hrecord with rfl | hrest
      · rw [(g.hub.read_outcome (g.channelOf r)).voltage_eq hvolts]
        exact inVoltageRange_channelOf hh r
      · obtain ⟨i, hi⟩ := g.hub.read_fst (g.channelOf r)
        have hnext : (g.status r).2.hub.InRange := by
          change (g.hub.read (g.channelOf r)).1.InRange
          rw [hi]
          exact hh
        exact ih (g.status r).2 hnext record hrest hvolts
  exact hstatuses g.registry.resources g hh record (List.mem_mergeSort.mp hrecord) hvolts

/-! ## Acts and incidents -/

/-- Whether an act neither brings a task nor puts another hub in place. -/
def Act.isAmbient : Act → Bool
  | .move (.arrive _ _) => false
  | .move (.meddle _) => false
  | _ => true

/-- What happens at a gateway that serves HTTP, while its hardware changes and others operate its
channels directly. -/
inductive Incident where
  /-- An HTTP request comes. If it is accepted, a task makes its request on a name. -/
  | request (ticket : Nat) (r : Http.Request)
  /-- A call is made, by a task of its own. -/
  | call (ticket : Nat) (c : Call)
  /-- The startup channels are to be opened, one after the other by one task. -/
  | startup (ticket : Nat)
  /-- Anything else, if it is ambient. -/
  | other (a : Act)

namespace Scene

/-- The gateway of a scene. -/
def gateway (s : Scene) : Gateway := s.traffic.gateway

/-- What an incident does. -/
def meet (s : Scene) : Incident → Scene
  | .request ticket r =>
    match Http.handle s.gateway r with
    | .answered _ g => { s with traffic := { s.traffic with gateway := g } }
    | .accepted job => s.step (.move (.arrive ticket [job]))
  | .call ticket c =>
    match c.job s.gateway.openTimeout with
    | .ok job => s.step (.move (.arrive ticket [job]))
    | .error _ => s
  | .startup ticket => s.step (.move (.arrive ticket s.gateway.startupJobs))
  | .other a => if a.isAmbient then s.step a else s

/-- Incidents one after the other. -/
def meetAll (s : Scene) (incidents : List Incident) : Scene :=
  incidents.foldl meet s

/-- Every voltage that is held, waited for or still to be written is in range. -/
structure InRange (s : Scene) : Prop where
  traffic : s.traffic.InRange
  operations : ∀ {handle serial w}, s.operation? handle = some (serial, w) → w.InRange

variable {s : Scene}

/-- A direct operation of any value waits for no write that would be refused. -/
theorem InRange.await (h : s.InRange) {serial place : Nat} {io : Io} {w : Waiting}
    (hw : s.traffic.await? serial io = some (place, w)) : w.InRange := by
  unfold Traffic.await? at hw
  split at hw
  · cases hw
  · rename_i c hc
    have hstart := (h.traffic.hub.start s.traffic.now c io).2
    split at hw
    · cases hw
    · rename_i hwaits
      cases hw
      rw [hwaits] at hstart
      exact hstart

/-- **An act keeps what is in range**, if the requests that arrive with it are, and no other hub is
put in place. -/
theorem InRange.step (h : s.InRange) {a : Act} (own : ∀ hub, a ≠ .move (.meddle hub))
    (hjobs : ∀ ticket jobs, a = .move (.arrive ticket jobs) → ∀ job ∈ jobs, job.InRange) :
    (s.step a).InRange where
  traffic := by
    rcases s.step_cases a with ⟨m, hm, he⟩ | he | ⟨handle, serial, w, -, ho, -, he⟩
    · rw [he]
      refine h.traffic.step (Act.ne_meddle own hm) ?_
      rintro ticket jobs rfl
      cases a with
      | move m =>
        cases hm
        exact hjobs ticket jobs rfl
      | _ => cases hm
    · rw [he]
      exact h.traffic
    · rcases s.traffic.conclude_cases serial w with hc | ⟨c, hub, events, -, hresume, hc⟩
      · rw [he, hc]
        exact h.traffic
      · have hhub := h.traffic.hub.resume c (h.operations ho)
        rw [hresume] at hhub
        rw [he, hc]
        refine ⟨?_, h.traffic.tasks⟩
        exact (Gateway.hub_observeAll { s.traffic.gateway with hub } events).symm ▸ hhub
  operations {handle serial w} ho := by
    rcases operation_step ho with hold | ⟨io, -, hawait⟩
    · exact h.operations hold
    · exact h.await hawait

theorem InRange.arrive (h : s.InRange) (ticket : Nat) {jobs : List Job}
    (hjobs : ∀ job ∈ jobs, job.InRange) : (s.step (.move (.arrive ticket jobs))).InRange := by
  refine h.step (fun _ he => by cases he) ?_
  intro ticket' jobs' he
  cases he
  exact hjobs

/-- **An incident keeps what is in range.** -/
theorem InRange.meet (h : s.InRange) (i : Incident) : (s.meet i).InRange := by
  cases i with
  | request ticket r =>
    simp only [Scene.meet]
    cases hh : Http.handle s.gateway r with
    | answered response g =>
      have hhub : g.hub.InRange := by
        cases Http.handle_answered hh with
        | refused status => exact h.traffic.hub
        | page i status => exact h.traffic.hub
      exact ⟨⟨hhub, h.traffic.tasks⟩, h.operations⟩
    | accepted job =>
      exact h.arrive ticket (List.forall_mem_singleton.mpr (Http.inRange_of_accepted hh))
  | call ticket c =>
    simp only [Scene.meet]
    cases hjob : c.job s.gateway.openTimeout with
    | ok job => exact h.arrive ticket (List.forall_mem_singleton.mpr (Call.inRange_of_job hjob))
    | error e => exact h
  | startup ticket => exact h.arrive ticket s.gateway.startupJobs_inRange
  | other a =>
    simp only [Scene.meet]
    split
    · rename_i hambient
      refine h.step ?_ ?_
      · rintro hub rfl
        cases hambient
      · rintro ticket jobs rfl
        cases hambient
    · exact h

theorem InRange.meetAll (h : s.InRange) (incidents : List Incident) :
    (s.meetAll incidents).InRange := by
  induction incidents generalizing s with
  | nil => exact h
  | cons i rest ih => exact ih (h.meet i)

theorem inRange_ofConfig (config : GatewayConfig) (hub : HubConfig) (seed : UInt64) :
    (ofGateway (.ofConfig config (.ofConfig hub seed))).InRange where
  traffic := ⟨fun _ hc => (List.not_mem_nil hc).elim, fun hu => by cases hu⟩
  operations ho := by cases ho

end Scene

/-! ## The promises -/

/-- A call is refused neither before a request is made nor, for its voltage, by a channel. -/
structure Call.IsAccepted (call : Call) : Prop where
  service : ∀ timeout, ∃ job, call.job timeout = .ok job ∧ job.InRange
  driver : ∀ volts, call.volts? = some volts → ∀ (h : Hub) (now : Nat) (c : Channel)
      (f : HubFailure),
    (h.startWrite now c (.voltage volts)).2 = .finished (.error f) → f.kind ≠ .invalidParameter

/-- What is in range is accepted. -/
theorem Call.isAccepted {call : Call} (h : call.isInRange = true) : call.IsAccepted where
  service timeout := by
    obtain ⟨job, hjob, -⟩ := job_of_isInRange h timeout
    exact ⟨job, hjob, inRange_of_job hjob⟩
  driver volts hv hub now c f hf hkind := by
    have hstart : (hub.start now c (.write (.voltage volts))).2.2 = .finished (.error f) := hf
    obtain ⟨refused, he, hrange, -⟩ := Hub.start_refuses hstart hkind
    cases he
    cases call with
    | voltageOut name read address =>
      cases hv
      exact Bool.false_ne_true (hrange.symm.trans h)
    | _ => cases hv

namespace Scene

/-- Voltages are safe: nobody can see one that an output cannot be set to, and nobody who makes
requests is told of one. -/
structure IsSafe (s : Scene) : Prop where
  /-- The voltages that channels hold. -/
  stored : ∀ c ∈ s.hub.tracked, IsSettable c.voltage
  /-- The voltages that are listed. -/
  listed : ∀ record ∈ s.gateway.snapshot.1, ∀ volts, record.reading = .voltage volts →
    IsSettable volts
  /-- No request has ended because a channel refused a parameter. -/
  ended : ∀ ticket u, s.traffic.task? ticket = some u →
    ∀ outcome, u.progress = .done outcome ∨ outcome ∈ u.outcomes → outcome.blamesParameter = false
  /-- An HTTP request that is answered at once is not told of a failure of a channel: what it is
  told of its body, it is told by the reader of bodies. -/
  atOnce : ∀ r response g, Http.handle s.gateway r = .answered response g →
    response.status ∈ [200, 302, 404, 405, 413] ∨
      ∃ d : BodyDefect, response = .ofRejection d.rejection
  /-- A body with a defect has the answer of the defect, and nothing happens. -/
  refused : ∀ ticket (r : Http.Request) endpoint d, r.method = "POST" →
    Http.Route.ofTarget? r.target = some (.endpoint endpoint) → r.body.size ≤ Http.bodyLimit →
    endpoint.read r.body = .error d →
      Http.handle s.gateway r = .answered (.plain 400 d.text) s.gateway ∧
        s.meet (.request ticket r) = s

/-- What becomes of a voltage that an output cannot be set to: it is refused by whoever sees it
first, and nothing happens. -/
structure Rejects (s : Scene) (volts : Float) : Prop where
  /-- In a body, which says it with any number. -/
  request : ∀ ticket (r : Http.Request) fields name, r.method = "POST" →
    Http.Route.ofTarget? r.target = some (.endpoint .voltageOut) → r.body.size ≤ Http.bodyLimit →
    Body.object r.body = .ok fields → Body.field? fields "name" Json.asText? = some name →
    Body.field? fields "target_state" Json.asFloat? = some volts →
      Http.handle s.gateway r = .answered (.plain 400 "target_state must be +/- 10V") s.gateway ∧
        s.meet (.request ticket r) = s
  /-- In a call. -/
  call : ∀ ticket name address, ∃ e,
    (Call.voltageOut name volts address).job s.gateway.openTimeout = .error e ∧
      (e.status = 400 ∧ e.text = "target_state must be +/- 10V") ∧
      s.meet (.call ticket (.voltageOut name volts address)) = s
  /-- By the channel itself, which is asked directly. -/
  write : ∀ serial c, s.hub.channel? serial = some c → c.spec.kind = .voltageOutput →
    s.hub.start s.traffic.now c (.write (.voltage volts)) =
      (s.hub, [], .finished (.error (.voltageOutOfRange volts))) ∧
    ∀ handle, (s.step (.operate handle serial (.write (.voltage volts)))).traffic = s.traffic

variable {s : Scene}

theorem InRange.isSafe (h : s.InRange) : s.IsSafe where
  stored c hc := settable_of_inVoltageRange (h.traffic.hub c hc)
  listed record hrecord volts hvolts :=
    settable_of_inVoltageRange (Gateway.inVoltageRange_snapshot h.traffic.hub hrecord hvolts)
  ended ticket u hu outcome ho := by
    have hur := h.traffic.tasks hu
    rcases ho with hdone | hbefore
    · have hprogress := hur.progress
      rwa [hdone] at hprogress
    · exact hur.outcomes outcome hbefore
  atOnce r response g hr := Http.response_atOnce hr
  refused ticket r endpoint d hmethod hroute hsize hread := by
    have hhandle := Http.handle_defect (g := s.gateway) hmethod hroute hsize hread
    refine ⟨hhandle, ?_⟩
    simp only [Scene.meet, hhandle]
    rfl

/-- **A voltage out of range is refused by whoever sees it first**, and nothing happens. -/
theorem InRange.rejects (h : s.InRange) {volts : Float} (hrange : inVoltageRange volts = false) :
    s.Rejects volts where
  request ticket r fields name hmethod hroute hsize hobject hname hvolts :=
    h.isSafe.refused ticket r .voltageOut .voltageOutOfRange hmethod hroute hsize
      (Endpoint.read_outOfRange hobject hname hvolts hrange)
  call ticket name address := by
    have hjob : (Call.voltageOut name volts address).job s.gateway.openTimeout =
        .error (.validation "target_state must be +/- 10V") := if_neg (by simp [hrange])
    refine ⟨_, hjob, ⟨rfl, rfl⟩, ?_⟩
    simp only [Scene.meet, hjob]
  write serial c hc hkind := by
    have hstart : s.hub.start s.traffic.now c (.write (.voltage volts)) =
        (s.hub, [], .finished (.error (.voltageOutOfRange volts))) := by
      rw [Hub.start, Hub.startWrite_outOfRange hrange s.hub s.traffic.now hkind]
    refine ⟨hstart, fun handle => ?_⟩
    change s.traffic.intervene serial (.operate (.write (.voltage volts))) = s.traffic
    have hchannel : s.traffic.gateway.hub.channel? serial = some c := hc
    have hbegin : s.traffic.gateway.hub.start s.traffic.now c (.write (.voltage volts)) =
        (s.traffic.gateway.hub, [], .finished (.error (.voltageOutOfRange volts))) := hstart
    simp only [Traffic.intervene, hchannel, Hub.intervene, Hub.operate, hbegin]
    rfl

end Scene

/-- **Voltages are safe from the body to the hardware.** After every run of HTTP requests, calls,
startup, direct operations and changes of the hardware: what is stored and what is listed can be
set, no request is answered with a parameter that a channel refused, what a body is read as is
accepted by the service and by the channel, and what is out of range is refused before anything
happens. -/
theorem voltages_safe (config : GatewayConfig) (hub : HubConfig) (seed : UInt64)
    (incidents : List Incident) :
    let s := (Scene.ofGateway (.ofConfig config (.ofConfig hub seed))).meetAll incidents
    s.IsSafe ∧
      (∀ (endpoint : Endpoint) body call, endpoint.read body = .ok call → call.IsAccepted) ∧
      ∀ volts, inVoltageRange volts = false → s.Rejects volts := by
  intro s
  have hs : s.InRange := (Scene.inRange_ofConfig config hub seed).meetAll incidents
  exact ⟨hs.isSafe,
    fun endpoint body call hread => Call.isAccepted (Endpoint.isInRange_of_read hread),
    fun volts hrange => hs.rejects hrange⟩

end ChannelGateway
