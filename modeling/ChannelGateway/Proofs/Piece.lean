import ChannelGateway.Proofs.Hub
import ChannelGateway.Gateway.Request
import Mathlib.Logic.Function.Basic
import Mathlib.Logic.Relation

/-!
# The pieces of a request

`Piece now held ticket g p g' p'` says once what a request can do between two places where it may
have to wait: from gateway `g` and place `p` to gateway `g'` and place `p'`, with one constructor
for each way. A request that takes a ticket and finds its gate free goes on at once, so a call of
`Gateway.advance` is one piece, or the taking of a ticket and a second piece.

Results:
* **`advance_piece`**: `Gateway.advance` does nothing but pieces.
* `follow_outcome`: all that using an open name can do.
* `observeAll_attached`: the gateway takes no notice of attachments.
-/

namespace ChannelGateway

/-- What is taken from a registry at once: a name that is bound to a channel, or every name. -/
inductive Registry.Removal : Registry → Registry → Prop
  | bound (r : Registry) (name : String) (id : ChannelId) : Removal r (r.removeIfBound name id).2
  | all (r : Registry) : Removal r r.drain.2

/-- Removing the entry of a channel is removing a name that is bound to it, or nothing. -/
theorem Registry.removal_channel (r : Registry) (id : ChannelId) :
    Relation.ReflTransGen Registry.Removal r (r.removeChannel id).2 := by
  unfold removeChannel
  cases r.nameFor id with
  | none => exact .refl
  | some name => exact .single (.bound r name id)

/-- What is taken from a registry gives out no identity and opens no name. -/
theorem Registry.removal_loses {old new : Registry}
    (taken : Relation.ReflTransGen Registry.Removal old new) :
    new.nextId = old.nextId ∧
      ∀ {name r}, new.resolve name = some r → old.resolve name = some r := by
  induction taken with
  | refl => exact ⟨rfl, fun hr => hr⟩
  | @tail middle _ _ last ih =>
    cases last with
    | bound name id =>
      rcases middle.removeIfBound_cases name id with hn | ⟨_, _, _, hs⟩
      · rw [hn]
        exact ih
      · rw [hs]
        refine ⟨ih.1, fun {other r} hr => ih.2 ?_⟩
        rw [resolve_drop] at hr
        split at hr
        · cases hr
        · exact hr
    | all => exact ⟨ih.1, fun hr => by simp at hr⟩

namespace Gateway

variable {g g' : Gateway} {now ticket : Nat} {held : Nat → Bool}

/-- The resource that an open request makes when its name is not open. -/
def newcomer (g : Gateway) (request : OpenRequest) : Resource :=
  ⟨request.name, request.kind, g.hub.created, ⟨g.registry.nextId, request.kind, request.address⟩⟩

/-- The gateway after an identity has been given out and a channel created for an open request. -/
def enlist (g : Gateway) (held : Nat → Bool) (request : OpenRequest) : Gateway :=
  { g with
    registry := g.registry.takeId.2
    hub := g.hub.create (g.holds held) (g.newcomer request).spec }

/-- What the hub does when a channel created for an open request begins to open. -/
def attempt (g : Gateway) (now : Nat) (held : Nat → Bool) (request : OpenRequest) :
    Hub × List HubEvent × IoStatus :=
  (g.enlist held request).hub.startOpen now ((g.enlist held request).channelOf (g.newcomer request))
    request.timeout

theorem channel?_enlist (hn : g.hub.Numbered) (held : Nat → Bool) (request : OpenRequest) :
    (g.enlist held request).hub.channel? (g.newcomer request).serial =
      some (.fresh g.hub.created (g.newcomer request).spec) :=
  Hub.channel?_create_self _ hn

/-- The channel that is created for an open request. -/
theorem channelOf_enlist (hn : g.hub.Numbered) (held : Nat → Bool) (request : OpenRequest) :
    (g.enlist held request).channelOf (g.newcomer request) =
      .fresh g.hub.created (g.newcomer request).spec := by
  unfold channelOf
  rw [channel?_enlist hn]
  rfl

/-- All that beginning to open the new channel can do. -/
theorem attempt_outcome (hn : g.hub.Numbered) {request : OpenRequest} {hub : Hub}
    {events : List HubEvent} {status : IoStatus}
    (attempt : g.attempt now held request = (hub, events, status)) :
    Hub.OpenOutcome (g.enlist held request).hub (.fresh g.hub.created (g.newcomer request).spec)
      request.timeout (hub, events, status) := by
  rw [← attempt, Gateway.attempt, channelOf_enlist hn]
  exact Hub.startOpen_outcome ..

/-! ## Using an open name -/

/-- What using an open name ends in. -/
inductive FollowOutcome (g : Gateway) (r : Resource) : Gateway × Progress → Prop
  | subscribed (s : Subscriptions) :
    FollowOutcome g r ({ g with subscriptions := s }, .done (.ok (some r)))
  | written (i : Injection) (w : Write) :
    FollowOutcome g r
      ({ g with hub := (g.hub.withInjection i).modify r.serial w.apply }, .done (.ok (some r)))
  | waiting (i : Injection) (due : Nat) (w : Write) :
    FollowOutcome g r ({ g with hub := g.hub.withInjection i }, .writing r (.writing due w))
  | failed (i : Injection) (f : HubFailure) :
    FollowOutcome g r
      ({ g with hub := g.hub.withInjection i }, .done (.error (.deviceFailed r.name f.error)))

@[simp]
theorem serial_channelOf (g : Gateway) (r : Resource) : (g.channelOf r).serial = r.serial := by
  unfold channelOf
  cases h : g.hub.channel? r.serial with
  | none => rfl
  | some c => exact Hub.serial_of_channel? h

/-- **All that using an open name can do.** -/
theorem follow_outcome (g : Gateway) (now : Nat) (r : Resource) (followup : Followup) :
    FollowOutcome g r (g.follow now r followup) := by
  cases followup with
  | nothing => exact .subscribed g.subscriptions
  | subscribe urls => exact .subscribed _
  | write w =>
    have hw := Hub.startWrite_outcome g.hub now (g.channelOf r) w
    simp only [follow]
    generalize g.hub.startWrite now (g.channelOf r) w = result at hw ⊢
    cases hw with
    | failed i f => exact .failed i f
    | waiting i due => exact .waiting i due w
    | written i =>
      rw [serial_channelOf]
      exact .written i w

@[simp]
theorem registry_follow (g : Gateway) (now : Nat) (r : Resource) (followup : Followup) :
    (g.follow now r followup).1.registry = g.registry := by
  have h := follow_outcome g now r followup
  generalize g.follow now r followup = result at h ⊢
  cases h <;> rfl

@[simp]
theorem gates_follow (g : Gateway) (now : Nat) (r : Resource) (followup : Followup) :
    (g.follow now r followup).1.gates = g.gates := by
  have h := follow_outcome g now r followup
  generalize g.follow now r followup = result at h ⊢
  cases h <;> rfl

@[simp]
theorem gate?_follow (g : Gateway) (now : Nat) (r : Resource) (followup : Followup) :
    (g.follow now r followup).2.gate? = none := by
  have h := follow_outcome g now r followup
  generalize g.follow now r followup = result at h ⊢
  cases h <;> rfl

@[simp]
theorem frame_follow (g : Gateway) (now : Nat) (r : Resource) (followup : Followup) :
    (g.follow now r followup).1.hub.frame = g.hub.frame := by
  have h := follow_outcome g now r followup
  generalize g.follow now r followup = result at h ⊢
  cases h <;> rfl

/-! ## The registry, the gates and the hub after the parts of a request -/

@[simp]
theorem registry_leaveGate (g : Gateway) (name : String) (ticket : Nat) :
    (g.leaveGate name ticket).registry = g.registry := rfl

@[simp]
theorem registry_register (g : Gateway) (now ticket : Nat) (r : Resource) (followup : Followup) :
    (g.register now ticket r followup).1.registry = g.registry.insert r :=
  registry_follow ..

@[simp]
theorem gates_register (g : Gateway) (now ticket : Nat) (r : Resource) (followup : Followup) :
    (g.register now ticket r followup).1.gates = g.gates.leave r.name ticket :=
  gates_follow ..

@[simp]
theorem gate?_register (g : Gateway) (now ticket : Nat) (r : Resource) (followup : Followup) :
    (g.register now ticket r followup).2.gate? = none :=
  gate?_follow ..

@[simp]
theorem frame_register (g : Gateway) (now ticket : Nat) (r : Resource) (followup : Followup) :
    (g.register now ticket r followup).1.hub.frame = g.hub.frame :=
  frame_follow ..

@[simp]
theorem frame_abandon (g : Gateway) (ticket : Nat) (r : Resource) (f : HubFailure) :
    (g.abandon ticket r f).1.hub.frame = g.hub.frame :=
  Hub.frame_startClose ..

theorem frame_attempt {request : OpenRequest} {hub : Hub} {events : List HubEvent}
    {status : IoStatus} (h : g.attempt now held request = (hub, events, status)) :
    hub.frame = (g.hub.config, g.hub.created + 1) :=
  (congrArg (fun result => result.1.frame) h).symm.trans (Hub.frame_startOpen ..)

theorem frame_resume {c : Channel} {w : Waiting} {hub : Hub} {events : List HubEvent}
    {result : Except HubFailure Reply} (h : g.hub.resume c w = (hub, events, result)) :
    hub.frame = g.hub.frame :=
  (congrArg (fun result => result.1.frame) h).symm.trans (Hub.frame_resume ..)

/-! ## Events that the gateway takes no notice of -/

theorem observeAll_attached (g : Gateway) {events : List HubEvent} {id : ChannelId}
    (h : ∀ e ∈ events, e = .attached id) : g.observeAll events = g := by
  induction events with
  | nil => rfl
  | cons e rest ih =>
    obtain rfl := h e List.mem_cons_self
    exact ih fun e he => h e (List.mem_cons_of_mem _ he)

theorem gates_observe (g : Gateway) (e : HubEvent) : (g.observe e).gates = g.gates := by
  cases e with
  | changed id state =>
    unfold observe
    dsimp only
    split <;> rfl
  | _ => rfl

theorem gates_observeAll (g : Gateway) (events : List HubEvent) :
    (g.observeAll events).gates = g.gates := by
  induction events generalizing g with
  | nil => rfl
  | cons e rest ih => exact (ih (g.observe e)).trans (g.gates_observe e)

theorem hub_observe (g : Gateway) (e : HubEvent) : (g.observe e).hub = g.hub := by
  cases e with
  | changed id state =>
    unfold observe
    dsimp only
    split <;> rfl
  | _ => rfl

theorem hub_observeAll (g : Gateway) (events : List HubEvent) :
    (g.observeAll events).hub = g.hub := by
  induction events generalizing g with
  | nil => rfl
  | cons e rest ih => exact (ih (g.observe e)).trans (g.hub_observe e)

/-- Events only take entries from the registry. -/
theorem registry_observeAll (g : Gateway) (events : List HubEvent) :
    Relation.ReflTransGen Registry.Removal g.registry (g.observeAll events).registry := by
  induction events generalizing g with
  | nil => exact .refl
  | cons e rest ih =>
    have hrest := ih (g.observe e)
    cases e with
    | attached id => exact hrest
    | detached id => exact (g.registry.removal_channel id).trans hrest
    | fault id code text => exact hrest
    | changed id state =>
      have he : (g.observe (.changed id state)).registry = g.registry := by
        unfold observe
        dsimp only
        split <;> rfl
      rwa [he] at hrest

/-- Reading channels one after the other asks the injected faults and changes nothing else. -/
theorem statuses_snd (g : Gateway) (resources : List Resource) :
    ∃ i, (g.statuses resources).2 = { g with hub := g.hub.withInjection i } := by
  induction resources generalizing g with
  | nil => exact ⟨g.hub.injection, rfl⟩
  | cons r rest ih =>
    obtain ⟨i, hi⟩ := Hub.read_fst g.hub (g.channelOf r)
    have hstatus : (g.status r).2 = { g with hub := g.hub.withInjection i } := by
      rw [← hi]
      rfl
    obtain ⟨j, hj⟩ := ih (g.status r).2
    refine ⟨j, ?_⟩
    rw [hstatus] at hj
    exact (congrArg (fun g : Gateway => (g.statuses rest).2) hstatus).trans hj

/-- Listing the open names asks the injected faults and changes nothing else. -/
theorem snapshot_snd (g : Gateway) : ∃ i, g.snapshot.2 = { g with hub := g.hub.withInjection i } :=
  g.statuses_snd g.registry.resources

/-- Closing channels changes nothing but the hub. -/
theorem closeAll_eq (g : Gateway) (resources : List Resource) :
    g.closeAll resources = { g with hub := (g.closeAll resources).hub } := by
  induction resources generalizing g with
  | nil => rfl
  | cons r rest ih => exact ih { g with hub := (g.hub.startClose (g.channelOf r)).1 }

/-- What closing one channel keeps of the hub, closing several keeps. -/
theorem closeAll_keeps {P : Hub → Prop} (keep : ∀ h c, P h → P (Hub.startClose h c).1)
    (start : P g.hub) (resources : List Resource) : P (g.closeAll resources).hub := by
  induction resources generalizing g with
  | nil => exact start
  | cons r rest ih =>
    exact ih (g := { g with hub := (g.hub.startClose (g.channelOf r)).1 }) (keep _ _ start)

/-- Shutting down empties the registry and changes the hub. -/
theorem shutdown_eq (g : Gateway) :
    g.shutdown = { g with hub := g.shutdown.hub, registry := g.registry.drain.2 } :=
  closeAll_eq { g with registry := g.registry.drain.2 } g.registry.drain.1

/-- What closing one channel keeps of the hub, shutting down keeps. -/
theorem shutdown_keeps {P : Hub → Prop} (keep : ∀ h c, P h → P (Hub.startClose h c).1)
    (start : P g.hub) : P g.shutdown.hub :=
  closeAll_keeps (g := { g with registry := g.registry.drain.2 }) keep start g.registry.drain.1

theorem frame_shutdown (g : Gateway) : g.shutdown.hub.frame = g.hub.frame :=
  shutdown_keeps (P := fun h => h.frame = g.hub.frame)
    (fun h c he => (h.frame_startClose c).trans he) rfl

theorem registry_cancel (g : Gateway) (ticket : Nat) (p : Progress) :
    (g.cancel ticket p).registry = g.registry := by
  unfold cancel
  split <;> rfl

theorem hub_cancel (g : Gateway) (ticket : Nat) (p : Progress) :
    (g.cancel ticket p).hub = g.hub := by
  unfold cancel
  split <;> rfl

/-! ## The pieces -/

/-- **What a request can do** between two places where it may have to wait. -/
inductive Piece (now : Nat) (held : Nat → Bool) (ticket : Nat) (g : Gateway) :
    Progress → Gateway → Progress → Prop
  /-- It takes a ticket for the gate of its name. -/
  | enter (job : Job) :
    Piece now held ticket g (.ready job) { g with gates := g.gates.enter job.name ticket }
      (.queued job)
  /-- Its name is open, and is used without passing the gate. -/
  | reuse {request : OpenRequest} {followup : Followup} {r : Resource}
    (found : g.registry.resolve request.name = some r) :
    Piece now held ticket g (.ready (.use request followup)) (g.follow now r followup).1
      (g.follow now r followup).2
  /-- It holds the gate and finds its name open. -/
  | join {request : OpenRequest} {followup : Followup} {r : Resource}
    (turn : g.gates.holds request.name ticket = true)
    (found : g.registry.resolve request.name = some r) :
    Piece now held ticket g (.queued (.use request followup))
      ((g.leaveGate request.name ticket).follow now r followup).1
      ((g.leaveGate request.name ticket).follow now r followup).2
  /-- It holds the gate of a name that is not open, and does not know the place of the channel. -/
  | refuse {request : OpenRequest} {followup : Followup}
    (turn : g.gates.holds request.name ticket = true)
    (free : g.registry.resolve request.name = none) (missing : request.address.isMissing = true) :
    Piece now held ticket g (.queued (.use request followup)) (g.leaveGate request.name ticket)
      (.done (.error (.missingAddress request.name)))
  /-- It creates a channel and waits for it. -/
  | create {request : OpenRequest} {followup : Followup} {hub : Hub} {events : List HubEvent}
    {w : Waiting} (turn : g.gates.holds request.name ticket = true)
    (free : g.registry.resolve request.name = none) (known : request.address.isMissing = false)
    (attempt : g.attempt now held request = (hub, events, .waiting w)) :
    Piece now held ticket g (.queued (.use request followup)) { g.enlist held request with hub }
      (.opening (g.newcomer request) followup w)
  /-- It creates a channel, which opens at once. -/
  | createOpen {request : OpenRequest} {followup : Followup} {hub : Hub} {events : List HubEvent}
    {reply : Reply} (turn : g.gates.holds request.name ticket = true)
    (free : g.registry.resolve request.name = none) (known : request.address.isMissing = false)
    (attempt : g.attempt now held request = (hub, events, .finished (.ok reply))) :
    Piece now held ticket g (.queued (.use request followup))
      ({ g.enlist held request with hub }.register now ticket (g.newcomer request) followup).1
      ({ g.enlist held request with hub }.register now ticket (g.newcomer request) followup).2
  /-- It creates a channel, which fails at once. -/
  | createFailed {request : OpenRequest} {followup : Followup} {hub : Hub} {events : List HubEvent}
    {f : HubFailure} (turn : g.gates.holds request.name ticket = true)
    (free : g.registry.resolve request.name = none) (known : request.address.isMissing = false)
    (attempt : g.attempt now held request = (hub, events, .finished (.error f))) :
    Piece now held ticket g (.queued (.use request followup))
      ({ g.enlist held request with hub }.abandon ticket (g.newcomer request) f).1
      ({ g.enlist held request with hub }.abandon ticket (g.newcomer request) f).2
  /-- The channel that it waits for opens. -/
  | attached {r : Resource} {followup : Followup} {w : Waiting} {hub : Hub}
    {events : List HubEvent} {reply : Reply} (due : w.due ≤ now)
    (result : g.hub.resume (g.channelOf r) w = (hub, events, .ok reply)) :
    Piece now held ticket g (.opening r followup w)
      ({ g with hub }.register now ticket r followup).1
      ({ g with hub }.register now ticket r followup).2
  /-- The channel that it waits for does not open. -/
  | unattached {r : Resource} {followup : Followup} {w : Waiting} {hub : Hub}
    {events : List HubEvent} {f : HubFailure} (due : w.due ≤ now)
    (result : g.hub.resume (g.channelOf r) w = (hub, events, .error f)) :
    Piece now held ticket g (.opening r followup w) ({ g with hub }.abandon ticket r f).1
      ({ g with hub }.abandon ticket r f).2
  /-- The channel takes the value. -/
  | written {r : Resource} {w : Waiting} {hub : Hub} {events : List HubEvent} {reply : Reply}
    (due : w.due ≤ now) (result : g.hub.resume (g.channelOf r) w = (hub, events, .ok reply)) :
    Piece now held ticket g (.writing r w) { g with hub } (.done (.ok (some r)))
  /-- The channel does not take the value. -/
  | unwritten {r : Resource} {w : Waiting} {hub : Hub} {events : List HubEvent} {f : HubFailure}
    (due : w.due ≤ now) (result : g.hub.resume (g.channelOf r) w = (hub, events, .error f)) :
    Piece now held ticket g (.writing r w) { g with hub }
      (.done (.error (.deviceFailed r.name f.error)))
  /-- It holds the gate of the name that it closes, and the name is not open. -/
  | notFound {name : String} (turn : g.gates.holds name ticket = true)
    (free : g.registry.resolve name = none) :
    Piece now held ticket g (.queued (.close name)) (g.leaveGate name ticket)
      (.done (.error (.notFound name)))
  /-- The channel fails to close. -/
  | closeFailed {name : String} {r : Resource} {hub : Hub} {f : HubFailure}
    (turn : g.gates.holds name ticket = true) (found : g.registry.resolve name = some r)
    (result : g.hub.startClose (g.channelOf r) = (hub, .finished (.error f))) :
    Piece now held ticket g (.queued (.close name)) ({ g with hub }.leaveGate name ticket)
      (.done (.error (.closeFailed name f.error)))
  /-- The channel closes, and the name is forgotten. -/
  | closed {name : String} {r : Resource} {hub : Hub} {reply : Reply}
    (turn : g.gates.holds name ticket = true) (found : g.registry.resolve name = some r)
    (result : g.hub.startClose (g.channelOf r) = (hub, .finished (.ok reply))) :
    Piece now held ticket g (.queued (.close name))
      ({ g with hub, registry := g.registry.drop name r.id }.leaveGate name ticket)
      (.done (.ok none))

/-- A request whose ticket holds the gate and that creates a channel makes one piece. -/
theorem create_piece {request : OpenRequest} (followup : Followup)
    (turn : g.gates.holds request.name ticket = true)
    (free : g.registry.resolve request.name = none) (known : request.address.isMissing = false) :
    Piece now held ticket g (.queued (.use request followup))
      (g.create now held ticket request followup).1
      (g.create now held ticket request followup).2 := by
  rcases hattempt : g.attempt now held request with ⟨hub, events, status⟩
  have hevents := Hub.startOpen_events hattempt
  -- `attempt` is how `create` begins the opening
  unfold attempt enlist newcomer Registry.takeId at hattempt
  unfold create Registry.takeId
  dsimp only at hattempt ⊢
  rw [hattempt]
  cases status with
  | finished result =>
    cases result with
    | ok reply =>
      dsimp only
      rw [observeAll_attached _ hevents]
      exact .createOpen turn free known hattempt
    | error f =>
      dsimp only
      rw [observeAll_attached _ hevents]
      exact .createFailed turn free known hattempt
  | waiting w =>
    dsimp only
    rw [observeAll_attached _ hevents]
    exact .create turn free known hattempt

/-- A request whose ticket holds the gate and that closes a name makes one piece. -/
theorem close_piece {name : String} (turn : g.gates.holds name ticket = true) :
    Piece now held ticket g (.queued (.close name)) (g.close ticket name).1
      (g.close ticket name).2 := by
  unfold close
  cases hr : g.registry.resolve name with
  | none => exact .notFound turn hr
  | some r =>
    dsimp only
    rcases hclose : g.hub.startClose (g.channelOf r) with ⟨hub, status⟩
    have ho := Hub.startClose_outcome g.hub (g.channelOf r)
    rw [hclose] at ho
    cases ho with
    | failed i f => exact .closeFailed turn hr hclose
    | closed i =>
      dsimp only
      rw [Registry.removeIfBound_bound hr]
      exact .closed turn hr hclose

/-- A request whose ticket holds the gate makes one piece. -/
theorem pass_piece (now : Nat) (held : Nat → Bool) {job : Job}
    (turn : g.gates.holds job.name ticket = true) :
    Piece now held ticket g (.queued job) (g.pass now held ticket job).1
      (g.pass now held ticket job).2 := by
  cases job with
  | close name => exact close_piece turn
  | use request followup =>
    simp only [pass]
    cases hr : g.registry.resolve request.name with
    | some r => exact .join turn hr
    | none =>
      dsimp only
      split
      · rename_i hm
        exact .refuse turn hr hm
      · rename_i hm
        exact create_piece followup turn hr (by simpa using hm)

/-- A request that takes a ticket makes one piece, or two if the gate is free. -/
theorem queue_piece (g : Gateway) (now : Nat) (held : Nat → Bool) (ticket : Nat) (job : Job) :
    Piece now held ticket g (.ready job) (g.queue now held ticket job).1
        (g.queue now held ticket job).2 ∨
      Piece now held ticket { g with gates := g.gates.enter job.name ticket } (.queued job)
        (g.queue now held ticket job).1 (g.queue now held ticket job).2 := by
  unfold queue
  dsimp only
  split
  · rename_i turn
    exact .inr (pass_piece now held turn)
  · exact .inl (.enter job)

/-- **A call of `Gateway.advance` is one piece**, or the taking of a ticket and a second piece. -/
theorem advance_piece {p p' : Progress} (h : g.advance now held ticket p = some (g', p')) :
    Piece now held ticket g p g' p' ∨
      ∃ job, p = .ready job ∧
        Piece now held ticket { g with gates := g.gates.enter job.name ticket } (.queued job)
          g' p' := by
  cases p with
  | ready job =>
    obtain ⟨rfl, rfl⟩ : (g.begin now held ticket job).1 = g' ∧
        (g.begin now held ticket job).2 = p' := by
      simpa [advance, Prod.ext_iff] using h
    cases job with
    | close name => exact (g.queue_piece now held ticket _).imp_right fun hp => ⟨_, rfl, hp⟩
    | use request followup =>
      simp only [begin]
      cases hr : g.registry.resolve request.name with
      | some r => exact .inl (.reuse hr)
      | none => exact (g.queue_piece now held ticket _).imp_right fun hp => ⟨_, rfl, hp⟩
  | queued job =>
    simp only [advance] at h
    split at h
    · rename_i turn
      obtain ⟨rfl, rfl⟩ := Prod.ext_iff.mp (Option.some.inj h)
      exact .inl (pass_piece now held turn)
    · cases h
  | opening r followup w =>
    simp only [advance] at h
    split at h
    · rename_i hdue
      rcases hresume : g.hub.resume (g.channelOf r) w with ⟨hub, events, result⟩
      rw [hresume] at h
      dsimp only at h
      rw [observeAll_attached _ (Hub.resume_events hresume)] at h
      cases result with
      | ok reply =>
        obtain ⟨rfl, rfl⟩ := Prod.ext_iff.mp (Option.some.inj h)
        exact .inl (.attached hdue hresume)
      | error f =>
        obtain ⟨rfl, rfl⟩ := Prod.ext_iff.mp (Option.some.inj h)
        exact .inl (.unattached hdue hresume)
    · cases h
  | writing r w =>
    simp only [advance] at h
    split at h
    · rename_i hdue
      rcases hresume : g.hub.resume (g.channelOf r) w with ⟨hub, events, result⟩
      rw [hresume] at h
      dsimp only at h
      rw [observeAll_attached _ (Hub.resume_events hresume)] at h
      cases result with
      | ok reply =>
        cases h
        exact .inl (.written hdue hresume)
      | error f =>
        cases h
        exact .inl (.unwritten hdue hresume)
    · cases h
  | done outcome => cases h

/-- A call of `Gateway.advance` ends with a piece that, but for the gates, begins where the call
does. -/
theorem advance_last {p p' : Progress} (h : g.advance now held ticket p = some (g', p')) :
    ∃ gates q, { g with gates }.Piece now held ticket q g' p' ∧
      (q = p ∨ ∃ job, p = .ready job ∧ q = .queued job) := by
  rcases advance_piece h with hone | ⟨job, hp, htwo⟩
  · exact ⟨g.gates, p, hone, .inl rfl⟩
  · exact ⟨g.gates.enter job.name ticket, .queued job, htwo, .inr ⟨job, hp, rfl⟩⟩

/-- What every piece keeps is kept by a call of `Gateway.advance`. -/
theorem advance_induction {P : Gateway → (Nat → Option Progress) → Prop}
    (keep : ∀ {g g' p p' standing}, standing ticket = some p → Piece now held ticket g p g' p' →
      P g standing → P g' (Function.update standing ticket (some p')))
    {p p' : Progress} {standing : Nat → Option Progress} (hs : standing ticket = some p)
    (ha : g.advance now held ticket p = some (g', p')) (h : P g standing) :
    P g' (Function.update standing ticket (some p')) := by
  rcases advance_piece ha with hone | ⟨job, rfl, htwo⟩
  · exact keep hs hone h
  · have hboth := keep (Function.update_self ..) htwo (keep hs (.enter job) h)
    rwa [Function.update_idem] at hboth

end Gateway

end ChannelGateway
