import ChannelGateway.Proofs.Traffic

/-!
# Every name in use has a channel of its own

A resource is known while its name is registered or a request is using its channel. `Backed` says
that each known resource has a channel on the hub, created for it and for no other: the hub has not
forgotten it, and two known resources never share a serial number. Nothing is said of what the
channels hold or whether they are open, so the invariant survives every operation, whatever faults
are injected and whoever else operates the channels. Only a hub that is put in place of the hub
breaks it.

The hub forgets channels when it creates one. That it forgets none of a known resource is where the
holders come in: the registry holds the channels of its resources, and each request the one it is
using.

Results:
* `ledger_start`, `ledger_resume`, `ledger_intervene`: operations neither create nor forget
  channels.
* **`Gateway.advance_turnover`**: all that a request does to the channels and to what is known.
* **`IsBacked.step`**, **`IsBacked.run`**: every move keeps the invariant that puts no other hub in
  place.
-/

namespace ChannelGateway

/-! ## Known resources -/

/-- The resource whose channel a request is using. -/
def Progress.resource? : Progress → Option Resource
  | opening r _ _ => some r
  | writing r _ => some r
  | _ => none

/-- The name that a request is for, until it is done. -/
def Progress.name? : Progress → Option String
  | ready job => some job.name
  | queued job => some job.name
  | opening r _ _ => some r.name
  | writing r _ => some r.name
  | done _ => none

theorem Progress.name?_of_resource? {p : Progress} {r : Resource} (h : p.resource? = some r) :
    p.name? = some r.name := by
  cases p <;> cases h <;> rfl

theorem Progress.holds_iff {p : Progress} {serial : Nat} :
    p.holds serial = true ↔ ∃ r, p.resource? = some r ∧ r.serial = serial := by
  cases p <;> simp [holds, resource?]

/-- A resource is registered, or a request is using its channel. -/
def Known (registry : Registry) (standing : Nat → Option Progress) (r : Resource) : Prop :=
  (∃ name, registry.resolve name = some r) ∨ ∃ k, (standing k).bind Progress.resource? = some r

namespace Known

variable {registry : Registry} {standing : Nat → Option Progress} {ticket : Nat} {r : Resource}

/-- What is known after a task has gone to another place. -/
theorem of_update {q : Option Progress}
    (h : Known registry (Function.update standing ticket q) r) :
    q.bind Progress.resource? = some r ∨ Known registry standing r := by
  rcases h with hr | ⟨k, hk⟩
  · exact .inr (.inl hr)
  · by_cases hkt : k = ticket
    · subst hkt
      rw [Function.update_self] at hk
      exact .inl hk
    · rw [Function.update_of_ne hkt] at hk
      exact .inr (.inr ⟨k, hk⟩)

/-- A task that goes on with the channel it has, or with none, makes nothing known. -/
theorem of_stay {p p' : Progress} (hs : standing ticket = some p)
    (hp : ∀ s, p'.resource? = some s → p.resource? = some s)
    (h : Known registry (Function.update standing ticket (some p')) r) :
    Known registry standing r := by
  refine h.of_update.elim (fun he => .inr ⟨ticket, ?_⟩) id
  rw [hs]
  exact hp r he

/-- A task that uses no channel makes nothing known. -/
theorem of_rest {q : Option Progress} (hq : q.bind Progress.resource? = none)
    (h : Known registry (Function.update standing ticket q) r) : Known registry standing r := by
  refine h.of_update.elim (fun he => ?_) id
  rw [hq] at he
  cases he

/-- Registering a resource makes nothing else known. -/
theorem of_insert {s : Resource} (h : Known (registry.insert s) standing r) :
    r = s ∨ Known registry standing r := by
  rcases h with ⟨name, hr⟩ | hk
  · rw [Registry.resolve_insert] at hr
    split at hr
    · exact .inl (Option.some.inj hr).symm
    · exact .inr (.inl ⟨name, hr⟩)
  · exact .inr (.inr hk)

/-- A registry with fewer names makes nothing known. -/
theorem of_loses {registry' : Registry}
    (loses : ∀ {name s}, registry'.resolve name = some s → registry.resolve name = some s)
    (h : Known registry' standing r) : Known registry standing r :=
  h.imp_left fun ⟨name, hr⟩ => ⟨name, loses hr⟩

end Known

/-! ## Ledgers -/

/-- The channels of a hub as they were created: how many there have been, and what each one that is
not forgotten was created for, by serial number. -/
structure Ledger where
  created : Nat
  specs : Table Nat ChannelSpec

/-- The ledger after a channel has been created. -/
def Ledger.add (l : Ledger) (held : Nat → Bool) (spec : ChannelSpec) : Ledger :=
  ⟨l.created + 1, (l.specs.filter fun entry => held entry.1) ++ [(l.created, spec)]⟩

namespace Hub

variable {h : Hub} {c : Channel}

/-- The ledger of a hub. -/
def ledger (h : Hub) : Ledger :=
  ⟨h.created, h.tracked.map fun c => (c.serial, c.spec)⟩

theorem get?_specs (h : Hub) (serial : Nat) :
    h.ledger.specs.get? serial = (h.channel? serial).map Channel.spec := by
  unfold ledger channel?
  induction h.tracked with
  | nil => rfl
  | cons c rest ih =>
    dsimp only at ih
    dsimp only
    rw [List.map_cons, Table.get?_cons, ih, List.find?_cons]
    by_cases hc : c.serial = serial <;> simp [hc]

@[simp]
theorem ledger_create (h : Hub) (held : Nat → Bool) (spec : ChannelSpec) :
    (h.create held spec).ledger = h.ledger.add held spec := by
  simp [ledger, create, Ledger.add, live, List.filter_map, Function.comp_def, Channel.fresh]

@[simp]
theorem ledger_withInjection (h : Hub) (i : Injection) :
    (h.withInjection i).ledger = h.ledger := rfl

theorem ledger_modify (h : Hub) (serial : Nat) {f : Channel → Channel}
    (hserial : ∀ c, (f c).serial = c.serial) (hspec : ∀ c, (f c).spec = c.spec) :
    (h.modify serial f).ledger = h.ledger := by
  unfold ledger modify
  rw [List.map_map]
  congr 1
  refine List.map_congr_left fun c _ => ?_
  dsimp only [Function.comp]
  split <;> simp [hserial, hspec]

theorem ledger_write (h : Hub) (serial : Nat) (w : Write) :
    (h.modify serial w.apply).ledger = h.ledger :=
  h.ledger_modify serial (fun _ => by cases w <;> rfl) fun _ => by cases w <;> rfl

@[simp]
theorem ledger_startOpen (h : Hub) (now : Nat) (c : Channel) (timeout : Nat) :
    (h.startOpen now c timeout).1.ledger = h.ledger := by
  have ho := startOpen_outcome h now c timeout
  generalize h.startOpen now c timeout = result at ho ⊢
  cases ho with
  | opened i place => exact (h.withInjection i).ledger_modify c.serial (fun _ => rfl) fun _ => rfl
  | _ => rfl

@[simp]
theorem ledger_startClose (h : Hub) (c : Channel) : (h.startClose c).1.ledger = h.ledger := by
  have ho := startClose_outcome h c
  generalize h.startClose c = result at ho ⊢
  cases ho with
  | failed i f => rfl
  | closed i => exact (h.withInjection i).ledger_modify c.serial (fun _ => rfl) fun _ => rfl

@[simp]
theorem ledger_startWrite (h : Hub) (now : Nat) (c : Channel) (w : Write) :
    (h.startWrite now c w).1.ledger = h.ledger := by
  have ho := startWrite_outcome h now c w
  generalize h.startWrite now c w = result at ho ⊢
  cases ho with
  | written i => exact (h.withInjection i).ledger_write c.serial w
  | _ => rfl

/-- Beginning an operation neither creates nor forgets a channel. -/
theorem ledger_start (h : Hub) (now : Nat) (c : Channel) (io : Io) :
    (h.start now c io).1.ledger = h.ledger := by
  cases io with
  | openWithin timeout => exact ledger_startOpen ..
  | close => exact ledger_startClose ..
  | readState =>
    obtain ⟨i, hi⟩ := h.readState_fst c
    exact (congrArg ledger hi).trans (h.ledger_withInjection i)
  | readVoltage =>
    obtain ⟨i, hi⟩ := h.readVoltage_fst c
    exact (congrArg ledger hi).trans (h.ledger_withInjection i)
  | read =>
    obtain ⟨i, hi⟩ := h.read_fst c
    exact (congrArg ledger hi).trans (h.ledger_withInjection i)
  | write w => exact ledger_startWrite ..

/-- Ending an operation neither creates nor forgets a channel. -/
@[simp]
theorem ledger_resume (h : Hub) (c : Channel) (w : Waiting) :
    (h.resume c w).1.ledger = h.ledger := by
  cases w with
  | attaching due =>
    exact h.ledger_modify c.serial (f := Channel.connect) (fun _ => rfl) fun _ => rfl
  | absent due timeout => rfl
  | writing due w => exact h.ledger_write c.serial w

/-- Neither does ending one that has waited. -/
theorem ledger_conclude (h : Hub) (c : Channel) (w : Waiting) :
    (h.conclude c w).1.ledger = h.ledger := by
  unfold conclude
  split <;> rename_i heq
  all_goals exact (congrArg (fun result => result.1.ledger) heq).symm.trans (ledger_resume ..)

/-- Whatever is done to a channel, none is created or forgotten. -/
theorem ledger_intervene (h : Hub) (now : Nat) (c : Channel) (what : Intervention) :
    (h.intervene now c what).1.ledger = h.ledger := by
  by_cases hw : ∃ io, what = .operate io
  · obtain ⟨io, rfl⟩ := hw
    exact (congrArg ledger (h.operate_fst now c io)).trans (h.ledger_start now c io)
  · have hd := h.intervene_disturbance now c (fun io he => hw ⟨io, he⟩)
    generalize (h.intervene now c what).1 = hub, (h.intervene now c what).2.1 = events at hd ⊢
    cases hd with
    | still _ quiet => rfl
    | changed state =>
      exact h.ledger_modify c.serial (f := fun c => { c with state }) (fun _ => rfl) fun _ => rfl
    | detached =>
      exact h.ledger_modify c.serial (f := fun c => { c with attached := false }) (fun _ => rfl)
        fun _ => rfl
    | attached isOpen =>
      exact h.ledger_modify c.serial (f := fun c => { c with attached := true }) (fun _ => rfl)
        fun _ => rfl

end Hub

namespace Gateway

variable {g g' : Gateway} {now ticket : Nat} {held : Nat → Bool}

@[simp]
theorem ledger_follow (g : Gateway) (now : Nat) (r : Resource) (followup : Followup) :
    (g.follow now r followup).1.hub.ledger = g.hub.ledger := by
  have ho := follow_outcome g now r followup
  generalize g.follow now r followup = result at ho ⊢
  cases ho with
  | written i w => exact (g.hub.withInjection i).ledger_write r.serial w
  | _ => rfl

/-- Using an open name uses its channel, or no channel. -/
theorem resource?_follow {r s : Resource} {followup : Followup}
    (hs : (g.follow now r followup).2.resource? = some s) : s = r := by
  have ho := follow_outcome g now r followup
  generalize g.follow now r followup = result at ho hs
  cases ho with
  | waiting i due w => exact (Option.some.inj hs).symm
  | _ => cases hs

@[simp]
theorem ledger_register (g : Gateway) (now ticket : Nat) (r : Resource) (followup : Followup) :
    (g.register now ticket r followup).1.hub.ledger = g.hub.ledger :=
  ledger_follow ..

@[simp]
theorem ledger_abandon (g : Gateway) (ticket : Nat) (r : Resource) (f : HubFailure) :
    (g.abandon ticket r f).1.hub.ledger = g.hub.ledger :=
  Hub.ledger_startClose ..

theorem ledger_shutdown (g : Gateway) : g.shutdown.hub.ledger = g.hub.ledger :=
  shutdown_keeps (P := fun h => h.ledger = g.hub.ledger)
    (fun _ _ he => (Hub.ledger_startClose ..).trans he) rfl

theorem ledger_attempt {request : OpenRequest} {hub : Hub} {events : List HubEvent}
    {status : IoStatus} (ha : g.attempt now held request = (hub, events, status)) :
    hub.ledger = g.hub.ledger.add (g.holds held) (g.newcomer request).spec := by
  have ho := Hub.ledger_startOpen (g.enlist held request).hub now
    ((g.enlist held request).channelOf (g.newcomer request)) request.timeout
  exact (congrArg (fun result => result.1.ledger) ha).symm.trans
    (ho.trans (Hub.ledger_create ..))

theorem ledger_resume {r : Resource} {w : Waiting} {hub : Hub} {events : List HubEvent}
    {result : Except HubFailure Reply}
    (hr : g.hub.resume (g.channelOf r) w = (hub, events, result)) : hub.ledger = g.hub.ledger :=
  (congrArg (fun result => result.1.ledger) hr).symm.trans (Hub.ledger_resume ..)

theorem ledger_startClose {r : Resource} {hub : Hub} {status : IoStatus}
    (hc : g.hub.startClose (g.channelOf r) = (hub, status)) : hub.ledger = g.hub.ledger :=
  (congrArg (fun result => result.1.ledger) hc).symm.trans (Hub.ledger_startClose ..)

/-- The registered resources are held, and so are those of requests if the others hold them. -/
theorem holds_of_known {standing : Nat → Option Progress} {r : Resource}
    (hheld : ∀ {k s}, (standing k).bind Progress.resource? = some s → held s.serial = true)
    (hr : Known g.registry standing r) : g.holds held r.serial = true := by
  unfold holds registers
  rw [Bool.or_eq_true, List.any_eq_true]
  rcases hr with ⟨name, hr⟩ | ⟨k, hk⟩
  · exact .inl ⟨r, List.mem_map.mpr ⟨(name, r), Table.mem_of_get? hr, rfl⟩, by simp⟩
  · exact .inr (hheld hk)

/-! ## Turnover -/

section

variable {standing : Nat → Option Progress} {p p' : Progress} {r s : Resource}

/-- Using a known name makes nothing known. -/
theorem known_of_follow (hs : Known g.registry standing s) {followup : Followup}
    (hr : Known (g.follow now s followup).1.registry
      (Function.update standing ticket (some (g.follow now s followup).2)) r) :
    Known g.registry standing r := by
  rw [registry_follow] at hr
  refine hr.of_update.elim (fun he => ?_) id
  rwa [resource?_follow he]

/-- Registering a name and using it makes its resource known. -/
theorem known_of_register {followup : Followup}
    (hr : Known (g.register now ticket s followup).1.registry
      (Function.update standing ticket (some (g.register now ticket s followup).2)) r) :
    r = s ∨ Known g.registry standing r := by
  have hinsert : Known (g.registry.insert s) standing s :=
    .inl ⟨s.name, (Registry.resolve_insert ..).trans (if_pos rfl)⟩
  exact (known_of_follow
    (g := ({ g with registry := g.registry.insert s } : Gateway).leaveGate s.name ticket)
    hinsert hr).of_insert

/-- What a request makes of the channels and of what is known. -/
inductive Turnover (held : Nat → Bool) (standing : Nat → Option Progress) (ticket : Nat)
    (g : Gateway) (p : Progress) (g' : Gateway) (p' : Progress) : Prop
  /-- It creates no channel, and makes nothing known. -/
  | keeps (ledger : g'.hub.ledger = g.hub.ledger)
    (next : g'.registry.nextId = g.registry.nextId)
    (known : ∀ {r}, Known g'.registry (Function.update standing ticket (some p')) r →
      Known g.registry standing r)
  /-- It creates a channel for a new resource of its name, and makes nothing else known. -/
  | adds (new : Resource) (own : p.name? = some new.name) (serial : new.serial = g.hub.created)
    (id : new.spec.id = g.registry.nextId)
    (ledger : g'.hub.ledger = g.hub.ledger.add (g.holds held) new.spec)
    (next : g'.registry.nextId = g.registry.nextId + 1)
    (known : ∀ {r}, Known g'.registry (Function.update standing ticket (some p')) r →
      r = new ∨ Known g.registry standing r)

/-- **All that a piece does to the channels and to what is known.** -/
theorem piece_turnover (hs : standing ticket = some p) (hp : g.Piece now held ticket p g' p') :
    Turnover held standing ticket g p g' p' := by
  cases hp with
  | enter job => exact .keeps rfl rfl fun hr => hr.of_rest rfl
  | reuse found =>
    exact .keeps (ledger_follow ..) (by rw [registry_follow]) (known_of_follow (.inl ⟨_, found⟩))
  | @join request followup r turn found =>
    exact .keeps (ledger_follow ..) (by rw [registry_follow]; rfl)
      (known_of_follow (g := g.leaveGate request.name ticket) (.inl ⟨_, found⟩))
  | refuse turn free missing => exact .keeps rfl rfl fun hr => hr.of_rest rfl
  | @create request followup hub events w turn free known attempt =>
    exact .adds (g.newcomer request) rfl rfl rfl (ledger_attempt attempt) rfl fun hr =>
      hr.of_update.imp_left fun he => (Option.some.inj he).symm
  | @createOpen request followup hub events reply turn free known attempt =>
    exact .adds (g.newcomer request) rfl rfl rfl
      ((ledger_register ..).trans (ledger_attempt attempt))
      (by rw [registry_register]; rfl) (known_of_register (g := { g.enlist held request with hub }))
  | @createFailed request followup hub events f turn free known attempt =>
    exact .adds (g.newcomer request) rfl rfl rfl
      ((ledger_abandon ..).trans (ledger_attempt attempt))
      rfl fun hr => .inr (hr.of_rest rfl)
  | @attached r followup w hub events reply due result =>
    refine .keeps ((ledger_register ..).trans (ledger_resume result))
      (by rw [registry_register]; rfl) fun hr => ?_
    refine (known_of_register (g := { g with hub }) hr).elim (fun he => .inr ⟨ticket, ?_⟩) id
    rw [hs, he]
    rfl
  | unattached due result =>
    exact .keeps ((ledger_abandon ..).trans (ledger_resume result)) rfl fun hr => hr.of_rest rfl
  | written due result => exact .keeps (ledger_resume result) rfl fun hr => hr.of_rest rfl
  | unwritten due result => exact .keeps (ledger_resume result) rfl fun hr => hr.of_rest rfl
  | notFound turn free => exact .keeps rfl rfl fun hr => hr.of_rest rfl
  | closeFailed turn found result =>
    exact .keeps (ledger_startClose result) rfl fun hr => hr.of_rest rfl
  | @closed name r hub reply turn found result =>
    have hloses := Registry.removal_loses (.single (.bound g.registry name r.id))
    rw [Registry.removeIfBound_bound found] at hloses
    exact .keeps (ledger_startClose result) rfl fun hr => (hr.of_rest rfl).of_loses hloses.2

/-- **All that a call of `Gateway.advance` does to the channels and to what is known.** -/
theorem advance_turnover (hs : standing ticket = some p)
    (ha : g.advance now held ticket p = some (g', p')) :
    Turnover held standing ticket g p g' p' := by
  obtain ⟨gates, q, hpiece, hq⟩ := advance_last ha
  have hresource : ∀ s, q.resource? = some s → p.resource? = some s := by
    rcases hq with rfl | ⟨job, rfl, rfl⟩
    · exact fun _ => id
    · intro s hs
      cases hs
  have hname : q.name? = p.name? := by
    rcases hq with rfl | ⟨job, rfl, rfl⟩ <;> rfl
  have hlast : Turnover held (Function.update standing ticket (some q)) ticket
      { g with gates } q g' p' := piece_turnover (Function.update_self ..) hpiece
  -- the piece begins where the request stands, but for the gates
  have hknown : ∀ {r}, Known g.registry (Function.update standing ticket (some q)) r →
      Known g.registry standing r := fun hr => hr.of_stay hs hresource
  cases hlast with
  | keeps ledger next known =>
    rw [Function.update_idem] at known
    exact .keeps ledger next fun hr => hknown (known hr)
  | adds new own serial id ledger next known =>
    rw [Function.update_idem] at known
    exact .adds new (hname ▸ own) serial id ledger next fun hr => (known hr).imp_right hknown

end

end Gateway

/-! ## The invariant -/

/-- Every known resource has a channel of its own in a ledger. -/
structure Backed (l : Ledger) (registry : Registry) (standing : Nat → Option Progress) :
    Prop where
  distinct : l.specs.Distinct
  given : ∀ {serial spec}, (serial, spec) ∈ l.specs → serial < l.created
  paired : ∀ {serial spec}, (serial, spec) ∈ l.specs → spec.id = serial + 1
  next : registry.nextId = l.created + 1
  backed : ∀ {r}, Known registry standing r → (r.serial, r.spec) ∈ l.specs
  inj : ∀ {r s}, Known registry standing r → Known registry standing s → r.serial = s.serial → r = s

namespace Backed

variable {l : Ledger} {registry registry' : Registry} {standing standing' : Nat → Option Progress}
  {ticket : Nat} {r s : Resource}

theorem lt_created (h : Backed l registry standing) (hr : Known registry standing r) :
    r.serial < l.created :=
  h.given (h.backed hr)

/-- The identity of a known resource comes with its serial number. -/
theorem id_eq (h : Backed l registry standing) (hr : Known registry standing r) :
    r.id = r.serial + 1 :=
  h.paired (h.backed hr)

theorem known_resolve {name : String} (hr : registry.resolve name = some r) :
    Known registry standing r :=
  .inl ⟨name, hr⟩

theorem known_standing {p : Progress} (hs : standing ticket = some p) (hp : p.resource? = some r) :
    Known registry standing r :=
  .inr ⟨ticket, by rw [hs]; exact hp⟩

/-- The identity of a channel comes with its serial number. -/
theorem id_channel {hub : Hub} (h : Backed hub.ledger registry standing) {serial : Nat}
    {c : Channel} (hc : hub.channel? serial = some c) : c.spec.id = serial + 1 :=
  h.paired (Table.mem_of_get? (by rw [Hub.get?_specs, hc]; rfl))

theorem numbered {hub : Hub} (h : Backed hub.ledger registry standing) : hub.Numbered :=
  fun c hc => h.given (List.mem_map.mpr ⟨c, hc, rfl⟩)

/-- The channel of a known resource. -/
theorem channel? {hub : Hub} (h : Backed hub.ledger registry standing)
    (hr : Known registry standing r) : ∃ c, hub.channel? r.serial = some c ∧ c.spec = r.spec := by
  have hget := Table.get?_of_mem h.distinct (h.backed hr)
  rw [Hub.get?_specs] at hget
  exact Option.map_eq_some_iff.mp hget

/-- Nothing is created or forgotten, and nothing becomes known. -/
theorem keep (h : Backed l registry standing) (next : registry'.nextId = registry.nextId)
    (known : ∀ {r}, Known registry' standing' r → Known registry standing r) :
    Backed l registry' standing' :=
  ⟨h.distinct, h.given, h.paired, next.trans h.next, fun hr => h.backed (known hr),
    fun hr hs => h.inj (known hr) (known hs)⟩

/-- **A channel is created** for a resource that becomes known, and none is forgotten that stays
known. -/
theorem add (h : Backed l registry standing) {held : Nat → Bool} (new : Resource)
    (serial : new.serial = l.created) (id : new.spec.id = registry.nextId)
    (next : registry'.nextId = registry.nextId + 1)
    (known : ∀ {r}, Known registry' standing' r →
      r = new ∨ Known registry standing r ∧ held r.serial = true) :
    Backed (l.add held new.spec) registry' standing' where
  distinct := by
    have hold : (Table.keys (l.specs.filter fun entry => held entry.1)).Nodup :=
      h.distinct.sublist (List.Sublist.map _ List.filter_sublist)
    unfold Ledger.add Table.Distinct Table.keys
    dsimp only
    rw [List.map_append, List.nodup_append]
    refine ⟨hold, by simp, ?_⟩
    rintro a ha b hb rfl
    obtain ⟨⟨k, spec⟩, hmem, rfl⟩ := List.mem_map.mp ha
    have hlt := h.given (List.mem_filter.mp hmem).1
    simp only [List.map_cons, List.map_nil, List.mem_singleton] at hb
    omega
  given {k spec} hmem := by
    rcases List.mem_append.mp hmem with hold | hnew
    · exact Nat.lt_succ_of_lt (h.given (List.mem_filter.mp hold).1)
    · cases List.mem_singleton.mp hnew
      exact Nat.lt_succ_self _
  paired {k spec} hmem := by
    rcases List.mem_append.mp hmem with hold | hnew
    · exact h.paired (List.mem_filter.mp hold).1
    · cases List.mem_singleton.mp hnew
      exact id.trans h.next
  next := next.trans (congrArg (· + 1) h.next)
  backed {r} hr := by
    rcases known hr with rfl | ⟨hr, hheld⟩
    · exact List.mem_append_right _ (by simp [serial])
    · exact List.mem_append_left _ (List.mem_filter.mpr ⟨h.backed hr, hheld⟩)
  inj {r s} hr hs he := by
    -- the new serial number is above those of the resources that were known
    rcases known hr with rfl | ⟨hr, -⟩ <;> rcases known hs with rfl | ⟨hs, -⟩
    · rfl
    · have := h.lt_created hs
      omega
    · have := h.lt_created hr
      omega
    · exact h.inj hr hs he

/-- **A request keeps the invariant**, if the requests hold the channels that they use. -/
theorem turnover {g g' : Gateway} {p p' : Progress} {held : Nat → Bool}
    (h : Backed g.hub.ledger g.registry standing)
    (hheld : ∀ {k s}, (standing k).bind Progress.resource? = some s → held s.serial = true)
    (ht : Gateway.Turnover held standing ticket g p g' p') :
    Backed g'.hub.ledger g'.registry (Function.update standing ticket (some p')) := by
  cases ht with
  | keeps ledger next known =>
    rw [ledger]
    exact h.keep next known
  | adds new own serial id ledger next known =>
    rw [ledger]
    exact h.add new serial id next fun hr =>
      (known hr).imp_right fun hr => ⟨hr, Gateway.holds_of_known hheld hr⟩

end Backed

/-! ## Runs -/

/-- Every known resource of a gateway has a channel of its own. -/
def Traffic.IsBacked (t : Traffic) : Prop :=
  Backed t.gateway.hub.ledger t.gateway.registry t.standing

namespace Traffic.IsBacked

variable {t : Traffic}

/-- What is taken from the registry keeps the invariant, with a hub that neither creates nor
forgets. -/
theorem removal (h : t.IsBacked) {t' : Traffic}
    (ledger : t'.gateway.hub.ledger = t.gateway.hub.ledger)
    (taken : Relation.ReflTransGen Registry.Removal t.gateway.registry t'.gateway.registry)
    (standing : t'.standing = t.standing) : t'.IsBacked := by
  unfold IsBacked
  rw [ledger, standing]
  obtain ⟨hnext, hloses⟩ := Registry.removal_loses taken
  exact h.keep hnext fun hr => hr.of_loses hloses

/-- **Every move keeps the invariant** that puts no other hub in place. -/
theorem step (h : t.IsBacked) {m : Move} (own : ∀ hub, m ≠ .meddle hub) : (t.step m).IsBacked := by
  cases m with
  | arrive ticket jobs =>
    simp only [Traffic.step]
    rcases t.arrive_cases ticket jobs with he | ⟨job, hs, hg, hstanding⟩
    · rwa [he]
    · unfold IsBacked
      rw [hg, hstanding]
      exact h.keep rfl fun hr => hr.of_rest rfl
  | advance ticket outside =>
    simp only [Traffic.step]
    rcases t.advance_cases ticket outside with
      he | ⟨outcome, job, hs, hg, hstanding⟩ | ⟨p, g, p', hs, ha, hg, hstanding⟩
    · rwa [he]
    · unfold IsBacked
      rw [hg, hstanding]
      exact h.keep rfl fun hr => hr.of_rest rfl
    · unfold IsBacked
      rw [hg, hstanding]
      have hheld : ∀ {k s}, (t.standing k).bind Progress.resource? = some s →
          t.held outside s.serial = true := by
        intro k s hk
        obtain ⟨q, hq, hqs⟩ := Option.bind_eq_some_iff.mp hk
        exact held_of_standing outside hq (Progress.holds_iff.mpr ⟨s, hqs, rfl⟩)
      exact Backed.turnover h hheld (Gateway.advance_turnover hs ha)
  | cancel ticket =>
    simp only [Traffic.step]
    rcases t.cancel_cases ticket with he | ⟨p, hs, hg, hstanding⟩
    · rwa [he]
    · unfold IsBacked
      rw [hg, hstanding, Gateway.hub_cancel, Gateway.registry_cancel]
      exact h.keep rfl fun hr => hr.of_rest rfl
  | intervene serial what =>
    simp only [Traffic.step]
    rcases t.intervene_cases serial what with he | ⟨c, hub, events, effect, hc, hi, he⟩
    · rwa [he]
    · have hledger := t.gateway.hub.ledger_intervene t.now c what
      rw [hi] at hledger
      rw [he]
      exact h.removal ((congrArg Hub.ledger (Gateway.hub_observeAll ..)).trans hledger)
        (Gateway.registry_observeAll { t.gateway with hub } events) rfl
  | tell event =>
    exact h.removal (congrArg Hub.ledger (t.gateway.hub_observeAll [event]))
      (t.gateway.registry_observeAll [event]) rfl
  | forget name id => exact h.removal rfl (.single (.bound _ name id)) rfl
  | drain => exact h.removal rfl (.single (.all _)) rfl
  | shutdown =>
    have hregistry : t.gateway.shutdown.registry = t.gateway.registry.drain.2 := by
      rw [Gateway.shutdown_eq]
    exact h.removal t.gateway.ledger_shutdown (hregistry ▸ .single (.all _)) rfl
  | snapshot =>
    obtain ⟨i, hi⟩ := t.gateway.snapshot_snd
    simp only [Traffic.step]
    rw [hi]
    exact h
  | wait ms => exact h
  | deliver receivers => exact h
  | settle => exact h
  | meddle hub => exact absurd rfl (own hub)

/-- Every run keeps the invariant that puts no other hub in place. -/
theorem later (h : t.IsBacked) {moves : List Move} (own : ∀ m ∈ moves, ∀ hub, m ≠ .meddle hub) :
    (t.run moves).IsBacked :=
  run_induction_of h (fun _ _ own h => h.step own) own

/-- **Every known resource has a channel of its own** after every run from the beginning. -/
theorem run (gateway : GatewayConfig) (config : HubConfig) (seed : UInt64) {moves : List Move}
    (own : ∀ m ∈ moves, ∀ hub, m ≠ .meddle hub) :
    ((ofGateway (.ofConfig gateway (.ofConfig config seed))).run moves).IsBacked := by
  refine later ?_ own
  have hnone : ∀ {r},
      ¬ Known .empty (ofGateway (.ofConfig gateway (.ofConfig config seed))).standing r := by
    rintro r (⟨name, hr⟩ | ⟨k, hk⟩)
    · cases hr
    · cases hk
  exact ⟨.nil, fun hmem => (by cases hmem), fun hmem => (by cases hmem), rfl,
    fun hr => absurd hr hnone, fun hr => absurd hr hnone⟩

end Traffic.IsBacked

end ChannelGateway
