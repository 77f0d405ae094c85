import ChannelGateway.Proofs.Orderly

/-!
# The hub agrees with the registry

`Sound` couples the registry to the channels of the hub: the channel of a registered resource is
open and attached, stands at a place of the hub and has the kind of the resource. A name is
registered after its channel has opened and forgotten when it is closed or detached, so the coupling
holds as long as two names never share a channel. That they do not is `Orderly`: channels of one
serial number have one identity.

A request that waits for its channel is part of the invariant, since what it registers later is a
channel that events may reach while it sleeps. Of such a channel only the specification is relied
on: whether it is attached does not matter before it opens.

Results:
* `Sound.modify`: what may be done to a channel.
* **`Sound.piece`**: a piece of a request keeps the coupling.
-/

namespace ChannelGateway

/-- The channel of a resource is open and attached, at a place of the hub, and of its kind. -/
structure Hub.Usable (config : HubConfig) (h : Hub) (r : Resource) : Prop where
  link : h.link r.serial = some (r.spec, true, true)
  place : config.contains r.spec.address = true
  kind : r.kind = r.spec.kind

/-- The channel of a resource exists, and will open only at a place of the hub. -/
structure Hub.Awaited (config : HubConfig) (h : Hub) (r : Resource) (w : Waiting) : Prop where
  link : ∃ o a, h.link r.serial = some (r.spec, o, a)
  place : ∀ due, w = .attaching due → config.contains r.spec.address = true
  kind : r.kind = r.spec.kind
  opens : ∀ due v, w ≠ .writing due v

/-- The channels of a hub agree with the registry and with where the tasks stand. -/
structure Sound (config : HubConfig) (hub : Hub) (registry : Registry)
    (standing : Nat → Option Progress) : Prop where
  config_eq : hub.config = config
  numbered : hub.Numbered
  usable : ∀ {name r}, registry.resolve name = some r → hub.Usable config r
  awaited : ∀ {k r f w}, standing k = some (.opening r f w) → hub.Awaited config r w
  written : ∀ {k r w}, standing k = some (.writing r w) → ∃ due v, w = .writing due v

namespace Sound

variable {config : HubConfig} {hub : Hub} {registry : Registry}
  {standing : Nat → Option Progress} {ticket : Nat}

/-- A hub with the same channels, as far as their links show. -/
theorem of_links (h : Sound config hub registry standing) {hub' : Hub}
    (hconfig : hub'.config = hub.config) (hnumbered : hub'.Numbered)
    (hlinks : ∀ serial, hub'.link serial = hub.link serial) :
    Sound config hub' registry standing where
  config_eq := hconfig.trans h.config_eq
  numbered := hnumbered
  usable hr := by
    have hu := h.usable hr
    exact ⟨(hlinks _).trans hu.link, hu.place, hu.kind⟩
  awaited hk := by
    have ha := h.awaited hk
    obtain ⟨o, a, hl⟩ := ha.link
    exact ⟨⟨o, a, (hlinks _).trans hl⟩, ha.place, ha.kind, ha.opens⟩
  written := h.written

theorem withInjection (h : Sound config hub registry standing) (i : Injection) :
    Sound config (hub.withInjection i) registry standing :=
  h.of_links rfl h.numbered fun _ => rfl

/-- A registry with fewer names. -/
theorem lose (h : Sound config hub registry standing) {registry' : Registry}
    (hl : ∀ {name r}, registry'.resolve name = some r → registry.resolve name = some r) :
    Sound config hub registry' standing :=
  ⟨h.config_eq, h.numbered, fun hr => h.usable (hl hr), h.awaited, h.written⟩

/-- A task goes to another place. -/
theorem place (h : Sound config hub registry standing) {q : Option Progress}
    (hopening : ∀ {r f w}, q = some (.opening r f w) → hub.Awaited config r w)
    (hwriting : ∀ {r w}, q = some (.writing r w) → ∃ due v, w = .writing due v) :
    Sound config hub registry (Function.update standing ticket q) where
  config_eq := h.config_eq
  numbered := h.numbered
  usable := h.usable
  awaited {k r f w} hk := by
    by_cases hkt : k = ticket
    · subst hkt
      rw [Function.update_self] at hk
      exact hopening hk
    · rw [Function.update_of_ne hkt] at hk
      exact h.awaited hk
  written {k r w} hk := by
    by_cases hkt : k = ticket
    · subst hkt
      rw [Function.update_self] at hk
      exact hwriting hk
    · rw [Function.update_of_ne hkt] at hk
      exact h.written hk

/-- A task goes where it waits for no channel. -/
theorem rest (h : Sound config hub registry standing) {q : Option Progress}
    (hq : (q.bind Progress.due?) = none) :
    Sound config hub registry (Function.update standing ticket q) := by
  refine h.place (fun {r f w} he => ?_) (fun {r w} he => ?_)
  · rw [he] at hq
    cases hq
  · rw [he] at hq
    cases hq

/-- **What may be done to a channel**: anything that keeps its specification, and keeps it open and
attached if it is registered. -/
theorem modify (h : Sound config hub registry standing) (serial : Nat) {f : Channel → Channel}
    (hserial : ∀ c, (f c).serial = c.serial) (hspec : ∀ c, (f c).spec = c.spec)
    (hkeep : ∀ {name r}, registry.resolve name = some r → r.serial = serial →
      ∀ c, c.isOpen = true → c.attached = true → (f c).isOpen = true ∧ (f c).attached = true) :
    Sound config (hub.modify serial f) registry standing where
  config_eq := h.config_eq
  numbered := h.numbered.modify serial hserial
  usable {name r} hr := by
    have hu := h.usable hr
    refine ⟨?_, hu.place, hu.kind⟩
    rw [Hub.link_modify hub serial r.serial hserial]
    split
    · rename_i hs
      obtain ⟨c, hc, hl⟩ := Option.map_eq_some_iff.mp hu.link
      simp only [Prod.mk.injEq] at hl
      obtain ⟨hcspec, hopen, hattached⟩ := hl
      obtain ⟨hopen', hattached'⟩ := hkeep hr hs c hopen hattached
      rw [hc, Option.map_some, hspec, hcspec, hopen', hattached']
    · exact hu.link
  awaited {k r g w} hk := by
    have ha := h.awaited hk
    refine ⟨?_, ha.place, ha.kind, ha.opens⟩
    obtain ⟨o, a, hl⟩ := ha.link
    rw [Hub.link_modify hub serial r.serial hserial]
    split
    · obtain ⟨c, hc, hl⟩ := Option.map_eq_some_iff.mp hl
      simp only [Prod.mk.injEq] at hl
      refine ⟨(f c).isOpen, (f c).attached, ?_⟩
      rw [hc, Option.map_some, hspec, hl.1]
    · exact ⟨o, a, hl⟩
  written := h.written

/-- A value may be written to any channel. -/
theorem write (h : Sound config hub registry standing) (serial : Nat) (v : Write) :
    Sound config (hub.modify serial v.apply) registry standing := by
  refine h.modify serial (fun c => ?_) (fun c => ?_) fun _ _ c hopen hattached => ?_
  · cases v <;> rfl
  · cases v <;> rfl
  · cases v <;> exact ⟨hopen, hattached⟩

/-- A channel may be connected. -/
theorem connect (h : Sound config hub registry standing) (serial : Nat) :
    Sound config (hub.modify serial Channel.connect) registry standing :=
  h.modify serial (fun _ => rfl) (fun _ => rfl) fun _ _ _ _ _ => ⟨rfl, rfl⟩

/-- A channel may be closed that is not registered. -/
theorem close (h : Sound config hub registry standing) {c : Channel}
    (hfree : ∀ {name r}, registry.resolve name = some r → r.serial ≠ c.serial) :
    Sound config (hub.startClose c).1 registry standing := by
  have ho := Hub.startClose_outcome hub c
  generalize hub.startClose c = result at ho ⊢
  cases ho with
  | failed i f => exact h.withInjection i
  | closed i =>
    exact (h.withInjection i).modify c.serial (fun _ => rfl) (fun _ => rfl)
      fun hr hs => absurd hs (hfree hr)

/-- A resource may be registered whose channel is usable. -/
theorem insert (h : Sound config hub registry standing) {r : Resource}
    (hu : hub.Usable config r) : Sound config hub (registry.insert r) standing where
  config_eq := h.config_eq
  numbered := h.numbered
  usable {name s} hs := by
    rw [Registry.resolve_insert] at hs
    split at hs
    · cases hs
      exact hu
    · exact h.usable hs
  awaited := h.awaited
  written := h.written

/-- A channel may be created if nobody lets go of the ones that are relied on. -/
theorem create (h : Sound config hub registry standing) {held : Nat → Bool} (spec : ChannelSpec)
    (hregistered : ∀ {name r}, registry.resolve name = some r → held r.serial = true)
    (hopening : ∀ {k r f w}, standing k = some (.opening r f w) → held r.serial = true) :
    Sound config (hub.create held spec) registry standing := by
  have hlink : ∀ {serial l}, hub.link serial = some l → held serial = true →
      (hub.create held spec).link serial = some l := by
    intro serial l hl hheld
    have hne := Nat.ne_of_lt (h.numbered.lt_of_link hl)
    unfold Hub.link at hl ⊢
    rw [Hub.channel?_create_of_ne spec hheld hne, hl]
  refine ⟨h.config_eq, h.numbered.create held spec, fun hr => ?_, fun hk => ?_, h.written⟩
  · have hu := h.usable hr
    exact ⟨hlink hu.link (hregistered hr), hu.place, hu.kind⟩
  · have ha := h.awaited hk
    obtain ⟨o, a, hl⟩ := ha.link
    exact ⟨⟨o, a, hlink hl (hopening hk)⟩, ha.place, ha.kind, ha.opens⟩

/-- The channel of a serial number was created for one specification. -/
theorem spec_eq (h : Sound config hub registry standing) {name : String} {r s : Resource}
    {o a : Bool} (hr : registry.resolve name = some r)
    (hs : hub.link s.serial = some (s.spec, o, a)) (he : r.serial = s.serial) :
    r.spec = s.spec := by
  have hl := (h.usable hr).link
  rw [he, hs] at hl
  exact (congrArg Prod.fst (Option.some.inj hl)).symm

/-- Using an open name keeps the coupling. -/
theorem follow {g : Gateway} (h : Sound config g.hub g.registry standing) (now : Nat) (r : Resource)
    (followup : Followup) :
    Sound config (g.follow now r followup).1.hub (g.follow now r followup).1.registry
      (Function.update standing ticket (some (g.follow now r followup).2)) := by
  have ho := Gateway.follow_outcome g now r followup
  generalize g.follow now r followup = result at ho ⊢
  cases ho with
  | subscribed s => exact h.rest rfl
  | written i w => exact ((h.withInjection i).write r.serial w).rest rfl
  | failed i f => exact (h.withInjection i).rest rfl
  | waiting i due w =>
    refine (h.withInjection i).place (fun {_ _ _} he => by cases he) fun {_ w'} he => ?_
    cases he
    exact ⟨due, w, rfl⟩

/-- Registering a resource whose channel is usable keeps the coupling. -/
theorem register {g : Gateway} (h : Sound config g.hub g.registry standing) {r : Resource}
    (hu : g.hub.Usable config r) (now : Nat) (followup : Followup) :
    Sound config (g.register now ticket r followup).1.hub
      (g.register now ticket r followup).1.registry
      (Function.update standing ticket (some (g.register now ticket r followup).2)) :=
  (h.insert hu).follow (g := { g with registry := g.registry.insert r }.leaveGate r.name ticket) now
    r followup

/-- Giving up a channel that is not registered keeps the coupling. -/
theorem abandon {g : Gateway} (h : Sound config g.hub g.registry standing) {r : Resource}
    (hfree : ∀ {name s}, g.registry.resolve name = some s → s.serial ≠ r.serial) (f : HubFailure) :
    Sound config (g.abandon ticket r f).1.hub (g.abandon ticket r f).1.registry
      (Function.update standing ticket (some (g.abandon ticket r f).2)) := by
  have hclosed := h.close (c := g.channelOf r) (fun hr => by
    rw [Gateway.serial_channelOf]
    exact hfree hr)
  exact hclosed.rest rfl

/-! ## Creating a channel -/

section

variable {g : Gateway} {held : Nat → Bool}

/-- The hub after a channel has been created for a request. -/
theorem enlist (h : Sound config g.hub g.registry standing)
    (hheld : ∀ {k r f w}, standing k = some (.opening r f w) → held r.serial = true)
    (request : OpenRequest) :
    Sound config (g.enlist held request).hub g.registry.takeId.2 standing := by
  have hregistered : ∀ {name r}, g.registry.resolve name = some r →
      g.holds held r.serial = true := by
    intro name r hr
    have hmem : r ∈ g.registry.resources :=
      List.mem_map.mpr ⟨(name, r), Table.mem_of_get? hr, rfl⟩
    unfold Gateway.holds Gateway.registers
    rw [Bool.or_eq_true, List.any_eq_true]
    exact .inl ⟨r, hmem, by simp⟩
  have hopening : ∀ {k r f w}, standing k = some (.opening r f w) →
      g.holds held r.serial = true := by
    intro k r f w hk
    unfold Gateway.holds
    rw [hheld hk, Bool.or_true]
  exact (h.create (g.newcomer request).spec hregistered hopening).lose fun hr => hr

theorem channel?_enlist (h : Sound config g.hub g.registry standing) (request : OpenRequest) :
    (g.enlist held request).hub.channel? (g.newcomer request).serial =
      some (.fresh g.hub.created (g.newcomer request).spec) :=
  Gateway.channel?_enlist h.numbered held request

/-- No registered name has the channel that has just been created. -/
theorem serial_newcomer (h : Sound config g.hub g.registry standing) (request : OpenRequest)
    {name : String} {r : Resource} (hr : g.registry.resolve name = some r) :
    r.serial ≠ (g.newcomer request).serial :=
  Nat.ne_of_lt (h.numbered.lt_of_link (h.usable hr).link)

/-- All that beginning to open the new channel can do. -/
theorem attempt_outcome (h : Sound config g.hub g.registry standing) {now : Nat}
    {request : OpenRequest} {hub : Hub} {events : List HubEvent} {status : IoStatus}
    (attempt : g.attempt now held request = (hub, events, status)) :
    Hub.OpenOutcome (g.enlist held request).hub (.fresh g.hub.created (g.newcomer request).spec)
      request.timeout (hub, events, status) :=
  Gateway.attempt_outcome h.numbered attempt

end

/-! ## Pieces -/

/-- The channel that a request waits for is not registered. -/
theorem serial_awaited (h : Sound config hub registry standing) {gates : Gates}
    (ho : Orderly registry gates standing) {k : Nat} {r : Resource} {f : Followup} {w : Waiting}
    (hk : standing k = some (.opening r f w)) {name : String} {s : Resource}
    (hs : registry.resolve name = some s) : s.serial ≠ r.serial := by
  intro he
  obtain ⟨o, a, hl⟩ := (h.awaited hk).link
  have hid : s.id = r.id := congrArg ChannelSpec.id (h.spec_eq hs hl he)
  have hn := ho.consistent.nameFor_eq hs
  rw [hid, (ho.awaits hk).unused] at hn
  cases hn

/-- Two names have channels of different serial numbers. -/
theorem name_eq_of_serial (h : Sound config hub registry standing) (hc : registry.Consistent)
    {name other : String} {r s : Resource} (hr : registry.resolve name = some r)
    (hs : registry.resolve other = some s) (he : s.serial = r.serial) : name = other := by
  have hspec := h.spec_eq hs (h.usable hr).link he
  exact hc.name_inj hr hs (congrArg ChannelSpec.id hspec).symm

/-- The resource of a channel that opens where it is expected to be is usable. -/
theorem usable_connect {r : Resource} {c : Channel} (hc : hub.channel? r.serial = some c)
    (hspec : c.spec = r.spec) (place : config.contains r.spec.address = true)
    (kind : r.kind = r.spec.kind) :
    (hub.modify r.serial Channel.connect).Usable config r := by
  refine ⟨?_, place, kind⟩
  rw [Hub.link_modify hub r.serial r.serial (f := Channel.connect) fun _ => rfl, if_pos rfl, hc,
    ← hspec]
  rfl

/-- **A piece of a request keeps the coupling**, if whoever waits for a channel holds it. -/
theorem piece {g g' : Gateway} {p p' : Progress} {now : Nat} {held : Nat → Bool}
    (h : Sound config g.hub g.registry standing) (ho : Orderly g.registry g.gates standing)
    (hheld : ∀ {k r f w}, standing k = some (.opening r f w) → held r.serial = true)
    (hs : standing ticket = some p) (hp : g.Piece now held ticket p g' p') :
    Sound config g'.hub g'.registry (Function.update standing ticket (some p')) := by
  cases hp with
  | enter job => exact h.rest rfl
  | @reuse request followup r found => exact h.follow now r followup
  | @join request followup r turn found =>
    exact h.follow (g := g.leaveGate request.name ticket) now r followup
  | refuse turn free missing => exact h.rest rfl
  | @create request followup hub events w turn free known attempt =>
    have henlist := h.enlist hheld request
    have houtcome := h.attempt_outcome attempt
    have hlink : ∀ i, ((g.enlist held request).hub.withInjection i).link
        (g.newcomer request).serial = some ((g.newcomer request).spec, false, false) := by
      intro i
      rw [Hub.link_withInjection, Hub.link, h.channel?_enlist]
      rfl
    cases houtcome with
    | attaching i due place =>
      refine (henlist.withInjection i).place (fun {_ _ _} he => ?_) fun {_ _} he => by cases he
      cases he
      refine ⟨⟨_, _, hlink i⟩, fun _ _ => ?_, rfl, fun _ _ hw => by cases hw⟩
      rw [← h.config_eq]
      exact place
    | absent i due =>
      refine (henlist.withInjection i).place (fun {_ _ _} he => ?_) fun {_ _} he => by cases he
      cases he
      exact ⟨⟨_, _, hlink i⟩, fun _ hw => (by cases hw), rfl, fun _ _ hw => by cases hw⟩
  | @createOpen request followup hub events reply turn free known attempt =>
    have henlist := h.enlist hheld request
    have houtcome := h.attempt_outcome attempt
    cases houtcome with
    | already i isOpen => cases isOpen
    | opened i place =>
      refine ((henlist.withInjection i).connect _).register
        (g := { g.enlist held request with hub := _ }) ?_ now followup
      refine usable_connect (c := .fresh g.hub.created (g.newcomer request).spec) ?_ rfl ?_ rfl
      · exact h.channel?_enlist request
      · rw [← h.config_eq]
        exact place
  | @createFailed request followup hub events f turn free known attempt =>
    have henlist := h.enlist hheld request
    have houtcome := h.attempt_outcome attempt
    cases houtcome with
    | failed i _ =>
      exact (henlist.withInjection i).abandon (g := { g.enlist held request with hub := _ })
        (fun hr => h.serial_newcomer request hr) f
  | @attached r followup w hub events reply due result =>
    have ha := h.awaited hs
    cases w with
    | attaching t =>
      cases result
      obtain ⟨o, a, hl⟩ := ha.link
      obtain ⟨c, hc, hlc⟩ := Option.map_eq_some_iff.mp hl
      rw [Gateway.serial_channelOf]
      refine (h.connect r.serial).register (g := { g with hub := _ }) ?_ now followup
      exact usable_connect hc (congrArg Prod.fst hlc) (ha.place t rfl) ha.kind
    | absent t timeout => cases result
    | writing t v => exact absurd rfl (ha.opens t v)
  | @unattached r followup w hub events f due result =>
    have ha := h.awaited hs
    cases w with
    | attaching t => cases result
    | absent t timeout =>
      cases result
      exact h.abandon (fun hr => h.serial_awaited ho hs hr) _
    | writing t v => exact absurd rfl (ha.opens t v)
  | @written r w hub events reply due result =>
    obtain ⟨t, v, rfl⟩ := h.written hs
    cases result
    exact (h.write _ v).rest rfl
  | @unwritten r w hub events f due result =>
    obtain ⟨t, v, rfl⟩ := h.written hs
    cases result
  | notFound turn free => exact h.rest rfl
  | @closeFailed name r hub f turn found result =>
    have houtcome := Hub.startClose_outcome g.hub (g.channelOf r)
    rw [result] at houtcome
    cases houtcome with
    | failed i _ => exact (h.withInjection i).rest rfl
  | @closed name r hub reply turn found result =>
    have hdropped : ∀ {other s}, (g.registry.drop name r.id).resolve other = some s →
        name ≠ other ∧ g.registry.resolve other = some s := by
      intro other s hr
      rw [Registry.resolve_drop] at hr
      split at hr
      · cases hr
      · exact ⟨by assumption, hr⟩
    have hclosed := (h.lose fun hr => (hdropped hr).2).close (c := g.channelOf r) fun hr he => by
      rw [Gateway.serial_channelOf] at he
      exact (hdropped hr).1 (h.name_eq_of_serial ho.consistent found (hdropped hr).2 he)
    rw [result] at hclosed
    exact hclosed.rest rfl

end Sound

end ChannelGateway
