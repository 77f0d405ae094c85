import ChannelGateway.Proofs.Reading
import ChannelGateway.Proofs.Sound

/-!
# Registered means usable

What can happen to the channels of a gateway without anybody operating them directly: requests, in
any order and given up anywhere, and attachments, detachments, faults and changes of any channel at
any time. Every such move keeps `Sound`, so a registered name always has an open and attached
channel, with any configuration of injected faults. A status record then tells what the channel
reads, or which injected fault has failed the reading.

Results:
* `Sound.step`: every move keeps the coupling that operates no channel directly.
* `statuses_usable`: the status records of usable resources.
* **`registered_usable`**: the registered resources and their status records after every run.
-/

namespace ChannelGateway

/-! ## Moves -/

namespace Sound

variable {config : HubConfig}

/-- What the gateway does about events keeps the coupling. -/
theorem observeAll {g : Gateway} {standing : Nat → Option Progress}
    (h : Sound config g.hub g.registry standing) (events : List HubEvent) :
    Sound config (g.observeAll events).hub (g.observeAll events).registry standing := by
  rw [Gateway.hub_observeAll]
  exact h.lose (Registry.removal_loses (g.registry_observeAll events)).2

/-- Forgetting every name keeps the coupling. -/
theorem drain {hub : Hub} {registry : Registry} {standing : Nat → Option Progress}
    (h : Sound config hub registry standing) : Sound config hub registry.drain.2 standing :=
  h.lose fun hr => by simp at hr

/-- The channels of forgotten names may be closed. -/
theorem closeAll {g : Gateway} {standing : Nat → Option Progress} {registry : Registry}
    (h : Sound config g.hub registry.drain.2 standing) (resources : List Resource) :
    Sound config (g.closeAll resources).hub registry.drain.2 standing := by
  refine Gateway.closeAll_keeps (P := fun hub => Sound config hub registry.drain.2 standing)
    (fun hub c hs => hs.close fun hr => ?_) h resources
  rw [Registry.resolve_drain] at hr
  cases hr

/-- Shutting down keeps the coupling. -/
theorem shutdown {g : Gateway} {standing : Nat → Option Progress}
    (h : Sound config g.hub g.registry standing) :
    Sound config g.shutdown.hub g.shutdown.registry standing := by
  rw [Gateway.shutdown_eq]
  exact h.drain.closeAll (g := { g with registry := g.registry.drain.2 }) g.registry.resources

/-- What happens to a channel by itself keeps the coupling: a registered channel that is detached is
forgotten. -/
theorem disturbance {g : Gateway} {standing : Nat → Option Progress}
    (h : Sound config g.hub g.registry standing) (hc : g.registry.Consistent) {c : Channel}
    (hchannel : g.hub.channel? c.serial = some c) {hub : Hub} {events : List HubEvent}
    (hd : Hub.Disturbance g.hub c (hub, events)) :
    Sound config ({ g with hub }.observeAll events).hub
      ({ g with hub }.observeAll events).registry standing := by
  cases hd with
  | still _ quiet => exact h.observeAll events
  | changed state =>
    have hchanged :=
      h.modify c.serial (f := fun c => { c with state }) (fun _ => rfl) (fun _ => rfl)
      fun _ _ _ hopen hattached => ⟨hopen, hattached⟩
    exact hchanged.observeAll (g := { g with hub := _ }) _
  | attached isOpen =>
    have hattached := h.modify c.serial (f := fun c => { c with attached := true }) (fun _ => rfl)
      (fun _ => rfl) fun _ _ _ hopen _ => ⟨hopen, rfl⟩
    exact hattached.observeAll (g := { g with hub := _ }) _
  | detached =>
    have hlost : ∀ {name r}, (g.registry.removeChannel c.spec.id).2.resolve name = some r →
        g.registry.resolve name = some r :=
      (Registry.removal_loses (g.registry.removal_channel c.spec.id)).2
    refine (h.lose hlost).modify c.serial (fun _ => rfl) (fun _ => rfl) fun {name r} hr hs => ?_
    -- the event has removed whoever was registered with this channel
    have hl := (h.usable (hlost hr)).link
    rw [hs, Hub.link, hchannel, Option.map_some, Option.some.injEq, Prod.mk.injEq] at hl
    have hgone := hc.removeChannel_self (hlost hr)
    rw [Resource.id, ← hl.1, hr] at hgone
    cases hgone

/-- **Every move keeps the coupling** that operates no channel directly. -/
theorem step {t : Traffic} (h : Sound config t.gateway.hub t.gateway.registry t.standing)
    (ho : t.IsOrderly) {m : Move} (own : m.isForeign = false) :
    Sound config (t.step m).gateway.hub (t.step m).gateway.registry (t.step m).standing := by
  cases m with
  | arrive ticket jobs =>
    simp only [Traffic.step]
    rcases t.arrive_cases ticket jobs with he | ⟨job, hs, hg, hstanding⟩
    · rwa [he]
    · rw [hg, hstanding]
      exact h.rest rfl
  | advance ticket outside =>
    simp only [Traffic.step]
    rcases t.advance_cases ticket outside with
      he | ⟨outcome, job, hs, hg, hstanding⟩ | ⟨p, g, p', hs, ha, hg, hstanding⟩
    · rwa [he]
    · rw [hg, hstanding]
      exact h.rest rfl
    · rw [hg, hstanding]
      have hheld : ∀ {k r f w}, t.standing k = some (.opening r f w) →
          t.held outside r.serial = true :=
        fun hk => Traffic.held_of_standing outside hk (by simp [Progress.holds])
      rcases Gateway.advance_piece ha with hone | ⟨job, rfl, htwo⟩
      · exact h.piece ho hheld hs hone
      · have hentered := Orderly.enter ho (by rw [hs]; rfl) job
        have hboth := Sound.piece
          (g := { t.gateway with gates := t.gateway.gates.enter job.name ticket }) (h.rest rfl)
          hentered ?_ (Function.update_self ..) htwo
        · rwa [Function.update_idem] at hboth
        · intro k r f w hk
          exact hheld (Orderly.opening_of_update (by simp) hk).2
  | cancel ticket =>
    simp only [Traffic.step]
    rcases t.cancel_cases ticket with he | ⟨p, hs, hg, hstanding⟩
    · rwa [he]
    · rw [hg, hstanding, Gateway.hub_cancel, Gateway.registry_cancel]
      exact h.rest rfl
  | intervene serial what =>
    simp only [Traffic.step]
    rcases t.intervene_cases serial what with he | ⟨c, hub, events, effect, hc, hi, he⟩
    · rwa [he]
    · have hwhat : ∀ io, what ≠ .operate io := by
        rintro io rfl
        cases own
      have hd := t.gateway.hub.intervene_disturbance t.now c hwhat
      rw [hi] at hd
      rw [he]
      have hserial := Hub.serial_of_channel? hc
      exact h.disturbance (Orderly.consistent ho) (hserial ▸ hc) hd
  | tell event => exact h.observeAll [event]
  | forget name id => exact h.lose (Registry.removal_loses (.single (.bound _ name id))).2
  | drain => exact h.drain
  | shutdown => exact h.shutdown
  | snapshot =>
    obtain ⟨i, hi⟩ := t.gateway.snapshot_snd
    simp only [Traffic.step]
    rw [hi]
    exact h.withInjection i
  | wait ms => exact h
  | deliver receivers => exact h
  | settle => exact h
  | meddle hub => cases own

/-- A hub on which nothing has been created agrees with a gateway on which nothing is open. -/
theorem ofConfig (gateway : GatewayConfig) (config : HubConfig) (seed : UInt64) :
    let t := Traffic.ofGateway (.ofConfig gateway (.ofConfig config seed))
    Sound config t.gateway.hub t.gateway.registry t.standing where
  config_eq := rfl
  numbered := fun c hc => by cases hc
  usable hr := by cases hr
  awaited hk := by cases hk
  written hk := by cases hk

/-- **Every run keeps the coupling** that operates no channel directly. -/
theorem run (gateway : GatewayConfig) (config : HubConfig) (seed : UInt64) {moves : List Move}
    (own : ∀ m ∈ moves, m.isForeign = false) :
    let t := (Traffic.ofGateway (.ofConfig gateway (.ofConfig config seed))).run moves
    t.IsOrderly ∧ Sound config t.gateway.hub t.gateway.registry t.standing :=
  Traffic.run_induction_of
    (P := fun t => t.IsOrderly ∧ Sound config t.gateway.hub t.gateway.registry t.standing)
    ⟨Traffic.isOrderly_run gateway _ [], ofConfig gateway config seed⟩
    (fun _ m own h => ⟨h.1.step m, h.2.step h.1 own⟩) own

end Sound

/-! ## Status records -/

namespace Gateway

variable {config : HubConfig} {g : Gateway}

/-- The status record of a usable resource. -/
theorem status_usable {r : Resource} (hu : g.hub.Usable config r) :
    ∃ c, g.hub.channel? r.serial = some c ∧ c.spec.kind = r.kind ∧
      g.status r = (⟨r.name, r.kind, c.reading g.hub.injection⟩,
        { g with hub := g.hub.withInjection (g.hub.injection.check r.kind.reader).2 }) := by
  obtain ⟨c, hc, hl⟩ := Option.map_eq_some_iff.mp hu.link
  simp only [Prod.mk.injEq] at hl
  have hkind : c.spec.kind = r.kind := by rw [hl.1, hu.kind]
  have hchannel : g.channelOf r = c := by
    unfold channelOf
    rw [hc]
    rfl
  obtain ⟨hhub, hreading⟩ := g.hub.read_attached hl.2.2
  refine ⟨c, hc, hkind, ?_⟩
  unfold status
  rw [hchannel, ← hreading, ← hkind, ← hhub]

/-- **The status records of usable resources.** -/
theorem statuses_usable {resources : List Resource}
    (hu : ∀ r ∈ resources, g.hub.Usable config r) :
    ∀ s ∈ (g.statuses resources).1, ∃ r ∈ resources, ∃ c ops, g.hub.channel? r.serial = some c ∧
      c.spec.kind = r.kind ∧ s = ⟨r.name, r.kind, c.reading (g.hub.injection.after ops)⟩ := by
  induction resources generalizing g with
  | nil =>
    intro s hs
    cases hs
  | cons r rest ih =>
    obtain ⟨c, hc, hkind, hstatus⟩ := status_usable (hu r List.mem_cons_self)
    intro s hs
    simp only [statuses, hstatus] at hs
    rcases List.mem_cons.mp hs with rfl | hs
    · exact ⟨r, List.mem_cons_self, c, [], hc, hkind, rfl⟩
    · have hrest : ∀ r' ∈ rest, (g.hub.withInjection
          (g.hub.injection.check r.kind.reader).2).Usable config r' := fun r' hr' => by
        have hu' := hu r' (List.mem_cons_of_mem r hr')
        exact ⟨hu'.link, hu'.place, hu'.kind⟩
      obtain ⟨r', hr', c', ops, hc', hkind', hs'⟩ := ih hrest s hs
      exact ⟨r', List.mem_cons_of_mem r hr', c', r.kind.reader :: ops, hc', hkind', hs'⟩

end Gateway

/-- **Registered means usable.** After every run in which nobody operates a channel directly, the
channel of a registered resource is open and attached, at a place of the hub, and has the kind of
the resource; and the status record of a name tells what its channel reads, or which injected fault
has failed the reading. -/
theorem registered_usable (gateway : GatewayConfig) (config : HubConfig) (seed : UInt64)
    (moves : List Move) (own : ∀ m ∈ moves, m.isForeign = false) :
    let t := (Traffic.ofGateway (.ofConfig gateway (.ofConfig config seed))).run moves
    (∀ name r, t.gateway.registry.resolve name = some r →
      ∃ c, t.gateway.hub.channel? r.serial = some c ∧ c.spec = r.spec ∧ c.isOpen = true ∧
        c.attached = true ∧ config.contains c.spec.address = true ∧
        0 ≤ c.spec.address.hubPort.toInt ∧ 0 ≤ c.spec.address.channel.toInt ∧
        r.kind = c.spec.kind) ∧
    ∀ s ∈ t.gateway.snapshot.1, ∃ r c ops, t.gateway.registry.resolve s.name = some r ∧
      t.gateway.hub.channel? r.serial = some c ∧ s.kind = c.spec.kind ∧
      match ((t.gateway.hub.injection.after ops).check s.kind.reader).1 with
      | none => s.reading = if s.kind.isDigital then .state c.state else .voltage c.voltage
      | some f => s.reading = .unavailable f.error.text ∧ f.isInjected = true ∧
        f.error.kind ≠ .notAttached ∧ f.error.kind ≠ .unsupported := by
  intro t
  obtain ⟨ho, h⟩ := Sound.run gateway config seed own
  refine ⟨fun name r hr => ?_, fun s hs => ?_⟩
  · have hu := h.usable hr
    obtain ⟨c, hc, hl⟩ := Option.map_eq_some_iff.mp hu.link
    simp only [Prod.mk.injEq] at hl
    obtain ⟨hspec, hopen, hattached⟩ := hl
    have hplace := hu.place
    rw [← hspec] at hplace
    obtain ⟨hport, hchannel⟩ := HubConfig.nonneg_of_contains hplace
    exact ⟨c, hc, hspec, hopen, hattached, hplace, hport, hchannel, by rw [hspec, hu.kind]⟩
  · have hrecords : s ∈ (t.gateway.statuses t.gateway.registry.resources).1 :=
      List.mem_mergeSort.mp hs
    have hresolve : ∀ r ∈ t.gateway.registry.resources,
        t.gateway.registry.resolve r.name = some r :=
      fun r hr => (Orderly.consistent ho).resolve_of_mem hr
    obtain ⟨r, hr, c, ops, hc, hkind, rfl⟩ :=
      Gateway.statuses_usable (fun r hr => h.usable (hresolve r hr)) s hrecords
    refine ⟨r, c, ops, hresolve r hr, hc, hkind.symm, ?_⟩
    dsimp only
    unfold Channel.reading
    rw [hkind]
    cases hf : ((t.gateway.hub.injection.after ops).check r.kind.reader).1 with
    | none => rfl
    | some f =>
      have hinjected := Injection.isInjected_of_check hf
      exact ⟨rfl, hinjected, HubFailure.kind_of_isInjected hinjected⟩

/-- A lamp loses its hardware while it is being opened, on a hub whose states cannot be read. -/
theorem registered_usable_lamp :
    let lamp : Job := .use ⟨"lamp", .digitalOutput, ⟨0, 0⟩, 1000⟩ (.write (.state true))
    let config : HubConfig := { mode := .realistic, faults := [.timeout .readingState] }
    let moves : List Move := [.arrive 0 [lamp], .advance 0 fun _ => false, .intervene 0 .detach,
      .wait 1000, .advance 0 fun _ => false]
    let t := (Traffic.ofGateway (.ofConfig {} (.ofConfig config 0))).run moves
    (∀ m ∈ moves, m.isForeign = false) ∧
      (∃ r c, t.gateway.registry.resolve "lamp" = some r ∧
        t.gateway.hub.channel? r.serial = some c ∧ c.isOpen = true ∧ c.attached = true) ∧
      ∃ s ∈ t.gateway.snapshot.1, (∀ reason, s.reading ≠ .unavailable reason) ∨
        ∃ f : HubFailure, s.reading = .unavailable f.error.text ∧ f.error.kind ≠ .notAttached := by
  intro lamp config moves t
  have own : ∀ m ∈ moves, m.isForeign = false := by simp [moves, Move.isForeign]
  have hregistered : (t.gateway.registry.resolve "lamp").isSome = true := by decide +kernel
  have hlisted : 0 < t.gateway.snapshot.1.length := by decide +kernel
  obtain ⟨husable, hreading⟩ := registered_usable {} config 0 moves own
  obtain ⟨r, hr⟩ := Option.isSome_iff_exists.mp hregistered
  obtain ⟨c, hc, -, hopen, hattached, -⟩ := husable "lamp" r hr
  obtain ⟨s, hs⟩ := List.exists_mem_of_length_pos hlisted
  refine ⟨own, ⟨r, c, hr, hc, hopen, hattached⟩, s, hs, ?_⟩
  obtain ⟨r', c', ops, -, -, -, hread⟩ := hreading s hs
  split at hread
  · refine .inl fun reason hne => ?_
    rw [hread] at hne
    split at hne <;> cases hne
  · exact .inr ⟨_, hread.1, hread.2.2.1⟩

end ChannelGateway
