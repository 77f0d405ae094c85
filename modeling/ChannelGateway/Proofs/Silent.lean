import ChannelGateway.Proofs.Asked

/-!
# Hubs without injected faults

A hub that is told of no scenario and has no failure rate lets every operation pass, and its
injected faults stay as they are: no call is counted, nothing latches, nothing is drawn. What
operations do is then known in closed form.

Results:
* `startOpen_silent`, `startClose_silent`, `startWrite_silent`: operations when no fault can strike.
* `Gateway.shutdown_silent`, `Gateway.snapshot_silent`: so are these of the gateway.
* **`Gateway.injection_advance`**: a request leaves silent faults as they are.
-/

namespace ChannelGateway

/-- A hub is told to do nothing wrong. -/
def HubConfig.IsFaultless (config : HubConfig) : Prop :=
  config.faults = [] ∧ config.failureRate ≤ 0

instance (config : HubConfig) : Decidable config.IsFaultless :=
  inferInstanceAs (Decidable (_ ∧ _))

/-- No fault can strike. -/
structure Injection.IsSilent (i : Injection) : Prop where
  latched : i.latched = Option.none
  scenarios : i.scenarios = []
  failureRate : i.failureRate ≤ 0

theorem HubConfig.IsFaultless.silent {config : HubConfig} (h : config.IsFaultless) (seed : UInt64) :
    (config.injection seed).IsSilent :=
  ⟨rfl, h.1, h.2⟩

/-- **Silent faults let every operation pass** and stay as they are. -/
theorem Injection.IsSilent.check {i : Injection} (h : i.IsSilent) (op : Operation) :
    i.check op = (Option.none, i) := by
  obtain ⟨scenarios, rate, chance, calls, latched⟩ := i
  obtain ⟨hlatched, hscenarios, hrate⟩ := h
  dsimp only at hlatched hscenarios hrate
  subst hlatched hscenarios
  simp [Injection.check, scan, Chance.decide, hrate]

/-- Silent faults stay as they are. -/
theorem Injection.IsSilent.lasting {i : Injection} (h : i.IsSilent) : Lasting (· = i) := by
  rintro _ op rfl
  rw [h.check]

namespace Hub

variable {h : Hub} {c : Channel}

theorem check_silent (hs : h.injection.IsSilent) (op : Operation) : h.check op = (none, h) := by
  unfold check
  rw [hs.check]

/-- How beginning to open a channel ends when no fault can strike. -/
theorem startOpen_silent (hs : h.injection.IsSilent) (now : Nat) (c : Channel) (timeout : Nat) :
    h.startOpen now c timeout =
      if c.isOpen then (h, [], .finished (.ok .done))
      else if h.config.contains c.spec.address ∧
          h.config.delay h.config.timing.attachDelay ≤ timeout then
        if h.config.mode = .realistic then
          (h, [], .waiting (.attaching (now + h.config.delay h.config.timing.attachDelay)))
        else (h.modify c.serial Channel.connect, [.attached c.spec.id], .finished (.ok .done))
      else if h.config.mode = .realistic then
        (h, [], .waiting (.absent (now + timeout) timeout))
      else (h, [], .finished (.error (.attachTimeout c.spec.address timeout))) := by
  unfold startOpen
  rw [check_silent hs]
  rfl

/-- How closing a channel ends when no fault can strike. -/
theorem startClose_silent (hs : h.injection.IsSilent) (c : Channel) :
    h.startClose c = (h.modify c.serial Channel.disconnect, .finished (.ok .done)) := by
  unfold startClose
  rw [check_silent hs]

/-- How beginning to write ends when no fault can strike. -/
theorem startWrite_silent (hs : h.injection.IsSilent) (now : Nat) (c : Channel) (w : Write) :
    h.startWrite now c w =
      if c.spec.kind ≠ w.kind then (h, .finished (.error (c.unsupported w.operation.label)))
      else
        match w.refusal? with
        | some f => (h, .finished (.error f))
        | none =>
          if !c.attached then (h, .finished (.error c.notAttached))
          else if h.config.mode = .realistic then
            (h, .waiting (.writing (now + h.config.delay h.config.timing.ioDelay) w))
          else (h.modify c.serial w.apply, .finished (.ok .done)) := by
  unfold startWrite
  cases hw : w.refusal? <;> simp only [check_silent hs]

/-- The hub after some of its channels have been closed. -/
def disconnects (h : Hub) (closed : Nat → Bool) : Hub :=
  { h with tracked := h.tracked.map fun c => if closed c.serial then c.disconnect else c }

theorem channel?_disconnects (h : Hub) (closed : Nat → Bool) (serial : Nat) :
    (h.disconnects closed).channel? serial =
      (h.channel? serial).map fun c => if closed serial then c.disconnect else c := by
  have hmap : (h.disconnects closed).channel? serial =
      (h.channel? serial).map fun c => if closed c.serial then c.disconnect else c :=
    find?_map_of_keeps (fun c => by split <;> rfl) _
  rw [hmap]
  cases hc : h.channel? serial with
  | none => rfl
  | some c =>
    obtain rfl := serial_of_channel? hc
    rfl

theorem Numbered.disconnects (hn : h.Numbered) (closed : Nat → Bool) :
    (h.disconnects closed).Numbered := by
  intro c hc
  obtain ⟨c', hc', rfl⟩ := List.mem_map.mp hc
  split
  · exact hn c' hc'
  · exact hn c' hc'

end Hub

namespace Gateway

variable {g g' : Gateway} {now ticket : Nat} {held : Nat → Bool} {p p' : Progress}

/-- A call of `Gateway.advance` leaves silent faults as they are. -/
theorem injection_advance (hs : g.hub.injection.IsSilent)
    (ha : g.advance now held ticket p = some (g', p')) : g'.hub.injection = g.hub.injection :=
  asked_advance (Q := (· = g.hub.injection)) hs.lasting rfl ha

/-- How closing channels one after the other ends when no fault can strike. -/
theorem closeAll_silent (hs : g.hub.injection.IsSilent) (resources : List Resource) :
    (g.closeAll resources).hub = g.hub.disconnects fun serial =>
      resources.any fun r => r.serial = serial := by
  induction resources generalizing g with
  | nil =>
    unfold Hub.disconnects
    simp [closeAll]
  | cons r rest ih =>
    have hclose := Hub.startClose_silent hs (g.channelOf r)
    rw [serial_channelOf] at hclose
    have hfirst := ih (g := { g with hub := (g.hub.startClose (g.channelOf r)).1 })
      (by rw [hclose]; exact hs)
    refine hfirst.trans ?_
    rw [hclose]
    unfold Hub.disconnects Hub.modify
    simp only [List.map_map, List.any_cons, Bool.or_eq_true, decide_eq_true_eq]
    congr 1
    refine List.map_congr_left fun c _ => ?_
    -- closing a channel twice is closing it once
    by_cases hc : c.serial = r.serial
    · simp [hc, Channel.disconnect]
    · simp [hc, Ne.symm hc]

/-- How shutting down ends when no fault can strike. -/
theorem shutdown_silent (hs : g.hub.injection.IsSilent) :
    g.shutdown =
      { g with hub := g.hub.disconnects g.registers, registry := g.registry.drain.2 } := by
  have hclose := closeAll_silent (g := { g with registry := g.registry.drain.2 }) hs
    g.registry.drain.1
  have hhub : g.shutdown.hub = g.hub.disconnects g.registers := hclose
  rw [shutdown_eq, hhub]

/-- Listing the open names changes nothing when no fault can strike. -/
theorem snapshot_silent (hs : g.hub.injection.IsSilent) : g.snapshot.2 = g := by
  obtain ⟨i, hi⟩ := g.snapshot_snd
  have hinjection : g.snapshot.2.hub.injection = g.hub.injection :=
    asked_statuses (Q := (· = g.hub.injection)) hs.lasting rfl _
  rw [hi] at hinjection
  obtain rfl : i = g.hub.injection := hinjection
  exact hi

end Gateway

end ChannelGateway
