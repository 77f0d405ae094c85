import ChannelGateway.Proofs.Allowance
import ChannelGateway.Proofs.Scene

/-!
# A fault that latches takes the whole hub down

Where a scenario latches, no check succeeds: a call that no scenario before has failed reaches it. A
scenario before it may fail calls without latching, but nothing else can latch, so from the first
latched failure on every check ends in that failure and leaves everything as it is.

On such a hub every operation of every channel ends at once, in a failure. A channel is therefore
never open, no request ever waits for one, and none registers a name or subscribes to it. This is an
invariant of every run (`Traffic.IsDown`), whoever operates the channels and whatever happens to
their hardware.

Results:
* `Injection.IsDoomed.outage`: what becomes of the checks.
* `Hub.start_doomed`: what becomes of an operation.
* `Scene.IsDown.step`: every act keeps a hub down.
* **`hub_taken_down`**: all of it from the beginning.
-/

namespace ChannelGateway

/-! ## Checks -/

namespace Injection

variable {i : Injection} {l : Latch} {op : Operation}

/-- A scenario latches, and nothing but the first one that does has latched. -/
structure IsDoomed (i : Injection) (l : Latch) : Prop where
  first : i.scenarios.findSome? Scenario.latch? = some l
  latched : ∀ l', i.latched = some l' → l' = l

/-- Faults of which nobody has been struck yet are doomed by the first scenario that latches. -/
theorem isDoomed_ofScenarios {scenarios : List Scenario}
    (first : scenarios.findSome? Scenario.latch? = some l) (rate : Float) (seed : UInt64) :
    (ofScenarios scenarios rate seed).IsDoomed l :=
  ⟨first, fun _ hl => by cases hl⟩

namespace IsDoomed

variable (hd : i.IsDoomed l)
include hd

/-- Some scenario fails every call that reaches it. -/
theorem exists_scan (op : Operation) (calls : UInt32) :
    ∃ f, (scan op calls i.scenarios).1 = some f := by
  obtain ⟨s, hs, hsl⟩ := List.exists_of_findSome?_eq_some hd.first
  refine Option.ne_none_iff_exists'.mp fun hpasses => ?_
  have hnot := (Scenario.failure?_eq_none_iff.mp ((scan_eq_none_iff.mp hpasses).1 s hs)).2
  rw [hsl] at hnot
  cases hnot

/-- **All that a check does**: the latched failure strikes, and nothing changes; or a scenario fails
the call, and chance is not asked. -/
theorem check_cases (op : Operation) :
    (i.latched = some l ∧ i.check op = (some l.failure, i)) ∨
      ∃ f calls, i.latched = Option.none ∧
        i.check op = (some f, { i with calls, latched := f.latch? }) := by
  cases hl : i.latched with
  | some l' =>
    obtain rfl := hd.latched l' hl
    exact .inl ⟨rfl, check_of_latched hl op⟩
  | none =>
    obtain ⟨f, hf⟩ := hd.exists_scan op (i.calls.get op)
    exact .inr ⟨f, _, rfl, check_of_fails hl hf⟩

theorem exists_check (op : Operation) : ∃ f, (i.check op).1 = some f := by
  rcases hd.check_cases op with ⟨-, hc⟩ | ⟨f, calls, -, hc⟩
  · exact ⟨_, congrArg Prod.fst hc⟩
  · exact ⟨f, congrArg Prod.fst hc⟩

theorem chance_check (op : Operation) : (i.check op).2.chance = i.chance := by
  rcases hd.check_cases op with ⟨-, hc⟩ | ⟨f, calls, -, hc⟩ <;> rw [hc]

theorem check (op : Operation) : (i.check op).2.IsDoomed l where
  first := by rw [(i.scenarios_check op).1, hd.first]
  latched l' hl' := by
    rcases latched_check hl' with hold | hfirst
    · exact hd.latched l' hold
    · exact Option.some.inj (hfirst.symm.trans hd.first)

theorem after (ops : List Operation) : (i.after ops).IsDoomed l := by
  induction ops generalizing i with
  | nil => exact hd
  | cons op ops ih => exact ih (hd.check op)

theorem chance_after (ops : List Operation) : (i.after ops).chance = i.chance := by
  induction ops generalizing i with
  | nil => rfl
  | cons op ops ih => exact (ih (hd.check op)).trans (hd.chance_check op)

/-- A latched failure is that of the first scenario that latches. -/
theorem latched_of_check {f : HubFailure} (hf : (i.check op).1 = some f)
    (hlatches : f.latch? ≠ Option.none) :
    f = l.failure ∧ (i.check op).2.latched = some l := by
  rcases hd.check_cases op with ⟨hl, hc⟩ | ⟨f', calls, -, hc⟩
  · rw [hc] at hf ⊢
    exact ⟨(Option.some.inj hf).symm, hl⟩
  · have hdoomed := hd.check op
    rw [hc] at hf hdoomed ⊢
    obtain rfl : f' = f := Option.some.inj hf
    obtain ⟨l', hl'⟩ := Option.ne_none_iff_exists'.mp hlatches
    obtain rfl := hdoomed.latched l' hl'
    refine ⟨?_, hl'⟩
    cases f' <;> cases hl' <;> rfl

end IsDoomed

/-- A latched failure leaves everything as it is. -/
theorem after_of_latched (h : i.latched = some l) (ops : List Operation) : i.after ops = i := by
  induction ops with
  | nil => rfl
  | cons op ops ih =>
    have hcheck : (i.check op).2 = i := by rw [check_of_latched h]
    rw [after, List.foldl_cons, hcheck]
    exact ih

/-- What becomes of the checks of a hub that a latching fault takes down. -/
structure Outage (i : Injection) (l : Latch) : Prop where
  /-- No check ever succeeds. -/
  fails (ops : List Operation) (op : Operation) : ((i.after ops).check op).1 ≠ Option.none
  /-- No random draw is ever taken. -/
  undrawn (ops : List Operation) : (i.after ops).chance = i.chance
  /-- From the first latched failure on every check ends in this failure, and nothing changes. -/
  lasts (ops : List Operation) (op : Operation) (f : HubFailure) :
    ((i.after ops).check op).1 = some f → f.latch? ≠ Option.none →
      f = l.failure ∧ ∀ more other,
        (i.after (ops ++ op :: more)).check other = (some f, i.after (ops ++ [op]))

/-- **What becomes of the checks** where a scenario latches. -/
theorem IsDoomed.outage (hd : i.IsDoomed l) : i.Outage l := by
  refine ⟨fun ops op => ?_, hd.chance_after, fun ops op f hf hlatches => ?_⟩
  · obtain ⟨f, hf⟩ := (hd.after ops).exists_check op
    exact Option.ne_none_iff_exists'.mpr ⟨f, hf⟩
  · obtain ⟨rfl, hl⟩ := (hd.after ops).latched_of_check hf hlatches
    have hone : i.after (ops ++ [op]) = ((i.after ops).check op).2 := i.after_append ops [op]
    refine ⟨rfl, fun more other => ?_⟩
    have hmore : i.after (ops ++ op :: more) = i.after (ops ++ [op]) := by
      rw [hone, after_append]
      exact after_of_latched hl more
    rw [hmore, check_of_latched (hone ▸ hl)]

end Injection

/-! ## Operations -/

namespace Hub

variable {h : Hub} {l : Latch} {c : Channel}

/-- Opening fails at once, and only the faults take note of it. -/
theorem startOpen_doomed (hd : h.injection.IsDoomed l) (now : Nat) (c : Channel) (timeout : Nat) :
    ∃ f, h.startOpen now c timeout =
      (h.withInjection (h.injection.after [.opening]), [], .finished (.error f)) := by
  obtain ⟨f, hf⟩ := hd.exists_check .opening
  refine ⟨f, ?_⟩
  unfold startOpen
  rw [check_eq, hf]
  rfl

theorem startClose_doomed (hd : h.injection.IsDoomed l) (c : Channel) :
    ∃ f, h.startClose c =
      (h.withInjection (h.injection.after [.closing]), .finished (.error f)) := by
  obtain ⟨f, hf⟩ := hd.exists_check .closing
  refine ⟨f, ?_⟩
  unfold startClose
  rw [check_eq, hf]
  rfl

theorem readState_doomed (hd : h.injection.IsDoomed l) (c : Channel) :
    ∃ ops f, h.readState c = (h.withInjection (h.injection.after ops), .error f) := by
  unfold readState
  split
  · exact ⟨[], _, rfl⟩
  · obtain ⟨f, hf⟩ := hd.exists_check .readingState
    refine ⟨[.readingState], f, ?_⟩
    rw [check_eq, hf]
    rfl

theorem readVoltage_doomed (hd : h.injection.IsDoomed l) (c : Channel) :
    ∃ ops f, h.readVoltage c = (h.withInjection (h.injection.after ops), .error f) := by
  unfold readVoltage
  split
  · exact ⟨[], _, rfl⟩
  · obtain ⟨f, hf⟩ := hd.exists_check .readingVoltage
    refine ⟨[.readingVoltage], f, ?_⟩
    rw [check_eq, hf]
    rfl

theorem read_doomed (hd : h.injection.IsDoomed l) (c : Channel) :
    ∃ ops f, h.read c = (h.withInjection (h.injection.after ops), .error f) := by
  unfold read
  split
  · exact readState_doomed hd c
  · exact readVoltage_doomed hd c

theorem startWrite_doomed (hd : h.injection.IsDoomed l) (now : Nat) (c : Channel) (w : Write) :
    ∃ ops f, h.startWrite now c w =
      (h.withInjection (h.injection.after ops), .finished (.error f)) := by
  unfold startWrite
  split
  · exact ⟨[], _, rfl⟩
  cases w.refusal? with
  | some f => exact ⟨[], f, rfl⟩
  | none =>
    obtain ⟨f, hf⟩ := hd.exists_check w.operation
    refine ⟨[w.operation], f, ?_⟩
    dsimp only
    rw [check_eq, hf]
    rfl

/-- **Every operation ends at once, in a failure**, and only the faults take note of it. -/
theorem start_doomed (hd : h.injection.IsDoomed l) (now : Nat) (c : Channel) (io : Io) :
    ∃ ops f, h.start now c io =
      (h.withInjection (h.injection.after ops), [], .finished (.error f)) := by
  cases io with
  | openWithin timeout =>
    obtain ⟨f, hf⟩ := startOpen_doomed hd now c timeout
    exact ⟨_, f, hf⟩
  | close =>
    obtain ⟨f, hf⟩ := startClose_doomed hd c
    refine ⟨[.closing], f, ?_⟩
    rw [start, hf]
  | readState =>
    obtain ⟨ops, f, hf⟩ := readState_doomed hd c
    refine ⟨ops, f, ?_⟩
    rw [start, hf]
  | readVoltage =>
    obtain ⟨ops, f, hf⟩ := readVoltage_doomed hd c
    refine ⟨ops, f, ?_⟩
    rw [start, hf]
  | read =>
    obtain ⟨ops, f, hf⟩ := read_doomed hd c
    refine ⟨ops, f, ?_⟩
    rw [start, hf]
  | write w =>
    obtain ⟨ops, f, hf⟩ := startWrite_doomed hd now c w
    refine ⟨ops, f, ?_⟩
    rw [start, hf]

/-- Every channel is closed and detached. -/
def IsShut (h : Hub) : Prop :=
  ∀ c ∈ h.tracked, c.isOpen = false ∧ c.attached = false

theorem IsShut.modify (hs : h.IsShut) (serial : Nat) {f : Channel → Channel}
    (hf : ∀ c, c.isOpen = false ∧ c.attached = false →
      (f c).isOpen = false ∧ (f c).attached = false) : (h.modify serial f).IsShut := by
  intro c hc
  obtain ⟨c', hc', rfl⟩ := List.mem_map.mp hc
  split
  · exact hf c' (hs c' hc')
  · exact hs c' hc'

theorem IsShut.create (hs : h.IsShut) (held : Nat → Bool) (spec : ChannelSpec) :
    (h.create held spec).IsShut := by
  intro c hc
  rcases List.mem_append.mp hc with hc | hc
  · exact hs c (List.mem_filter.mp hc).1
  · rw [List.mem_singleton.mp hc]
    exact ⟨rfl, rfl⟩

/-- What happens to the hardware opens and attaches no channel that is closed. -/
theorem IsShut.disturbance (hs : h.IsShut) (hc : c ∈ h.tracked) {hub : Hub}
    {events : List HubEvent} (hd : Disturbance h c (hub, events)) :
    hub.IsShut ∧ hub.injection = h.injection := by
  cases hd with
  | still _ quiet => exact ⟨hs, rfl⟩
  | changed state => exact ⟨hs.modify c.serial fun _ hc' => hc', rfl⟩
  | detached => exact ⟨hs.modify c.serial fun _ hc' => ⟨hc'.1, rfl⟩, rfl⟩
  | attached isOpen =>
    rw [(hs c hc).1] at isOpen
    cases isOpen

end Hub

/-! ## Requests -/

/-- Where a request can stand that reaches no channel: it has not begun, waits for its gate or has
failed. -/
def Progress.IsBarren : Progress → Prop
  | .ready _ => True
  | .queued _ => True
  | .opening _ _ _ => False
  | .writing _ _ => False
  | .done outcome => ∃ e, outcome = .error e

/-- A gateway on a hub that a latching fault takes down, with the faults as they were at some
time. -/
structure Gateway.IsDown (i : Injection) (g : Gateway) : Prop where
  asked : ∃ ops, g.hub.injection = i.after ops
  shut : g.hub.IsShut
  byName : g.registry.byName = []
  byChannel : g.registry.byChannel = []
  subscriptions : g.subscriptions = .empty

namespace Gateway.IsDown

variable {i : Injection} {l : Latch} {g g' : Gateway}

theorem resolve (h : g.IsDown i) (name : String) : g.registry.resolve name = none := by
  unfold Registry.resolve
  rw [h.byName]
  rfl

theorem nameFor (h : g.IsDown i) (id : ChannelId) : g.registry.nameFor id = none := by
  unfold Registry.nameFor
  rw [h.byChannel]
  rfl

theorem resources (h : g.IsDown i) : g.registry.resources = [] := by
  unfold Registry.resources
  rw [h.byName]
  rfl

theorem doomed (h : g.IsDown i) (hd : i.IsDoomed l) : g.hub.injection.IsDoomed l := by
  obtain ⟨ops, ho⟩ := h.asked
  exact ho ▸ hd.after ops

/-- The faults may have been asked. -/
theorem ask (h : g.IsDown i) (ops : List Operation) :
    { g with hub := g.hub.withInjection (g.hub.injection.after ops) }.IsDown i := by
  obtain ⟨before, ho⟩ := h.asked
  refine ⟨⟨before ++ ops, ?_⟩, h.shut, h.byName, h.byChannel, h.subscriptions⟩
  rw [Injection.after_append, ← ho]
  rfl

/-- A gateway that only differs in its gates, its deliveries and the identity that comes next. -/
theorem of_eq (h : g.IsDown i) (hub : g'.hub = g.hub)
    (byName : g'.registry.byName = g.registry.byName)
    (byChannel : g'.registry.byChannel = g.registry.byChannel)
    (subscriptions : g'.subscriptions = g.subscriptions) : g'.IsDown i where
  asked := hub ▸ h.asked
  shut := hub ▸ h.shut
  byName := byName.trans h.byName
  byChannel := byChannel.trans h.byChannel
  subscriptions := subscriptions.trans h.subscriptions

/-- No event means anything to a gateway on which no name is open. -/
theorem observeAll (h : g.IsDown i) (events : List HubEvent) : g.observeAll events = g := by
  induction events with
  | nil => rfl
  | cons e rest ih =>
    have hfirst : g.observe e = g := by
      cases e with
      | detached id =>
        unfold observe Registry.removeChannel
        dsimp only
        rw [h.nameFor]
      | changed id state =>
        unfold observe
        dsimp only
        rw [h.nameFor]
      | _ => rfl
    rw [Gateway.observeAll, List.foldl_cons, hfirst]
    exact ih

/-- Creating a channel opens none. -/
theorem create (h : g.IsDown i) (held : Nat → Bool) (spec : ChannelSpec) :
    { g with hub := g.hub.create held spec }.IsDown i :=
  ⟨h.asked, h.shut.create held spec, h.byName, h.byChannel, h.subscriptions⟩

theorem enlist (h : g.IsDown i) (held : Nat → Bool) (request : OpenRequest) :
    (g.enlist held request).IsDown i :=
  (h.create (g.holds held) (g.newcomer request).spec).of_eq rfl rfl rfl rfl

/-- No channel that a request creates opens. -/
theorem attempt_eq (h : g.IsDown i) (hd : i.IsDoomed l) (now : Nat) (held : Nat → Bool)
    (request : OpenRequest) :
    ∃ f, g.attempt now held request =
      ((g.enlist held request).hub.withInjection
        ((g.enlist held request).hub.injection.after [.opening]), [], .finished (.error f)) :=
  Hub.startOpen_doomed ((h.enlist held request).doomed hd) ..

/-- An open that fails is given up, and closing its channel fails as well. -/
theorem abandon (h : g.IsDown i) (hd : i.IsDoomed l) (ticket : Nat) (r : Resource)
    (f : HubFailure) :
    (g.abandon ticket r f).1.IsDown i := by
  obtain ⟨failure, hclose⟩ := Hub.startClose_doomed (h.doomed hd) (g.channelOf r)
  refine (h.ask [.closing]).of_eq ?_ rfl rfl rfl
  exact congrArg Prod.fst hclose

/-- **A piece of a request leaves everything down**, and takes the request nowhere but to its gate
or to a failure. -/
theorem piece (h : g.IsDown i) (hd : i.IsDoomed l) {now ticket : Nat} {held : Nat → Bool}
    {p p' : Progress} (hp : p.IsBarren) (hpiece : g.Piece now held ticket p g' p') :
    g'.IsDown i ∧ p'.IsBarren := by
  cases hpiece with
  | enter job => exact ⟨h.of_eq rfl rfl rfl rfl, trivial⟩
  | reuse found => rw [h.resolve] at found; cases found
  | join turn found => rw [h.resolve] at found; cases found
  | refuse turn free missing => exact ⟨h.of_eq rfl rfl rfl rfl, _, rfl⟩
  | create turn free known attempt =>
    obtain ⟨f, hf⟩ := h.attempt_eq hd now held _
    cases hf.symm.trans attempt
  | createOpen turn free known attempt =>
    obtain ⟨f, hf⟩ := h.attempt_eq hd now held _
    cases hf.symm.trans attempt
  | @createFailed request followup hub events failure turn free known attempt =>
    obtain ⟨f, hf⟩ := h.attempt_eq hd now held request
    cases hf.symm.trans attempt
    exact ⟨((h.enlist held request).ask [.opening]).abandon hd ticket _ failure, _, rfl⟩
  | attached due result => cases hp
  | unattached due result => cases hp
  | written due result => cases hp
  | unwritten due result => cases hp
  | notFound turn free => exact ⟨h.of_eq rfl rfl rfl rfl, _, rfl⟩
  | closeFailed turn found result => rw [h.resolve] at found; cases found
  | closed turn found result => rw [h.resolve] at found; cases found

end Gateway.IsDown

/-! ## Runs -/

/-- Traffic on a hub that a latching fault takes down. -/
structure Traffic.IsDown (i : Injection) (t : Traffic) : Prop where
  gateway : t.gateway.IsDown i
  barren : ∀ k p, t.standing k = some p → p.IsBarren

namespace Traffic.IsDown

variable {i : Injection} {l : Latch} {t : Traffic}

/-- A task stands elsewhere, where it reaches no channel. -/
theorem place (h : t.IsDown i) {ticket : Nat} {q : Option Progress}
    (hq : ∀ p, q = some p → p.IsBarren) (k : Nat) (p : Progress)
    (hs : Function.update t.standing ticket q k = some p) : p.IsBarren := by
  rw [Function.update_apply] at hs
  split at hs
  · exact hq p hs
  · exact h.barren k p hs

theorem advance (h : t.IsDown i) (hd : i.IsDoomed l) (ticket : Nat) (outside : Nat → Bool) :
    (t.advance ticket outside).IsDown i := by
  rcases t.advance_cases ticket outside with
    he | ⟨outcome, job, hs, hg, hstanding⟩ | ⟨p, g, p', hs, ha, hg, hstanding⟩
  · rwa [he]
  · refine ⟨hg ▸ h.gateway, ?_⟩
    rw [hstanding]
    exact h.place fun p hp => by cases hp; trivial
  · have hboth := Gateway.advance_induction
      (P := fun g standing => g.IsDown i ∧ ∀ k p, standing k = some p → p.IsBarren)
      (fun {g g' p p' standing} hs hpiece hdown => ?_) hs ha ⟨h.gateway, h.barren⟩
    · exact ⟨hg ▸ hboth.1, hstanding ▸ hboth.2⟩
    · obtain ⟨hdown', hbarren⟩ := hdown.1.piece hd (hdown.2 ticket p hs) hpiece
      refine ⟨hdown', fun k q hq => ?_⟩
      rw [Function.update_apply] at hq
      split at hq
      · cases hq
        exact hbarren
      · exact hdown.2 k q hq

/-- Whatever is done to a channel leaves everything down. -/
theorem intervene (h : t.IsDown i) (hd : i.IsDoomed l) (serial : Nat) (what : Intervention) :
    (t.intervene serial what).IsDown i := by
  rcases t.intervene_cases serial what with he | ⟨c, hub, events, effect, hc, hi, he⟩
  · rwa [he]
  · have hdown : { t.gateway with hub }.IsDown i := by
      by_cases hw : ∃ io, what = .operate io
      · obtain ⟨io, rfl⟩ := hw
        obtain ⟨ops, f, hf⟩ := Hub.start_doomed (h.gateway.doomed hd) t.now c io
        have hhub : hub = t.gateway.hub.withInjection (t.gateway.hub.injection.after ops) := by
          have hstart := Hub.operate_fst t.gateway.hub t.now c io
          rw [hf] at hstart
          exact (congrArg Prod.fst hi).symm.trans hstart
        rw [hhub]
        exact h.gateway.ask ops
      · have hdisturbance := t.gateway.hub.intervene_disturbance t.now c fun io he => hw ⟨io, he⟩
        rw [hi] at hdisturbance
        obtain ⟨hshut, hinjection⟩ := h.gateway.shut.disturbance (Hub.mem_of_channel? hc)
          hdisturbance
        exact ⟨hinjection ▸ h.gateway.asked, hshut, h.gateway.byName, h.gateway.byChannel,
          h.gateway.subscriptions⟩
    rw [he, hdown.observeAll]
    exact ⟨hdown, h.barren⟩

/-- **Every move leaves everything down** that puts no other hub in place, or the same one with one
more channel. -/
theorem step (h : t.IsDown i) (hd : i.IsDoomed l) {m : Move}
    (own : ∀ hub, m = .meddle hub → ∃ held spec, hub = t.gateway.hub.create held spec) :
    (t.step m).IsDown i := by
  cases m with
  | arrive ticket jobs =>
    simp only [Traffic.step]
    rcases t.arrive_cases ticket jobs with he | ⟨job, hs, hg, hstanding⟩
    · rwa [he]
    · refine ⟨hg ▸ h.gateway, ?_⟩
      rw [hstanding]
      exact h.place fun p hp => by cases hp; trivial
  | advance ticket outside => exact h.advance hd ticket outside
  | cancel ticket =>
    simp only [Traffic.step]
    rcases t.cancel_cases ticket with he | ⟨p, hs, hg, hstanding⟩
    · rwa [he]
    · refine ⟨?_, ?_⟩
      · rw [hg]
        exact h.gateway.of_eq (Gateway.hub_cancel ..) (by rw [Gateway.registry_cancel])
          (by rw [Gateway.registry_cancel]) (by unfold Gateway.cancel; split <;> rfl)
      · rw [hstanding]
        exact h.place fun p hp => by cases hp
  | intervene serial what => exact h.intervene hd serial what
  | tell event =>
    have hnone : t.gateway.observe event = t.gateway := h.gateway.observeAll [event]
    refine ⟨?_, h.barren⟩
    simp only [Traffic.step, hnone]
    exact h.gateway
  | forget name id =>
    have hregistry : (t.gateway.registry.removeIfBound name id).2 = t.gateway.registry := by
      unfold Registry.removeIfBound
      rw [h.gateway.resolve]
    refine ⟨h.gateway.of_eq rfl ?_ ?_ rfl, h.barren⟩
    · exact congrArg Registry.byName hregistry
    · exact congrArg Registry.byChannel hregistry
  | drain =>
    exact ⟨⟨h.gateway.asked, h.gateway.shut, rfl, rfl, h.gateway.subscriptions⟩, h.barren⟩
  | shutdown =>
    have hnone :
        t.gateway.shutdown = { t.gateway with registry := t.gateway.registry.drain.2 } := by
      unfold Gateway.shutdown Registry.drain
      rw [h.gateway.resources]
      rfl
    refine ⟨?_, h.barren⟩
    simp only [Traffic.step, hnone]
    exact ⟨h.gateway.asked, h.gateway.shut, rfl, rfl, h.gateway.subscriptions⟩
  | snapshot =>
    have hnone : t.gateway.snapshot.2 = t.gateway := by
      unfold Gateway.snapshot
      rw [h.gateway.resources]
      rfl
    refine ⟨?_, h.barren⟩
    simp only [Traffic.step, hnone]
    exact h.gateway
  | wait ms => exact ⟨h.gateway, h.barren⟩
  | deliver receivers => exact ⟨h.gateway.of_eq rfl rfl rfl rfl, h.barren⟩
  | settle => exact ⟨h.gateway.of_eq rfl rfl rfl rfl, h.barren⟩
  | meddle hub =>
    obtain ⟨held, spec, rfl⟩ := own hub rfl
    exact ⟨h.gateway.create held spec, h.barren⟩

end Traffic.IsDown

/-- A scene on a hub that a latching fault takes down: no operation ever waits. -/
structure Scene.IsDown (i : Injection) (s : Scene) : Prop where
  traffic : s.traffic.IsDown i
  idle : ∀ handle, s.operation? handle = none

namespace Scene.IsDown

variable {i : Injection} {l : Latch} {s : Scene}

/-- **Every act leaves everything down.** -/
theorem step (h : s.IsDown i) (hd : i.IsDoomed l) {a : Act} (own : s.Permits a) :
    (s.step a).IsDown i where
  traffic := by
    rcases s.step_cases a with ⟨m, hm, he⟩ | he | ⟨handle, serial, w, -, ho, -, -⟩
    · rw [he]
      refine h.traffic.step hd fun hub hmeddle => ?_
      subst hmeddle
      cases a with
      | move m =>
        cases hm
        exact own hub rfl
      | _ => cases hm
    · rw [he]
      exact h.traffic
    · rw [h.idle] at ho
      cases ho
  idle handle := by
    refine Option.eq_none_iff_forall_ne_some.mpr fun operation ho => ?_
    obtain ⟨serial, w⟩ := operation
    rcases operation_step ho with hold | ⟨io, -, hawait⟩
    · rw [h.idle] at hold
      cases hold
    · unfold Traffic.await? at hawait
      split at hawait
      · cases hawait
      · rename_i c hc
        obtain ⟨ops, f, hf⟩ := Hub.start_doomed (h.traffic.gateway.doomed hd) s.traffic.now c io
        rw [hf] at hawait
        cases hawait

theorem run (h : s.IsDown i) (hd : i.IsDoomed l) {acts : List Act} (own : s.PermitsAll acts) :
    (s.run acts).IsDown i :=
  run_induction_permitted (P := fun s => s.IsDown i) h (fun _ _ permits h => h.step hd permits) own

end Scene.IsDown

/-! ## From the beginning -/

/-- What there is of a gateway, and will be, on a hub that a latch takes down. -/
structure Scene.TakenDown (i : Injection) (l : Latch) (s : Scene) : Prop where
  /-- All that has happened to the faults is that they have been asked. -/
  asked : ∃ ops, s.hub.injection = i.after ops
  /-- No operation succeeds on any channel, and none has to wait before it fails. -/
  fails (now : Nat) (c : Channel) (io : Io) : ∃ f, (s.hub.start now c io).2.2 = .finished (.error f)
  shut : ∀ c ∈ s.hub.tracked, c.isOpen = false ∧ c.attached = false
  unregistered (name : String) : s.traffic.gateway.registry.resolve name = none
  unsubscribed (name : String) : s.traffic.gateway.subscriptions.listFor name = []
  /-- No request has succeeded. -/
  refused (ticket : Nat) (outcome : Outcome) :
    s.traffic.standing ticket = some (.done outcome) → ∃ e, outcome = .error e
  /-- Once a fault has latched, every check ends in its failure, whatever happens, and the faults
  stay as they are. -/
  lasts (l' : Latch) : s.hub.injection.latched = some l' → l' = l ∧ ∀ more, s.PermitsAll more →
    (s.run more).hub.injection = s.hub.injection ∧
      ∀ op, (s.run more).hub.check op = (some l.failure, (s.run more).hub)

theorem Scene.IsDown.takenDown {i : Injection} {l : Latch} {s : Scene} (h : s.IsDown i)
    (hd : i.IsDoomed l) : s.TakenDown i l := by
  have hdoomed := h.traffic.gateway.doomed hd
  refine ⟨h.traffic.gateway.asked, fun now c io => ?_, h.traffic.gateway.shut,
    h.traffic.gateway.resolve, fun name => ?_, fun ticket outcome => h.traffic.barren ticket _,
    fun l' hl => ?_⟩
  · obtain ⟨ops, f, hf⟩ := Hub.start_doomed hdoomed now c io
    exact ⟨f, congrArg (fun result => result.2.2) hf⟩
  · rw [h.traffic.gateway.subscriptions]
    rfl
  · obtain rfl := hdoomed.latched l' hl
    refine ⟨rfl, fun more own => ?_⟩
    -- what happens from here on, with the faults as they are by now
    have hnow : s.IsDown s.hub.injection :=
      ⟨⟨⟨⟨[], rfl⟩, h.traffic.gateway.shut, h.traffic.gateway.byName, h.traffic.gateway.byChannel,
        h.traffic.gateway.subscriptions⟩, h.traffic.barren⟩, h.idle⟩
    obtain ⟨ops, ho⟩ := (hnow.run hdoomed own).traffic.gateway.asked
    have hsame : (s.run more).hub.injection = s.hub.injection :=
      ho.trans (Injection.after_of_latched hl ops)
    refine ⟨hsame, fun op => ?_⟩
    rw [Hub.check_eq, Injection.check_of_latched (hsame ▸ hl)]
    rfl

/-- **A latching fault takes the whole hub down**, at any place among the faults that the hub is
told to have and with any failure rate. No check succeeds; no channel is ever open; no name is ever
registered or subscribed to; and from the first latched failure on every check ends in it. -/
theorem hub_taken_down (gateway : GatewayConfig) (config : HubConfig) (seed : UInt64)
    {fault : Scenario} (told : fault ∈ config.faults)
    (latches : fault = .linkLoss ∨ ∃ code, fault = .hubFault code) :
    let i := config.injection seed
    let start := Scene.ofGateway (.ofConfig gateway (.ofConfig config seed))
    ∃ l, config.faults.findSome? Scenario.latch? = some l ∧ i.Outage l ∧
      ∀ acts, start.PermitsAll acts → (start.run acts).TakenDown i l := by
  intro i start
  obtain ⟨l, hl⟩ : ∃ l, config.faults.findSome? Scenario.latch? = some l := by
    refine Option.isSome_iff_exists.mp (List.findSome?_isSome_iff.mpr ⟨fault, told, ?_⟩)
    rcases latches with rfl | ⟨code, rfl⟩ <;> rfl
  have hd : i.IsDoomed l := Injection.isDoomed_ofScenarios hl ..
  have hstart : start.IsDown i :=
    ⟨⟨⟨⟨[], rfl⟩, (fun c hc => by cases hc), rfl, rfl, rfl⟩, (fun k p hk => by cases hk)⟩,
      fun _ => rfl⟩
  exact ⟨l, hl, hd.outage, fun acts own => (hstart.run hd own).takenDown hd⟩

/-- A lamp is switched on, on a hub that reports a fault only after it has failed to open channels
for other reasons; meanwhile somebody creates a channel of his own and opens it. -/
theorem hub_taken_down_lamp :
    let lamp : Job := .use ⟨"lamp", .digitalOutput, ⟨0, 0⟩, 1000⟩ (.write (.state true))
    let config : HubConfig :=
      { faults := [.timeout .closing, .failAfter .opening 0, .hubFault 7], failureRate := 0.5 }
    let start := Scene.ofGateway (.ofConfig {} (.ofConfig config 0))
    let before : List Act := [.move (.arrive 0 [lamp]), .move (.advance 0 fun _ => false)]
    let hub := (start.run before).hub.create (fun _ => true) ⟨9, .digitalInput, ⟨1, 1⟩⟩
    let acts := before ++ [.move (.meddle hub), .operate 0 1 (.openWithin 1000),
      .operate 0 1 .readState]
    Scenario.hubFault 7 ∈ config.faults ∧ start.PermitsAll acts ∧
      (start.run acts).hub.tracked.length = 2 ∧
      (∀ c ∈ (start.run acts).hub.tracked, c.isOpen = false) ∧
      (start.run acts).traffic.gateway.registry.resolve "lamp" = none ∧
      ((start.run acts).hub.check .settingState).1 = some (.hubFault 7) := by
  intro lamp config start before hub acts
  have told : Scenario.hubFault 7 ∈ config.faults := by decide +kernel
  have own : start.PermitsAll acts :=
    ⟨Scene.permits_of_ne nofun, Scene.permits_of_ne nofun, fun _ h =>
      ⟨_, _, (Move.meddle.inj (Act.move.inj h)).symm⟩,
      Scene.permits_of_ne nofun, Scene.permits_of_ne nofun, trivial⟩
  obtain ⟨l, hl, -, hruns⟩ := hub_taken_down {} config 0 told (.inr ⟨7, rfl⟩)
  obtain rfl : l = .hubFault 7 := by cases hl; rfl
  have hdown := hruns acts own
  have hcount : (start.run acts).hub.tracked.length = 2 := by decide +kernel
  have hlatched : (start.run acts).hub.injection.latched = some (.hubFault 7) := by decide +kernel
  refine ⟨told, own, ?_⟩
  generalize start.run acts = s at hdown hcount hlatched ⊢
  exact ⟨hcount, fun c hc => (hdown.shut c hc).1, hdown.unregistered _,
    congrArg Prod.fst (((hdown.lasts _ hlatched).2 [] trivial).2 .settingState)⟩

end ChannelGateway
