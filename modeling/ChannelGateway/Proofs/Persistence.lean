import ChannelGateway.Proofs.FanOut
import ChannelGateway.Proofs.Spared

/-!
# A write stays until the next one

What a request writes to its channel is there until another request for the name, or an event of the
channel, changes it. The argument has three parts. `Gateway.Setting` says how far a request that is
to write a value has come, in terms of what is under its name: while the write waits, the resource
is registered and takes the value; when it is done, its channel shows the value. Moves that spare
the name keep every stage, since they leave what is under the name (`Traffic.under_step`). And the
status record of a registered name tells what its channel shows, unless an injected fault fails the
reading.

A name that was closed, or whose channel was detached, has nothing under it, and moves that spare it
leave it so.

Results:
* `Gateway.Setting.piece`, `Traffic.setting_run`: a write that is answered shows on the channel.
* `Traffic.shows_of_under`: what the status records tell of a name.
* **`writes_persist`**: writes, closings and detachments stay, after every run.
-/

namespace ChannelGateway

/-! ## What shows -/

/-- Whether a channel shows a written value. -/
def Write.ShownBy (w : Write) (c : Channel) : Prop :=
  c.spec.kind = w.kind ∧
    match w with
    | .state b => c.state = b
    | .voltage volts => c.voltage = volts

/-- What a channel that shows a written value reads. -/
def Write.reading : Write → Reading
  | .state b => .state b
  | .voltage volts => .voltage volts

theorem Write.shownBy_apply {w : Write} {c : Channel} (hk : c.spec.kind = w.kind) :
    w.ShownBy (w.apply c) := by
  cases w <;> exact ⟨hk, rfl⟩

/-- A channel that shows a value reads it, or an injected fault fails the reading. -/
theorem Write.ShownBy.reading {w : Write} {c : Channel} (h : w.ShownBy c) (i : Injection) :
    match (i.check w.kind.reader).1 with
    | none => c.reading i = w.reading
    | some f => c.reading i = .unavailable f.error.text ∧ f.isInjected = true := by
  obtain ⟨hk, hshown⟩ := h
  unfold Channel.reading
  rw [hk]
  cases hf : (i.check w.kind.reader).1 with
  | some f => exact ⟨rfl, Injection.isInjected_of_check hf⟩
  | none => cases w <;> simp_all [Write.kind, ChannelKind.isDigital, Write.reading]

/-! ## How far a write has come -/

/-- How far a request has come that is to write a value to a name. -/
inductive Gateway.Setting (g : Gateway) (name : String) (w : Write) : Progress → Prop
  | ready {request : OpenRequest} (own : request.name = name) :
    Setting g name w (.ready (.use request (.write w)))
  | queued {request : OpenRequest} (own : request.name = name) :
    Setting g name w (.queued (.use request (.write w)))
  | opening {r : Resource} {wait : Waiting} (own : r.name = name) :
    Setting g name w (.opening r (.write w) wait)
  /-- The resource of the name takes the value. -/
  | writing {r : Resource} {channel : Option Channel} {due : Nat}
    (entry : g.under name = some (r, channel)) (takes : ∀ c ∈ channel, c.spec.kind = w.kind) :
    Setting g name w (.writing r (.writing due w))
  /-- The channel of the name shows the value. -/
  | taken {r : Resource} {channel : Option Channel} {answer : Option Resource}
    (entry : g.under name = some (r, channel)) (shows : ∀ c ∈ channel, w.ShownBy c) :
    Setting g name w (.done (.ok answer))
  | failed {e : GatewayError} : Setting g name w (.done (.error e))

namespace Gateway.Setting

variable {g g' : Gateway} {name : String} {w : Write} {p p' : Progress} {now ticket : Nat}
  {held : Nat → Bool}

/-- What is under the name is all that matters. -/
theorem congr (h : g.Setting name w p) (he : g'.under name = g.under name) :
    g'.Setting name w p := by
  cases h with
  | ready own => exact .ready own
  | queued own => exact .queued own
  | opening own => exact .opening own
  | writing entry takes => exact .writing (he.trans entry) takes
  | taken entry shows => exact .taken (he.trans entry) shows
  | failed => exact .failed

/-- Only a channel that is the channel of a resource is under its name. -/
theorem eq_channelOf {r : Resource} {c : Channel} (hc : g.hub.channel? r.serial = some c) :
    g.channelOf r = c := by
  unfold channelOf
  rw [hc]
  rfl

/-- A value has landed on the channel of a name. -/
theorem land {r : Resource} {hub : Hub} {answer : Option Resource}
    (found : g.registry.resolve name = some r)
    (hhub : hub = g.hub.modify r.serial w.apply)
    (takes : ∀ c, g.hub.channel? r.serial = some c → c.spec.kind = w.kind) :
    Setting { g with hub } name w (.done (.ok answer)) := by
  refine .taken (under_of_resolve (g := { g with hub }) found) fun c hc => ?_
  have hmodify := Hub.channel?_modify g.hub r.serial r.serial
    (f := w.apply) fun _ => by cases w <;> rfl
  rw [if_pos rfl] at hmodify
  obtain ⟨c', hc', rfl⟩ := Option.map_eq_some_iff.mp (hmodify.symm.trans (hhub ▸ hc))
  exact Write.shownBy_apply (takes c' hc')

/-- A request writes to a name that it has found open. -/
theorem follow (now : Nat) {r : Resource} (found : g.registry.resolve name = some r) :
    Setting (g.follow now r (.write w)).1 name w (g.follow now r (.write w)).2 := by
  by_cases hk : (g.channelOf r).spec.kind = w.kind
  · have takes : ∀ c, g.hub.channel? r.serial = some c → c.spec.kind = w.kind :=
      fun c hc => eq_channelOf hc ▸ hk
    have ho := Hub.startWrite_outcome g.hub now (g.channelOf r) w
    simp only [Gateway.follow]
    generalize g.hub.startWrite now (g.channelOf r) w = result at ho ⊢
    cases ho with
    | failed i f => exact .failed
    | waiting i due => exact .writing (under_of_resolve found) fun c hc => takes c hc
    | written i =>
      rw [serial_channelOf]
      exact land (g := { g with hub := g.hub.withInjection i }) found rfl takes
  · -- a channel of another kind refuses the value
    simp only [Gateway.follow, Hub.startWrite, ne_eq, hk, not_false_eq_true, if_true]
    exact .failed

/-- A request writes to a name that it has just registered. -/
theorem register (now ticket : Nat) {r : Resource} (own : r.name = name) :
    Setting (g.register now ticket r (.write w)).1 name w
      (g.register now ticket r (.write w)).2 :=
  follow (g := ({ g with registry := g.registry.insert r } : Gateway).leaveGate r.name ticket) now
    ((Registry.resolve_insert ..).trans (if_pos own))

/-- **A piece brings a write to its next stage.** -/
theorem piece (h : g.Setting name w p) (hp : g.Piece now held ticket p g' p') :
    g'.Setting name w p' := by
  cases h with
  | ready own =>
    cases hp with
    | enter job => exact .queued own
    | reuse found => exact follow now (own ▸ found)
  | @queued request own =>
    cases hp with
    | join turn found =>
      exact follow (g := g.leaveGate request.name ticket) now (own ▸ found)
    | refuse turn free missing => exact .failed
    | create turn free known attempt => exact .opening own
    | createOpen turn free known attempt => exact register now ticket own
    | createFailed turn free known attempt => exact .failed
  | opening own =>
    cases hp with
    | attached due result => exact register now ticket own
    | unattached due result => exact .failed
  | @writing r channel due entry takes =>
    obtain ⟨found, rfl⟩ := of_under entry
    cases hp with
    | written _ result =>
      cases result
      rw [serial_channelOf]
      exact land found rfl fun c hc => takes c hc
    | unwritten _ result => exact .failed
  | taken entry shows => cases hp
  | failed => cases hp

/-- A call of `Gateway.advance` brings a write to its next stage. -/
theorem advance (h : g.Setting name w p) (ha : g.advance now held ticket p = some (g', p')) :
    g'.Setting name w p' := by
  rcases advance_piece ha with hone | ⟨job, rfl, htwo⟩
  · exact h.piece hone
  · have henter : g.Piece now held ticket (.ready job)
        { g with gates := g.gates.enter job.name ticket } (.queued job) := .enter job
    exact (h.piece henter).piece htwo

end Gateway.Setting

/-! ## A write that nothing else interferes with -/

/-- Whether a move lets the task with a ticket go on, or has nothing to do with a name and leaves
the task. -/
def Move.attends (name : String) (ticket : Nat) (t : Traffic) : Move → Bool
  | advance k outside => k = ticket || (advance k outside).spares name t
  | cancel k => k ≠ ticket && (cancel k).spares name t
  | m => m.spares name t

theorem Move.isForeign_of_attends {name : String} {ticket : Nat} {t : Traffic} {m : Move}
    (h : m.attends name ticket t = true) : m.isForeign = false := by
  cases m with
  | advance k outside => rfl
  | cancel k => rfl
  | _ => exact isForeign_of_spares (show Move.spares name t _ = true from h)

namespace Traffic

variable {config : HubConfig} {t : Traffic} {name : String} {ticket : Nat} {w : Write}

/-- Whether moves, made one after the other, let the task with a ticket go on, or have nothing to do
with a name. -/
def attends (name : String) (ticket : Nat) (t : Traffic) : List Move → Bool
  | [] => true
  | m :: rest => m.attends name ticket t && (t.step m).attends name ticket rest

/-- The task with a ticket has one request, which is to write a value to a name. -/
def IsSetting (t : Traffic) (name : String) (w : Write) (ticket : Nat) : Prop :=
  ∃ u, t.task? ticket = some u ∧ u.rest = [] ∧ t.gateway.Setting name w u.progress

/-- A move leaves the tasks that it neither lets go on nor gives up. -/
theorem task?_step (t : Traffic) {m : Move} {u : Task} (hu : t.task? ticket = some u)
    (hadvance : ∀ outside, m ≠ .advance ticket outside) (hcancel : m ≠ .cancel ticket) :
    (t.step m).task? ticket = some u := by
  cases m with
  | arrive k jobs =>
    simp only [step, arrive]
    split
    · rename_i v _ hv
      unfold task? at hu ⊢
      rw [List.find?_append, hu]
      rfl
    · exact hu
  | advance k outside =>
    have hk : ticket ≠ k := by
      rintro rfl
      exact hadvance outside rfl
    simp only [step]
    cases hv : t.task? k with
    | none => rwa [advance, hv]
    | some v =>
      rcases advance_of_task? hv outside with ⟨-, he⟩ | ⟨g, v', -, hticket, he⟩
      · rwa [he]
      · rw [he, task?_replace hv hticket, Function.update_of_ne hk, hu]
  | cancel k =>
    have hk : ticket ≠ k := by
      rintro rfl
      exact hcancel rfl
    simp only [step, cancel]
    split
    · exact hu
    · unfold task? at hu ⊢
      rw [List.find?_filter, ← hu]
      congr 1
      funext v
      by_cases hv : v.ticket = ticket <;> simp [hv, hk]
  | intervene serial what =>
    simp only [step]
    rcases t.intervene_cases serial what with he | ⟨_, _, _, _, _, _, he⟩ <;> rw [he] <;> exact hu
  | _ => exact hu

/-- The task goes on with its write. -/
theorem IsSetting.advance (h : t.IsSetting name w ticket) (outside : Nat → Bool) :
    (t.advance ticket outside).IsSetting name w ticket := by
  obtain ⟨u, hu, hrest, hs⟩ := h
  rcases advance_of_task? hu outside with ⟨-, he⟩ | ⟨g, v, ha, hticket, he⟩
  · rw [he]
    exact ⟨u, hu, hrest, hs⟩
  · refine ⟨v, by rw [he, task?_replace hu hticket, Function.update_self], ?_⟩
    rcases Task.advance_cases ha with ⟨_, job, rest, _, hmore, _, _⟩ | ⟨p', hp, rfl⟩
    · rw [hrest] at hmore
      cases hmore
    · refine ⟨hrest, ?_⟩
      rw [he]
      exact hs.advance hp

/-- **A move lets the write go on, or leaves it where it stands.** -/
theorem IsSetting.step (h : t.IsSetting name w ticket) (hc : t.IsCoupled config) {m : Move}
    (hm : m.attends name ticket t = true) : (t.step m).IsSetting name w ticket := by
  by_cases hown : ∃ outside, m = .advance ticket outside
  · obtain ⟨outside, rfl⟩ := hown
    exact h.advance outside
  · obtain ⟨u, hu, hrest, hs⟩ := h
    have hcancel : m ≠ .cancel ticket := by
      rintro rfl
      simp [Move.attends] at hm
    have hspares : m.spares name t = true := by
      cases m with
      | advance k outside =>
        have hk : k ≠ ticket := by
          rintro rfl
          exact hown ⟨outside, rfl⟩
        simpa [Move.attends, hk] using hm
      | cancel k =>
        rw [Move.attends, Bool.and_eq_true] at hm
        exact hm.2
      | _ => exact hm
    refine ⟨u, t.task?_step hu (fun outside he => hown ⟨outside, he⟩) hcancel, hrest, ?_⟩
    exact hs.congr (under_step hc hspares)

/-- **A run lets the write go on.** -/
theorem setting_run (h : t.IsSetting name w ticket) (hc : t.IsCoupled config)
    {moves : List Move} (hm : t.attends name ticket moves = true) :
    (t.run moves).IsSetting name w ticket ∧ (t.run moves).IsCoupled config := by
  induction moves generalizing t with
  | nil => exact ⟨h, hc⟩
  | cons m rest ih =>
    unfold attends at hm
    rw [Bool.and_eq_true] at hm
    exact ih (h.step hc hm.1) (hc.step (Move.isForeign_of_attends hm.1)) hm.2

/-- A task that has just arrived is before its write. -/
theorem IsSetting.arrive {request : OpenRequest} (hname : request.name = name)
    (hfree : t.task? ticket = none) :
    (t.arrive ticket [.use request (.write w)]).IsSetting name w ticket := by
  refine ⟨⟨ticket, .ready (.use request (.write w)), [], []⟩, ?_, rfl, .ready hname⟩
  unfold Traffic.arrive
  rw [hfree]
  unfold task? at hfree ⊢
  dsimp only [Task.ofJobs?]
  rw [List.find?_append, hfree]
  simp

/-! ## Status records -/

/-- The status record of a name tells a written value, unless an injected fault fails the
reading. -/
structure Shows (t : Traffic) (name : String) (w : Write) : Prop where
  listed : ∃ s ∈ t.gateway.snapshot.1, s.name = name
  kind : ∀ s ∈ t.gateway.snapshot.1, s.name = name → s.kind = w.kind
  reading : ∀ s ∈ t.gateway.snapshot.1, s.name = name → ∃ ops,
    match ((t.gateway.hub.injection.after ops).check s.kind.reader).1 with
    | none => s.reading = w.reading
    | some f => s.reading = .unavailable f.error.text ∧ f.isInjected = true

/-- Nothing is registered or listed under a name. -/
structure Lacks (t : Traffic) (name : String) : Prop where
  resolve : t.gateway.registry.resolve name = none
  unlisted : ∀ s ∈ t.gateway.snapshot.1, s.name ≠ name

end Traffic

/-- There is a status record for each resource. -/
theorem Gateway.names_statuses (g : Gateway) (resources : List Resource) :
    (g.statuses resources).1.map Status.name = resources.map Resource.name := by
  induction resources generalizing g with
  | nil => rfl
  | cons r rest ih => exact congrArg (r.name :: ·) (ih (g.status r).2)

/-- The names of the status records are those of the resources. -/
theorem Gateway.mem_names_snapshot {g : Gateway} {name : String} :
    (∃ s ∈ g.snapshot.1, s.name = name) ↔ ∃ r ∈ g.registry.resources, r.name = name := by
  have hnames := g.names_statuses g.registry.resources
  have hmem : ∀ s, s ∈ g.snapshot.1 ↔ s ∈ (g.statuses g.registry.resources).1 :=
    fun s => List.mem_mergeSort
  simp only [hmem, ← List.mem_map, hnames]

namespace Traffic

variable {config : HubConfig} {t : Traffic} {name : String} {w : Write}

/-- **A value that the channel of a name shows is what its status record tells.** -/
theorem shows_of_under (h : t.IsCoupled config) {r : Resource} {channel : Option Channel}
    (entry : t.gateway.under name = some (r, channel)) (shows : ∀ c ∈ channel, w.ShownBy c) :
    t.Shows name w := by
  obtain ⟨found, rfl⟩ := Gateway.of_under entry
  have hresolve : ∀ s ∈ t.gateway.registry.resources,
      t.gateway.registry.resolve s.name = some s := fun s hs => h.consistent.resolve_of_mem hs
  have hrecord : ∀ s ∈ t.gateway.snapshot.1, s.name = name → ∃ c ops,
      w.ShownBy c ∧ s.kind = c.spec.kind ∧
        s.reading = c.reading (t.gateway.hub.injection.after ops) := by
    intro s hs hname
    obtain ⟨r', hr', c, ops, hc, hkind, rfl⟩ := Gateway.statuses_usable
      (fun r hr => h.sound.usable (hresolve r hr)) s (List.mem_mergeSort.mp hs)
    have hsame : r' = r := by
      have hr := hresolve r' hr'
      rw [show r'.name = name from hname, found] at hr
      exact (Option.some.inj hr).symm
    subst hsame
    exact ⟨c, ops, shows c hc, hkind.symm, rfl⟩
  refine ⟨?_, fun s hs hname => ?_, fun s hs hname => ?_⟩
  · exact Gateway.mem_names_snapshot.mpr
      ⟨r, List.mem_map.mpr ⟨(name, r), Table.mem_of_get? found, rfl⟩, h.consistent.name_eq found⟩
  · obtain ⟨c, ops, hshown, hkind, -⟩ := hrecord s hs hname
    rw [hkind, hshown.1]
  · obtain ⟨c, ops, hshown, hkind, hreading⟩ := hrecord s hs hname
    refine ⟨ops, ?_⟩
    rw [hkind, hshown.1, hreading]
    exact hshown.reading _

/-- A name that is not registered is not listed. -/
theorem lacks_of_under (h : t.IsCoupled config) (entry : t.gateway.under name = none) :
    t.Lacks name := by
  have hnone := Gateway.under_eq_none.mp entry
  refine ⟨hnone, fun s hs hname => ?_⟩
  obtain ⟨r, hr, hrname⟩ := Gateway.mem_names_snapshot.mp ⟨s, hs, hname⟩
  have hresolve := h.consistent.resolve_of_mem hr
  rw [hrname, hnone] at hresolve
  cases hresolve

/-- A name that has been closed has nothing under it. -/
theorem under_of_closed {p : Progress} {ticket : Nat} {outside : Nat → Bool}
    (hp : p = .ready (.close name) ∨ p = .queued (.close name))
    (stood : t.standing ticket = some p)
    (done : (t.advance ticket outside).standing ticket = some (.done (.ok none))) :
    (t.advance ticket outside).gateway.under name = none := by
  rw [Gateway.under_eq_none]
  rcases t.advance_cases ticket outside with
    he | ⟨_, job, hs, _, _⟩ | ⟨q, g, p', hs, ha, hg, hstanding⟩
  · rw [he, stood] at done
    obtain rfl | rfl := hp <;> cases done
  · rw [stood] at hs
    obtain rfl | rfl := hp <;> cases hs
  · rw [hstanding, Function.update_self] at done
    cases done
    rw [stood] at hs
    cases hs
    obtain ⟨r, -, hdrop⟩ := Gateway.closed_of_advance hp ha
    rw [hg, hdrop, Registry.resolve_drop, if_pos rfl]

/-- A name whose channel has lost its hardware has nothing under it. -/
theorem under_of_detached (h : t.IsCoupled config) {r : Resource}
    (found : t.gateway.registry.resolve name = some r) :
    (t.intervene r.serial .detach).gateway.under name = none := by
  obtain ⟨c, hc, hspec⟩ := h.backed.channel? (Backed.known_resolve found)
  rw [Gateway.under_eq_none]
  unfold intervene
  rw [hc]
  refine (Gateway.resolve_detached h.consistent c.spec.id name).trans ?_
  rw [found, hspec]
  simp [Resource.id, Option.filter]

/-- What a gateway promises of a name from a moment on. -/
structure Retains (t : Traffic) (name : String) : Prop where
  /-- A call writes a value to the name. It is answered while nothing but its own task and moves
  that have nothing to do with the name happen, and afterwards only such moves happen: the status
  record of the name tells the value. -/
  written : ∀ call request w ticket during after answer,
    Call.job t.gateway.openTimeout call = .ok (.use request (.write w)) → request.name = name →
    t.task? ticket = none →
    let begun := t.arrive ticket [.use request (.write w)]
    begun.attends name ticket during = true →
    (begun.run during).standing ticket = some (.done (.ok answer)) →
    (begun.run during).spares name after = true →
    ((begun.run during).run after).Shows name w
  /-- The name is closed, and only moves happen that have nothing to do with it: it is absent. -/
  closed : ∀ ticket p outside after,
    p = .ready (.close name) ∨ p = .queued (.close name) → t.standing ticket = some p →
    (t.advance ticket outside).standing ticket = some (.done (.ok none)) →
    (t.advance ticket outside).spares name after = true →
    ((t.advance ticket outside).run after).Lacks name
  /-- The channel of the name loses its hardware, and only moves happen that have nothing to do with
  the name: it is absent. -/
  detached : ∀ r after, t.gateway.registry.resolve name = some r →
    (t.intervene r.serial .detach).spares name after = true →
    ((t.intervene r.serial .detach).run after).Lacks name

end Traffic

/-- **A write stays until the next one.** In every state that a gateway can reach without anybody
operating its channels directly, and for every name: the last value that was written to the name is
what its status record tells, and a name that was closed or detached is absent, until a request for
the name or an event of its channel comes. -/
theorem writes_persist (gateway : GatewayConfig) (config : HubConfig) (seed : UInt64)
    (before : List Move) (own : ∀ m ∈ before, m.isForeign = false) (name : String) :
    ((Traffic.ofGateway (.ofConfig gateway (.ofConfig config seed))).run before).Retains name := by
  have h := (Traffic.IsCoupled.ofConfig gateway config seed).run own
  generalize (Traffic.ofGateway (.ofConfig gateway (.ofConfig config seed))).run before = t at h ⊢
  constructor
  case written =>
    intro _ request w ticket during after answer _ hname hfree begun attends answered spares
    have harrive : begun.IsCoupled config := h.step (m := .arrive ticket _) rfl
    obtain ⟨⟨u, hu, -, hs⟩, hc⟩ := Traffic.setting_run (.arrive hname hfree) harrive attends
    rw [Traffic.standing, hu, Option.map_some, Option.some.injEq] at answered
    rw [answered] at hs
    cases hs with
    | taken entry shows =>
      have hafter := Traffic.under_run hc spares
      exact Traffic.shows_of_under (hc.run (Traffic.isForeign_of_spares spares))
        (hafter.trans entry) shows
  case closed =>
    intro ticket p outside after hp stood done spares
    have hc := h.step (m := .advance ticket outside) rfl
    have hafter := Traffic.under_run hc spares
    exact Traffic.lacks_of_under (hc.run (Traffic.isForeign_of_spares spares))
      (hafter.trans (Traffic.under_of_closed hp stood done))
  case detached =>
    intro r after found spares
    have hc := h.step (m := .intervene r.serial .detach) rfl
    have hafter := Traffic.under_run hc spares
    exact Traffic.lacks_of_under (hc.run (Traffic.isForeign_of_spares spares))
      (hafter.trans (Traffic.under_of_detached h found))

/-- Whether a request has been answered without an error. -/
def Progress.isAnswered : Progress → Bool
  | done (.ok _) => true
  | _ => false

theorem Traffic.answered_of_standing {t : Traffic} {ticket : Nat}
    (h : (t.standing ticket).any Progress.isAnswered = true) :
    ∃ answer, t.standing ticket = some (.done (.ok answer)) := by
  cases hs : t.standing ticket with
  | none =>
    rw [hs] at h
    cases h
  | some p =>
    rw [hs] at h
    cases p with
    | done outcome =>
      cases outcome with
      | ok answer => exact ⟨answer, rfl⟩
      | error e => cases h
    | _ => cases h

/-- A lamp is switched on while a horn that takes a voltage is being opened at the same place, and
the horn sounds afterwards; later the lamp is detached. -/
theorem writes_persist_lamp :
    let go (ticket : Nat) : Move := .advance ticket fun _ => false
    let lamp : Call := .digitalOut "lamp" true ⟨0, 0⟩
    let horn : Job := .use ⟨"horn", .voltageOutput, ⟨0, 0⟩, 1000⟩ (.write (.voltage 5))
    let t := Traffic.ofGateway (.ofConfig {} (.ofConfig { mode := .realistic } 0))
    let request : OpenRequest := ⟨"lamp", .digitalOutput, ⟨0, 0⟩, t.gateway.openTimeout⟩
    let begun := t.arrive 0 [.use request (.write (.state true))]
    let during := [go 0, .arrive 1 [horn], go 1, .wait 250, go 0, .wait 2, go 0]
    let after := [go 1, .snapshot, .wait 2, go 1, .arrive 2 [.close "horn"], .intervene 1 .attach,
      go 2]
    let moves := .arrive 0 [.use request (.write (.state true))] :: during
    let later := t.run moves
    lamp.job t.gateway.openTimeout = .ok (.use request (.write (.state true))) ∧
      ((begun.run during).run after).Shows "lamp" (.state true) ∧
      ∃ r, later.gateway.registry.resolve "lamp" = some r ∧
        ((later.intervene r.serial .detach).run after).Lacks "lamp" := by
  intro go lamp horn t request begun during after moves later
  have hjob : lamp.job t.gateway.openTimeout = .ok (.use request (.write (.state true))) := rfl
  obtain ⟨answer, answered⟩ := Traffic.answered_of_standing (t := begun.run during)
    (show ((begun.run during).standing 0).any Progress.isAnswered = true by decide +kernel)
  have hretains : t.Retains "lamp" :=
    writes_persist {} { mode := .realistic } 0 [] (fun m hm => by cases hm) "lamp"
  have hshows := hretains.written lamp request (.state true) 0 during after answer hjob rfl
    (by decide +kernel) (by decide +kernel) answered (by decide +kernel)
  have hlater : later.Retains "lamp" :=
    writes_persist {} { mode := .realistic } 0 moves (by simp [moves, during, go, Move.isForeign])
      "lamp"
  have hopen : (later.gateway.registry.resolve "lamp").map Resource.serial = some 0 := by
    decide +kernel
  obtain ⟨r, hr, hserial⟩ := Option.map_eq_some_iff.mp hopen
  refine ⟨hjob, hshows, r, hr, hlater.detached r after hr ?_⟩
  rw [hserial]
  decide +kernel

end ChannelGateway
