import ChannelGateway.Proofs.Traffic

/-!
# What a move does to the deliveries

A delivery is scheduled for each subscriber of a name when an input that is registered under it
reports an edge; it begins when its turn comes and ends when it is settled. `Traffic.Dispatch` says
that a move does one of these things to the dispatcher and nothing else: requests, attachments,
detachments and faults leave it alone.

The history of a run is collected move by move (`Traffic.collect`). What is *owed* is said in terms
of the channel, the registry and the subscriptions only; what has *begun* is read off the
dispatcher.

Results:
* `Dispatcher.announce_eq`, `Dispatcher.beginAll_eq`: scheduling and beginning in closed form.
* **`Traffic.step_dispatch`**: all that a move does to the dispatcher.
* **`Traffic.begun_run`**: what begins in a run and what it leaves scheduled are what was scheduled
  before and what the run calls for, in this order and under the next numbers.
-/

namespace ChannelGateway

/-- A state change and the subscriber that is to be told of it. -/
structure Notice where
  url : String
  change : StateChange
  deriving DecidableEq, Repr

/-- Notices as deliveries, numbered in order. -/
def Notice.deliveries (first : Nat) (notices : List Notice) : List Delivery :=
  (notices.zipIdx first).map fun n => ⟨n.2, n.1.url, n.1.change⟩

@[simp]
theorem Notice.deliveries_nil (first : Nat) : deliveries first [] = [] := rfl

theorem Notice.deliveries_append (first : Nat) (notices more : List Notice) :
    deliveries first (notices ++ more) =
      deliveries first notices ++ deliveries (first + notices.length) more := by
  unfold deliveries
  rw [List.zipIdx_append, List.map_append]

theorem Notice.number_deliveries (first : Nat) (notices : List Notice) :
    (deliveries first notices).map Delivery.number = List.range' first notices.length := by
  unfold deliveries
  rw [List.map_map, ← List.zipIdx_map_snd first notices]
  rfl

namespace Dispatcher

/-- Schedule deliveries of notices, in order. -/
def announce (d : Dispatcher) (notices : List Notice) : Dispatcher :=
  notices.foldl (fun d n => d.schedule n.change n.url) d

theorem fanOut_eq (d : Dispatcher) (change : StateChange) (urls : List String) :
    d.fanOut change urls = d.announce (urls.map fun url => ⟨url, change⟩) := by
  unfold fanOut announce
  rw [List.foldl_map]

/-- **Scheduling** appends the deliveries under the next numbers. -/
theorem announce_eq (d : Dispatcher) (notices : List Notice) :
    d.announce notices =
      { d with
        next := d.next + notices.length
        scheduled := d.scheduled ++ Notice.deliveries d.next notices } := by
  induction notices generalizing d with
  | nil => simp [announce]
  | cons n rest ih =>
    have hstep : d.announce (n :: rest) = (d.schedule n.change n.url).announce rest := rfl
    rw [hstep, ih]
    simp [schedule, Notice.deliveries, Nat.add_assoc, Nat.add_comm 1]

/-- **Beginning** puts every scheduled delivery in flight. -/
theorem beginAll_eq (d : Dispatcher) (now : Nat) (receivers : String → Receiver) :
    d.beginAll now receivers =
      { d with
        scheduled := []
        inFlight := d.inFlight ++
          d.scheduled.map fun s => s.launch now d.timeout (receivers s.url)
        attempted := d.attempted + d.scheduled.length } := by
  unfold beginAll
  -- the fold runs once for each delivery that was scheduled at its beginning
  generalize hl : d.scheduled = l
  induction l generalizing d with
  | nil =>
    cases d
    simp_all
  | cons first rest ih =>
    have hbegin : d.beginFirst now receivers =
        { d with
          scheduled := rest
          inFlight := d.inFlight ++ [first.launch now d.timeout (receivers first.url)]
          attempted := d.attempted + 1 } := by
      unfold beginFirst
      rw [hl]
    rw [List.foldl_cons, hbegin, ih _ rfl]
    simp [Nat.add_assoc, Nat.add_comm 1]

/-- Beginning does nothing if nothing is scheduled. -/
theorem beginAll_of_scheduled {d : Dispatcher} (h : d.scheduled = []) (now : Nat)
    (receivers : String → Receiver) : d.beginAll now receivers = d := by
  unfold beginAll
  rw [h]
  rfl

/-- Settling does nothing if nothing is in flight. -/
theorem settle_of_inFlight {d : Dispatcher} (h : d.inFlight = []) (now : Nat) :
    d.settle now = d := by
  cases d
  simp_all [settle]

end Dispatcher

@[simp]
theorem delivery_launch (d : Delivery) (now timeout : Nat) (r : Receiver) :
    (d.launch now timeout r).delivery = d := by
  unfold Delivery.launch
  split <;> rfl

/-! ## Requests leave the dispatcher alone -/

namespace Gateway

variable {g g' : Gateway} {now ticket : Nat} {held : Nat → Bool}

@[simp]
theorem dispatcher_follow (g : Gateway) (now : Nat) (r : Resource) (followup : Followup) :
    (g.follow now r followup).1.dispatcher = g.dispatcher := by
  have h := follow_outcome g now r followup
  generalize g.follow now r followup = result at h ⊢
  cases h <;> rfl

@[simp]
theorem dispatcher_register (g : Gateway) (now ticket : Nat) (r : Resource) (followup : Followup) :
    (g.register now ticket r followup).1.dispatcher = g.dispatcher :=
  dispatcher_follow ..

theorem dispatcher_piece {p p' : Progress} (hp : g.Piece now held ticket p g' p') :
    g'.dispatcher = g.dispatcher := by
  cases hp with
  | reuse found => exact dispatcher_follow ..
  | join turn found => exact dispatcher_follow ..
  | createOpen turn free known attempt => exact dispatcher_register ..
  | attached due result => exact dispatcher_register ..
  | _ => rfl

theorem dispatcher_advance {p p' : Progress} (h : g.advance now held ticket p = some (g', p')) :
    g'.dispatcher = g.dispatcher := by
  rcases advance_piece h with hone | ⟨job, _, htwo⟩
  · exact dispatcher_piece hone
  · exact dispatcher_piece (g := { g with gates := g.gates.enter job.name ticket }) htwo

theorem dispatcher_cancel (g : Gateway) (ticket : Nat) (p : Progress) :
    (g.cancel ticket p).dispatcher = g.dispatcher := by
  unfold cancel
  split <;> rfl

/-! ## Events -/

/-- The notices that an edge of a channel calls for: one to each subscriber that its name has, if
the channel is registered. -/
def owed (g : Gateway) (id : ChannelId) (state : Bool) : List Notice :=
  match g.registry.nameFor id with
  | some name => (g.subscriptions.listFor name).map fun url => ⟨url, name, state⟩
  | none => []

theorem dispatcher_observe_changed (g : Gateway) (id : ChannelId) (state : Bool) :
    (g.observe (.changed id state)).dispatcher = g.dispatcher.announce (g.owed id state) := by
  unfold observe owed
  dsimp only
  cases g.registry.nameFor id with
  | none => rfl
  | some name => exact Dispatcher.fanOut_eq ..

/-- Whatever the gateway is told, it schedules notices or does nothing. -/
theorem dispatcher_observe (g : Gateway) (e : HubEvent) :
    ∃ notices, (g.observe e).dispatcher = g.dispatcher.announce notices := by
  cases e with
  | changed id state => exact ⟨_, g.dispatcher_observe_changed id state⟩
  | _ => exact ⟨[], rfl⟩

/-- Events that tell of no change schedule nothing. -/
theorem dispatcher_observeAll (g : Gateway) {events : List HubEvent}
    (quiet : ∀ id state, .changed id state ∉ events) :
    (g.observeAll events).dispatcher = g.dispatcher := by
  induction events generalizing g with
  | nil => rfl
  | cons e rest ih =>
    have hrest := ih (g.observe e) fun id state hm => quiet id state (List.mem_cons_of_mem e hm)
    refine hrest.trans ?_
    cases e with
    | changed id state => exact absurd List.mem_cons_self (quiet id state)
    | _ => rfl

end Gateway

namespace Hub

variable {h : Hub} {c : Channel}

/-- An input that takes a state does nothing, or reports an edge. -/
theorem changeInput_cases (h : Hub) (c : Channel) (state : Bool) :
    (∃ result, h.changeInput c state = (h, [], result) ∧ result ≠ .ok true) ∨
      c.attached = true ∧ h.changeInput c state =
        (h.modify c.serial fun c => { c with state }, [.changed c.spec.id state], .ok true) := by
  unfold changeInput
  split
  · exact .inl ⟨_, rfl, by simp⟩
  split
  · exact .inl ⟨_, rfl, by simp⟩
  split
  · exact .inl ⟨_, rfl, by simp⟩
  · rename_i hattached _
    exact .inr ⟨by simpa using hattached, rfl⟩

/-- Only an input that takes a state tells of a change. -/
theorem changed_notMem_intervene (h : Hub) (now : Nat) (c : Channel) {what : Intervention}
    (hw : ∀ state, what ≠ .change state) (id : ChannelId) (state : Bool) :
    .changed id state ∉ (h.intervene now c what).2.1 := by
  cases what with
  | change state => exact absurd rfl (hw state)
  | detach => simp [intervene, detach]
  | attach =>
    simp only [intervene, reattach]
    split <;> simp
  | fault code text => simp [intervene, raise]
  | inspect => simp [intervene]
  | operate io =>
    intro hm
    have hevents : (h.operate now c io).2.1 = (h.start now c io).2.1 := by
      unfold operate
      rcases h.start now c io with ⟨hub, events, status⟩
      cases status <;> rfl
    simp only [intervene] at hm
    rw [hevents] at hm
    cases io with
    | openWithin timeout =>
      have hattached := startOpen_events (c := c) (h := h) rfl _ hm
      cases hattached
    | _ => simp [start] at hm

end Hub

/-! ## Moves -/

namespace Traffic

/-- Collect what moves bring about, from the traffic that each of them finds. -/
def collect {α : Type} (f : Traffic → Move → List α) : Traffic → List Move → List α
  | _, [] => []
  | t, m :: moves => f t m ++ collect f (t.step m) moves

theorem collect_map {α β : Type} (f : Traffic → Move → List α) (g : α → β) (t : Traffic)
    (moves : List Move) :
    (t.collect f moves).map g = t.collect (fun t m => (f t m).map g) moves := by
  induction moves generalizing t with
  | nil => rfl
  | cons m moves ih => rw [collect, collect, List.map_append, ih]

/-- The edge that a move makes a channel report: an input takes a state, and it is a change. -/
def edge? (t : Traffic) : Move → Option (ChannelId × Bool)
  | .intervene serial (.change state) =>
    match t.gateway.hub.channel? serial with
    | some c =>
      match (t.gateway.hub.changeInput c state).2.2 with
      | .ok true => some (c.spec.id, state)
      | _ => none
    | none => none
  | _ => none

/-- The notices that a move calls for. -/
def owed (t : Traffic) (m : Move) : List Notice :=
  match t.edge? m with
  | some (id, state) => t.gateway.owed id state
  | none => []

/-- The deliveries that begin with a move. -/
def begun (t : Traffic) (m : Move) : List Delivery :=
  ((t.step m).gateway.dispatcher.inFlight.drop t.gateway.dispatcher.inFlight.length).map
    Flight.delivery

/-- What a move can do to the dispatcher. -/
inductive Dispatch (t : Traffic) (m : Move) : Dispatcher → Prop
  /-- The notices are scheduled that the move calls for, or none. -/
  | announces (own : ∀ e, m ≠ .tell e) (rests : ∀ receivers, m ≠ .deliver receivers) :
    Dispatch t m (t.gateway.dispatcher.announce (t.owed m))
  /-- The gateway is told of an event that no channel had. -/
  | told (e : HubEvent) (notices : List Notice) (own : m = .tell e) :
    Dispatch t m (t.gateway.dispatcher.announce notices)
  /-- What is scheduled begins. -/
  | begins (receivers : String → Receiver) (own : m = .deliver receivers) :
    Dispatch t m (t.gateway.dispatcher.beginAll t.now receivers)
  /-- What has come to its time ends. -/
  | ends (own : m = .settle) : Dispatch t m (t.gateway.dispatcher.settle t.now)

/-- A move that calls for no notice and leaves the dispatcher alone. -/
theorem Dispatch.still {t : Traffic} {m : Move} {d : Dispatcher} (own : ∀ e, m ≠ .tell e)
    (rests : ∀ receivers, m ≠ .deliver receivers) (edge : t.edge? m = none)
    (hd : d = t.gateway.dispatcher) : Dispatch t m d := by
  have howed : t.owed m = [] := by
    unfold owed
    rw [edge]
  have ha := Dispatch.announces (t := t) own rests
  rw [howed] at ha
  rw [hd]
  exact ha

theorem dispatcher_intervene (t : Traffic) (serial : Nat) (what : Intervention) :
    (t.step (.intervene serial what)).gateway.dispatcher =
      t.gateway.dispatcher.announce (t.owed (.intervene serial what)) := by
  simp only [step, intervene]
  cases hc : t.gateway.hub.channel? serial with
  | none =>
    have howed : t.owed (.intervene serial what) = [] := by
      cases what <;> simp [owed, edge?, hc]
    rw [howed]
    rfl
  | some c =>
    dsimp only
    by_cases hw : ∃ state, what = .change state
    · obtain ⟨state, rfl⟩ := hw
      simp only [owed, edge?, hc, Hub.intervene]
      rcases t.gateway.hub.changeInput_cases c state with ⟨result, he, hne⟩ | ⟨_, he⟩
      · rw [he]
        cases result with
        | error f => rfl
        | ok changed =>
          cases changed with
          | true => exact absurd rfl hne
          | false => rfl
      · rw [he]
        exact Gateway.dispatcher_observe_changed
          { t.gateway with hub := t.gateway.hub.modify c.serial _ } c.spec.id state
    · have hne : ∀ state, what ≠ .change state := fun state he => hw ⟨state, he⟩
      have hquiet := t.gateway.hub.changed_notMem_intervene t.now c hne
      have hedge : t.edge? (.intervene serial what) = none := by
        cases what with
        | change state => exact absurd ⟨state, rfl⟩ hw
        | _ => rfl
      rw [Gateway.dispatcher_observeAll _ hquiet, owed, hedge]
      rfl

/-- **All that a move does to the dispatcher.** -/
theorem step_dispatch (t : Traffic) (m : Move) : Dispatch t m (t.step m).gateway.dispatcher := by
  cases m with
  | arrive ticket jobs =>
    refine .still (by simp) (by simp) rfl ?_
    simp only [step]
    rcases t.arrive_cases ticket jobs with he | ⟨_, _, hg, _⟩
    · rw [he]
    · rw [hg]
  | advance ticket outside =>
    refine .still (by simp) (by simp) rfl ?_
    simp only [step]
    rcases t.advance_cases ticket outside with
      he | ⟨_, _, _, hg, _⟩ | ⟨_, _, _, _, ha, hg, _⟩
    · rw [he]
    · rw [hg]
    · rw [hg, Gateway.dispatcher_advance ha]
  | cancel ticket =>
    refine .still (by simp) (by simp) rfl ?_
    simp only [step]
    rcases t.cancel_cases ticket with he | ⟨_, _, hg, _⟩
    · rw [he]
    · rw [hg, Gateway.dispatcher_cancel]
  | intervene serial what =>
    rw [dispatcher_intervene]
    exact .announces (by simp) (by simp)
  | tell event =>
    obtain ⟨notices, hn⟩ := t.gateway.dispatcher_observe event
    simp only [step, hn]
    exact .told event notices rfl
  | shutdown =>
    refine .still (by simp) (by simp) rfl ?_
    simp only [step]
    rw [Gateway.shutdown_eq]
  | snapshot =>
    refine .still (by simp) (by simp) rfl ?_
    obtain ⟨i, hi⟩ := t.gateway.snapshot_snd
    simp only [step, hi]
  | deliver receivers => exact .begins receivers rfl
  | settle => exact .ends rfl
  | wait ms => exact .still (by simp) (by simp) rfl rfl
  | forget name id => exact .still (by simp) (by simp) rfl rfl
  | drain => exact .still (by simp) (by simp) rfl rfl
  | meddle hub => exact .still (by simp) (by simp) rfl rfl

/-- What begins with a move, and what it leaves scheduled, are what was scheduled before and what
the move calls for, in this order and under the next numbers. -/
theorem begun_step (t : Traffic) (m : Move) :
    ∃ notices, ((∀ e, m ≠ .tell e) → notices = t.owed m) ∧
      t.begun m ++ (t.step m).gateway.dispatcher.scheduled =
        t.gateway.dispatcher.scheduled ++
          Notice.deliveries t.gateway.dispatcher.next notices ∧
      (t.step m).gateway.dispatcher.next = t.gateway.dispatcher.next + notices.length := by
  have h := t.step_dispatch m
  unfold begun
  generalize (t.step m).gateway.dispatcher = d at h ⊢
  cases h with
  | announces own _ =>
    rw [Dispatcher.announce_eq]
    exact ⟨t.owed m, fun _ => rfl, by simp, rfl⟩
  | told e notices own =>
    rw [Dispatcher.announce_eq]
    exact ⟨notices, fun hm => absurd own (hm e), by simp, rfl⟩
  | begins receivers own =>
    subst own
    rw [Dispatcher.beginAll_eq]
    refine ⟨[], fun _ => rfl, ?_, rfl⟩
    simp [Function.comp_def]
  | ends own =>
    subst own
    refine ⟨[], fun _ => rfl, ?_, rfl⟩
    have hle := List.length_filter_le (fun f : Flight => decide (t.now < f.due))
      t.gateway.dispatcher.inFlight
    simp [Dispatcher.settle, List.drop_eq_nil_of_le hle]

/-- **The law of a run**: what begins in it and what it leaves scheduled are what was scheduled
before and what the run calls for, in this order and under the next numbers. -/
theorem begun_run (t : Traffic) (moves : List Move) :
    ∃ notices, ((∀ m ∈ moves, ∀ e, m ≠ .tell e) → notices = t.collect owed moves) ∧
      t.collect begun moves ++ (t.run moves).gateway.dispatcher.scheduled =
        t.gateway.dispatcher.scheduled ++
          Notice.deliveries t.gateway.dispatcher.next notices := by
  induction moves generalizing t with
  | nil => exact ⟨[], fun _ => rfl, by simp [collect, run]⟩
  | cons m moves ih =>
    obtain ⟨first, hfirst, hbegun, hnext⟩ := t.begun_step m
    obtain ⟨rest, hrest, hlater⟩ := ih (t.step m)
    refine ⟨first ++ rest, fun own => ?_, ?_⟩
    · rw [hfirst (own m List.mem_cons_self),
        hrest fun m' hm' => own m' (List.mem_cons_of_mem m hm')]
      rfl
    · calc
        t.collect begun (m :: moves) ++ (t.run (m :: moves)).gateway.dispatcher.scheduled
          = t.begun m ++ ((t.step m).collect begun moves ++
              ((t.step m).run moves).gateway.dispatcher.scheduled) := List.append_assoc ..
        _ = (t.begun m ++ (t.step m).gateway.dispatcher.scheduled) ++
              Notice.deliveries (t.step m).gateway.dispatcher.next rest := by
            rw [hlater, List.append_assoc]
        _ = t.gateway.dispatcher.scheduled ++
              (Notice.deliveries t.gateway.dispatcher.next first ++
                Notice.deliveries (t.gateway.dispatcher.next + first.length) rest) := by
            rw [hbegun, hnext, List.append_assoc]
        _ = t.gateway.dispatcher.scheduled ++
              Notice.deliveries t.gateway.dispatcher.next (first ++ rest) := by
            rw [Notice.deliveries_append]

end Traffic

end ChannelGateway
