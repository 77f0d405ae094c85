import ChannelGateway.Gateway.Request
import ChannelGateway.Proofs.Piece

/-!
# Traffic: everything that is under way on a gateway, in every order

A `Traffic` is a gateway, its clock and the tasks that have arrived. A `Move` is one thing that
happens: a task arrives, one of the tasks goes on to the next place where it may have to wait
(`Task.advance`), a task is given up where it stands, time passes, something happens to a channel,
the gateway is drained, shut down or listed. `Traffic.run` takes moves one after the other, so a
list of moves is an interleaving of any number of tasks at the places where they wait, and the
statements over all lists of moves are statements over all interleavings.

A move that cannot be made changes nothing. Who else holds a channel beside the registry and the
tasks is not part of the state: each `Move.advance` says it anew.

Three moves go beyond what the gateway does by itself. `Move.tell` reports an event that no channel
had. `Move.forget` forgets a name if it is bound to a channel: on a hub closing takes no time, so a
request never waits between closing a channel and forgetting its name, and with this move the runs
also show a close that takes its time at the gate. `Move.meddle` puts any hub in place of the hub,
which stands for whatever a driver or a direct user of channels can do to them; what is proved of
runs with these moves does not depend on the hub.

Results:
* `advance_cases`, `cancel_cases`, `arrive_cases`: all that the moves of one task do to the gateway
  and to where the tasks stand.
* **`step_change`**: all that a move does to the registry, to the gates and to where the tasks
  stand.
* `run_induction`: what every move keeps holds after every run.
-/

namespace ChannelGateway

/-- A gateway, its clock and the tasks that have arrived. -/
structure Traffic where
  gateway : Gateway
  now : Nat
  tasks : List Task

/-- One thing that happens to a gateway. -/
inductive Move where
  /-- A task of some requests arrives under a ticket that no task has. -/
  | arrive (ticket : Nat) (jobs : List Job)
  /-- A task goes on to the next place where it may have to wait; `outside` tells which channels
  somebody other than the gateway and its tasks holds. -/
  | advance (ticket : Nat) (outside : Nat → Bool)
  /-- A task is given up where it stands. -/
  | cancel (ticket : Nat)
  | wait (ms : Nat)
  /-- Something is done to the channel with a serial number. -/
  | intervene (serial : Nat) (what : Intervention)
  /-- The gateway is told of an event. -/
  | tell (event : HubEvent)
  /-- A name is forgotten if it is bound to a channel. -/
  | forget (name : String) (id : ChannelId)
  | drain
  | shutdown
  | snapshot
  /-- The scheduled deliveries begin. -/
  | deliver (receivers : String → Receiver)
  /-- The deliveries whose time has come end. -/
  | settle
  /-- The hub becomes another one. -/
  | meddle (hub : Hub)

/-- Whether a move does more to the channels than the hardware does: it puts another hub in place,
or operates a channel directly. -/
def Move.isForeign : Move → Bool
  | meddle _ => true
  | intervene _ (.operate _) => true
  | _ => false

/-- How long a move takes. -/
def Move.duration : Move → Nat
  | .wait ms => ms
  | _ => 0

/-- A task goes on as its request does. -/
theorem Task.advance_of_request {u : Task} {now : Nat} {held : Nat → Bool} {g g' : Gateway}
    {p : Progress} (ha : g.advance now held u.ticket u.progress = some (g', p)) :
    u.advance now held g = some (g', { u with progress := p }) := by
  unfold advance
  split
  · rename_i outcome job rest hdone hmore
    rw [hdone] at ha
    cases ha
  · rw [ha]
    rfl

namespace Traffic

/-- A gateway at the beginning of time, with no task. -/
def ofGateway (gateway : Gateway) : Traffic := ⟨gateway, 0, []⟩

/-- The task with a ticket. -/
def task? (t : Traffic) (ticket : Nat) : Option Task :=
  t.tasks.find? fun u => u.ticket = ticket

/-- Where the task with a ticket stands. -/
def standing (t : Traffic) (ticket : Nat) : Option Progress :=
  (t.task? ticket).map Task.progress

/-- Whether a channel is held beside the registry. -/
def held (t : Traffic) (outside : Nat → Bool) (serial : Nat) : Bool :=
  t.tasks.any (fun u => u.progress.holds serial) || outside serial

/-- Put a task in the place of the one that has its ticket. -/
def replace (t : Traffic) (u : Task) : List Task :=
  t.tasks.map fun v => if v.ticket = u.ticket then u else v

/-- A task arrives, unless its ticket is taken or it has no request to make. -/
def arrive (t : Traffic) (ticket : Nat) (jobs : List Job) : Traffic :=
  match t.task? ticket, Task.ofJobs? ticket jobs with
  | none, some u => { t with tasks := t.tasks ++ [u] }
  | _, _ => t

/-- A task goes on to the next place where it may have to wait. -/
def advance (t : Traffic) (ticket : Nat) (outside : Nat → Bool) : Traffic :=
  match t.task? ticket with
  | none => t
  | some u =>
    match u.advance t.now (t.held outside) t.gateway with
    | none => t
    | some (gateway, u) => { t with gateway, tasks := t.replace u }

/-- A task is given up where it stands. -/
def cancel (t : Traffic) (ticket : Nat) : Traffic :=
  match t.task? ticket with
  | none => t
  | some u =>
    { t with
      gateway := t.gateway.cancel ticket u.progress
      tasks := t.tasks.filter fun v => v.ticket ≠ ticket }

/-- Something is done to the channel with a serial number. -/
def intervene (t : Traffic) (serial : Nat) (what : Intervention) : Traffic :=
  match t.gateway.hub.channel? serial with
  | none => t
  | some c =>
    let (hub, events, _) := t.gateway.hub.intervene t.now c what
    { t with gateway := { t.gateway with hub }.observeAll events }

/-- Change what the gateway has to deliver. -/
def withDispatcher (t : Traffic) (f : Dispatcher → Dispatcher) : Traffic :=
  { t with gateway := { t.gateway with dispatcher := f t.gateway.dispatcher } }

/-- Make a move. -/
def step (t : Traffic) : Move → Traffic
  | .arrive ticket jobs => t.arrive ticket jobs
  | .advance ticket outside => t.advance ticket outside
  | .cancel ticket => t.cancel ticket
  | .wait ms => { t with now := t.now + ms }
  | .intervene serial what => t.intervene serial what
  | .tell event => { t with gateway := t.gateway.observe event }
  | .forget name id =>
    { t with
      gateway := { t.gateway with registry := (t.gateway.registry.removeIfBound name id).2 } }
  | .drain => { t with gateway := { t.gateway with registry := t.gateway.registry.drain.2 } }
  | .shutdown => { t with gateway := t.gateway.shutdown }
  | .snapshot => { t with gateway := t.gateway.snapshot.2 }
  | .deliver receivers => t.withDispatcher fun d => d.beginAll t.now receivers
  | .settle => t.withDispatcher fun d => d.settle t.now
  | .meddle hub => { t with gateway := { t.gateway with hub } }

/-- Make moves one after the other. -/
def run (t : Traffic) (moves : List Move) : Traffic :=
  moves.foldl step t

/-! ## Runs -/

theorem run_append (t : Traffic) (moves more : List Move) :
    t.run (moves ++ more) = (t.run moves).run more :=
  List.foldl_append

/-- What holds at the beginning and is kept by every allowed move holds after every run of them. -/
theorem run_induction_of {P : Traffic → Prop} {Q : Move → Prop} {t : Traffic} (start : P t)
    (keep : ∀ t m, Q m → P t → P (t.step m)) {moves : List Move} (allowed : ∀ m ∈ moves, Q m) :
    P (t.run moves) := by
  induction moves generalizing t with
  | nil => exact start
  | cons m moves ih =>
    have hm := keep t m (allowed m List.mem_cons_self) start
    exact ih hm fun m' hm' => allowed m' (List.mem_cons_of_mem m hm')

/-- What holds at the beginning and is kept by every move holds after every run. -/
theorem run_induction {P : Traffic → Prop} {t : Traffic} (start : P t)
    (keep : ∀ t m, P t → P (t.step m)) (moves : List Move) : P (t.run moves) :=
  run_induction_of (Q := fun _ => True) start (fun t m _ => keep t m) fun _ _ => trivial

/-! ## Where the tasks stand -/

theorem ticket_of_task? {t : Traffic} {ticket : Nat} {u : Task} (h : t.task? ticket = some u) :
    u.ticket = ticket := by
  simpa using List.find?_some h

theorem mem_of_task? {t : Traffic} {ticket : Nat} {u : Task} (h : t.task? ticket = some u) :
    u ∈ t.tasks :=
  List.mem_of_find?_eq_some h

theorem held_of_standing {t : Traffic} {ticket serial : Nat} {p : Progress} (outside : Nat → Bool)
    (h : t.standing ticket = some p) (hp : p.holds serial = true) :
    t.held outside serial = true := by
  obtain ⟨u, hu, rfl⟩ := Option.map_eq_some_iff.mp h
  unfold held
  rw [Bool.or_eq_true, List.any_eq_true]
  exact .inl ⟨u, mem_of_task? hu, hp⟩

theorem standing_replace {t : Traffic} {u v : Task} {ticket : Nat} (h : t.task? ticket = some v)
    (hu : u.ticket = ticket) (g : Gateway) :
    ({ t with gateway := g, tasks := t.replace u } : Traffic).standing =
      Function.update t.standing ticket (some u.progress) := by
  subst hu
  funext k
  unfold standing task? replace at *
  rw [find?_map_of_keeps fun v => by by_cases hv : v.ticket = u.ticket <;> simp [hv]]
  by_cases hk : k = u.ticket
  · subst hk
    have hv : v.ticket = u.ticket := by simpa using List.find?_some h
    rw [h, Function.update_self]
    simp [hv]
  · rw [Function.update_of_ne hk]
    cases hf : t.tasks.find? fun v => decide (v.ticket = k) with
    | none => rfl
    | some w =>
      have hw : w.ticket = k := by simpa using List.find?_some hf
      simp [hw, hk]

theorem standing_filter (t : Traffic) (ticket : Nat) (g : Gateway) :
    ({ t with gateway := g, tasks := t.tasks.filter fun v => v.ticket ≠ ticket } :
      Traffic).standing =
      Function.update t.standing ticket none := by
  funext k
  unfold standing task?
  rw [List.find?_filter]
  by_cases hk : k = ticket
  · subst hk
    rw [Function.update_self, Option.map_eq_none_iff, List.find?_eq_none]
    intro v _
    simp
  · rw [Function.update_of_ne hk]
    congr 2
    funext v
    by_cases hv : v.ticket = k
    · simp [hv, hk]
    · simp [hv]

theorem standing_append {t : Traffic} {u : Task} (h : t.task? u.ticket = none) :
    ({ t with tasks := t.tasks ++ [u] } : Traffic).standing =
      Function.update t.standing u.ticket (some u.progress) := by
  funext k
  unfold standing task? at *
  rw [List.find?_append]
  by_cases hk : k = u.ticket
  · subst hk
    simp [h]
  · rw [Function.update_of_ne hk]
    have hu : [u].find? (fun v => decide (v.ticket = k)) = none := by
      simp [Ne.symm hk]
    rw [hu, Option.or_none]

/-! ## Moves of one task -/

/-- **All that a task does when it goes on**: nothing, if it has to wait or does not exist; its next
request begins; or its request is advanced. -/
theorem advance_cases (t : Traffic) (ticket : Nat) (outside : Nat → Bool) :
    t.advance ticket outside = t ∨
      (∃ outcome job, t.standing ticket = some (.done outcome) ∧
        (t.advance ticket outside).gateway = t.gateway ∧
        (t.advance ticket outside).standing =
          Function.update t.standing ticket (some (.ready job))) ∨
      ∃ p g p', t.standing ticket = some p ∧
        t.gateway.advance t.now (t.held outside) ticket p = some (g, p') ∧
        (t.advance ticket outside).gateway = g ∧
        (t.advance ticket outside).standing = Function.update t.standing ticket (some p') := by
  cases hu : t.task? ticket with
  | none => exact .inl (by rw [advance, hu])
  | some u =>
    have hstanding : t.standing ticket = some u.progress := by rw [standing, hu]; rfl
    cases hadvance : u.advance t.now (t.held outside) t.gateway with
    | none =>
      refine .inl ?_
      rw [advance, hu]
      dsimp only
      rw [hadvance]
    | some result =>
      obtain ⟨g, v⟩ := result
      have hstep : t.advance ticket outside = { t with gateway := g, tasks := t.replace v } := by
        rw [advance, hu]
        dsimp only
        rw [hadvance]
      have hticket := ticket_of_task? hu
      rw [hstep]
      refine .inr ?_
      unfold Task.advance at hadvance
      split at hadvance
      · rename_i outcome job rest hdone hrest
        cases hadvance
        refine .inl ⟨outcome, job, by rw [hstanding, hdone], rfl, ?_⟩
        exact standing_replace (u := { u with progress := .ready job, rest, outcomes := _ }) hu
          hticket _
      · obtain ⟨⟨_, p'⟩, hg, he⟩ := Option.map_eq_some_iff.mp hadvance
        cases he
        rw [hticket] at hg
        refine .inr ⟨_, _, p', hstanding, hg, rfl, ?_⟩
        exact standing_replace (u := { u with progress := p' }) hu hticket _

/-- A task that goes on leaves the others where they stand. -/
theorem standing_advance_of_ne (t : Traffic) {ticket k : Nat} (outside : Nat → Bool)
    (hk : k ≠ ticket) : (t.advance ticket outside).standing k = t.standing k := by
  rcases t.advance_cases ticket outside with
    he | ⟨outcome, job, _, _, hstanding⟩ | ⟨p, g, p', _, _, _, hstanding⟩
  · rw [he]
  · rw [hstanding, Function.update_of_ne hk]
  · rw [hstanding, Function.update_of_ne hk]

/-- A task whose request can go on does. -/
theorem advance_of_gateway {t : Traffic} {ticket : Nat} {outside : Nat → Bool} {p p' : Progress}
    {g : Gateway} (hs : t.standing ticket = some p)
    (ha : t.gateway.advance t.now (t.held outside) ticket p = some (g, p')) :
    (t.advance ticket outside).gateway = g ∧
      (t.advance ticket outside).standing = Function.update t.standing ticket (some p') := by
  obtain ⟨u, hu, rfl⟩ := Option.map_eq_some_iff.mp hs
  have hticket := ticket_of_task? hu
  have hadvance : u.advance t.now (t.held outside) t.gateway =
      some (g, { u with progress := p' }) := Task.advance_of_request (by rw [hticket]; exact ha)
  have hstep : t.advance ticket outside =
      { t with gateway := g, tasks := t.replace { u with progress := p' } } := by
    rw [advance, hu]
    dsimp only
    rw [hadvance]
  rw [hstep]
  exact ⟨rfl, standing_replace (u := { u with progress := p' }) hu hticket g⟩

/-- **All that giving a task up does**: nothing, if it does not exist; or it stands nowhere, and its
ticket is given back. -/
theorem cancel_cases (t : Traffic) (ticket : Nat) :
    t.cancel ticket = t ∨
      ∃ p, t.standing ticket = some p ∧ (t.cancel ticket).gateway = t.gateway.cancel ticket p ∧
        (t.cancel ticket).standing = Function.update t.standing ticket none := by
  unfold cancel
  cases hu : t.task? ticket with
  | none => exact .inl rfl
  | some u =>
    refine .inr ⟨u.progress, ?_, rfl, standing_filter t ticket _⟩
    unfold standing
    rw [hu]
    rfl

/-- **All that an arrival does**: nothing, or a task that stood nowhere stands before its first
request. -/
theorem arrive_cases (t : Traffic) (ticket : Nat) (jobs : List Job) :
    t.arrive ticket jobs = t ∨
      ∃ job, t.standing ticket = none ∧ (t.arrive ticket jobs).gateway = t.gateway ∧
        (t.arrive ticket jobs).standing =
          Function.update t.standing ticket (some (.ready job)) := by
  unfold arrive
  cases hu : t.task? ticket with
  | some u => exact .inl rfl
  | none =>
    cases jobs with
    | nil => exact .inl rfl
    | cons job rest =>
      refine .inr ⟨job, ?_, rfl, ?_⟩
      · unfold standing
        rw [hu]
        rfl
      · exact standing_append (u := ⟨ticket, .ready job, rest, []⟩) hu

/-- **All that is done to a channel**: nothing, if there is no such channel; or the hub changes, and
the gateway observes what it tells. -/
theorem intervene_cases (t : Traffic) (serial : Nat) (what : Intervention) :
    t.intervene serial what = t ∨
      ∃ c hub events effect, t.gateway.hub.channel? serial = some c ∧
        t.gateway.hub.intervene t.now c what = (hub, events, effect) ∧
        t.intervene serial what =
          { t with gateway := { t.gateway with hub }.observeAll events } := by
  unfold intervene
  cases hc : t.gateway.hub.channel? serial with
  | none => exact .inl rfl
  | some c => exact .inr ⟨c, _, _, _, rfl, rfl, rfl⟩

/-! ## All moves -/

theorem now_step (t : Traffic) (m : Move) : (t.step m).now = t.now + m.duration := by
  cases m with
  | arrive ticket jobs =>
    simp only [step, arrive]
    split <;> rfl
  | advance ticket outside =>
    simp only [step, advance]
    split
    · rfl
    · split <;> rfl
  | cancel ticket =>
    simp only [step, cancel]
    split <;> rfl
  | intervene serial what =>
    simp only [step]
    rcases t.intervene_cases serial what with he | ⟨_, _, _, _, _, _, he⟩ <;> rw [he] <;> rfl
  | _ => rfl

/-- What a move makes of the registry, of the gates and of where the tasks stand, and what it does
to the hub as long as no other hub is put in its place. -/
inductive Change (t : Traffic) (m : Move) (t' : Traffic) : Prop
  /-- Entries are taken from the registry, or none. -/
  | removal
    (taken : Relation.ReflTransGen Registry.Removal t.gateway.registry t'.gateway.registry)
    (gates : t'.gateway.gates = t.gateway.gates) (standing : t'.standing = t.standing)
    (frame : (∀ hub, m ≠ .meddle hub) → t'.gateway.hub.frame = t.gateway.hub.frame)
  /-- A task that has arrived, or whose last request is done, stands before a request. -/
  | begins {ticket : Nat} {job : Job}
    (idle : ∀ {p}, t.standing ticket = some p → ∃ outcome, p = .done outcome)
    (gateway : t'.gateway = t.gateway)
    (standing : t'.standing = Function.update t.standing ticket (some (.ready job)))
  /-- A task is given up. -/
  | ends {ticket : Nat} {p : Progress} (stood : t.standing ticket = some p)
    (gateway : t'.gateway = t.gateway.cancel ticket p)
    (standing : t'.standing = Function.update t.standing ticket none)
  /-- The request of a task goes on. -/
  | advances {ticket : Nat} {outside : Nat → Bool} {p p' : Progress}
    (own : m = .advance ticket outside) (stood : t.standing ticket = some p)
    (advance : t.gateway.advance t.now (t.held outside) ticket p = some (t'.gateway, p'))
    (standing : t'.standing = Function.update t.standing ticket (some p'))

/-- Nothing changes but what neither the registry, the gates, the tasks nor the hub show. -/
theorem Change.of_eq {t t' : Traffic} {m : Move}
    (registry : t'.gateway.registry = t.gateway.registry)
    (gates : t'.gateway.gates = t.gateway.gates) (standing : t'.standing = t.standing)
    (hub : t'.gateway.hub = t.gateway.hub) : Change t m t' :=
  .removal (by rw [registry]) gates standing fun _ => by rw [hub]

/-- **All that a move does** to the registry, to the gates and to where the tasks stand. -/
theorem step_change (t : Traffic) (m : Move) : Change t m (t.step m) := by
  cases m with
  | arrive ticket jobs =>
    rcases t.arrive_cases ticket jobs with he | ⟨job, hs, hg, hstanding⟩
    · simp only [step, he]
      exact .of_eq rfl rfl rfl rfl
    · exact .begins (fun hp => by rw [hs] at hp; cases hp) hg hstanding
  | advance ticket outside =>
    rcases t.advance_cases ticket outside with
      he | ⟨outcome, job, hs, hg, hstanding⟩ | ⟨p, g, p', hs, ha, hg, hstanding⟩
    · simp only [step, he]
      exact .of_eq rfl rfl rfl rfl
    · refine .begins (fun hp => ⟨outcome, ?_⟩) hg hstanding
      rw [hs] at hp
      exact (Option.some.inj hp).symm
    · exact .advances rfl hs (hg ▸ ha) hstanding
  | cancel ticket =>
    rcases t.cancel_cases ticket with he | ⟨p, hs, hg, hstanding⟩
    · simp only [step, he]
      exact .of_eq rfl rfl rfl rfl
    · exact .ends hs hg hstanding
  | intervene serial what =>
    rcases t.intervene_cases serial what with he | ⟨c, hub, events, effect, _, hi, he⟩
    · simp only [step, he]
      exact .of_eq rfl rfl rfl rfl
    · have hframe := t.gateway.hub.frame_intervene t.now c what
      rw [hi] at hframe
      simp only [step, he]
      exact .removal (Gateway.registry_observeAll { t.gateway with hub } events)
        (Gateway.gates_observeAll ..) rfl
        fun _ => (congrArg Hub.frame (Gateway.hub_observeAll ..)).trans hframe
  | tell event =>
    exact .removal (t.gateway.registry_observeAll [event]) (t.gateway.gates_observeAll [event]) rfl
      fun _ => congrArg Hub.frame (t.gateway.hub_observeAll [event])
  | forget name id => exact .removal (.single (.bound _ name id)) rfl rfl fun _ => rfl
  | drain => exact .removal (.single (.all _)) rfl rfl fun _ => rfl
  | shutdown =>
    simp only [step]
    rw [Gateway.shutdown_eq]
    exact .removal (.single (.all _)) rfl rfl fun _ => Gateway.frame_shutdown t.gateway
  | snapshot =>
    obtain ⟨i, hi⟩ := t.gateway.snapshot_snd
    simp only [step, hi]
    exact .removal .refl rfl rfl fun _ => rfl
  | wait ms => exact .of_eq rfl rfl rfl rfl
  | deliver receivers => exact .of_eq rfl rfl rfl rfl
  | settle => exact .of_eq rfl rfl rfl rfl
  | meddle hub => exact .removal .refl rfl rfl fun h => absurd rfl (h hub)

end Traffic

end ChannelGateway
