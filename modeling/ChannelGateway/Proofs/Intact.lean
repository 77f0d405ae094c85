import ChannelGateway.Http.Server
import ChannelGateway.Proofs.Dispatch
import ChannelGateway.Proofs.Stages
import ChannelGateway.Proofs.Usable

/-!
# Errors leave the gateway intact

An HTTP request meets a quiet gateway: every request before it is done and nothing is being
delivered. It is answered at once, or it makes a request on a name, and nothing else happens until
that is done (`Traffic.Serves`). Unless it is posted and succeeds, it leaves the gateway as it was,
but for what `Gateway.Intact` allows: the injected faults may have been asked, an identity may have
been given out for a channel that is gone again, and a channel that has opened but has not taken its
first value stays registered.

What the gateway looks like when the request is done is read off its last stage (`Stage`). Channels
that are held have serial numbers below the next one, so what is done to the channel of the request
does not touch them.

Results:
* `Http.handle_answered`: all that a request does that is answered at once.
* `Traffic.Alone.run`: a request goes from stage to stage as long as it is served alone.
* `Traffic.exists_serves`: every request is answered.
* **`errors_leave_intact`**: what an answer leaves behind that is no success of a posted request.
-/

namespace ChannelGateway

/-! ## Requests that are answered at once -/

/-- Whether a request is posted to an endpoint. -/
def Http.Request.IsPosted (r : Http.Request) : Prop :=
  r.method = "POST" ∧ ∃ endpoint, Http.Route.ofTarget? r.target = some (.endpoint endpoint)

/-- What a request does that is answered at once: nothing if it is refused; a page may have asked
the injected faults. -/
inductive Http.Answered (g : Gateway) : Http.Response → Gateway → Prop
  | refused {response : Http.Response} (status : response.status ∈ [400, 404, 405, 413]) :
    Answered g response g
  | page {response : Http.Response} (i : Injection) (status : response.status ∈ [200, 302]) :
    Answered g response (g.asked i)

/-- A page asks the injected faults at most. -/
theorem Http.fetch_answered (g : Gateway) (resource : Http.Resource) :
    (resource.fetch g).1.status ∈ [200, 302] ∧ ∃ i, (resource.fetch g).2 = g.asked i := by
  obtain ⟨i, hi⟩ := g.snapshot_snd
  cases resource with
  | root => exact ⟨by simp [Resource.fetch, Response.redirect], g.hub.injection, rfl⟩
  | health => exact ⟨by simp [Resource.fetch, Response.json], g.hub.injection, rfl⟩
  | statePage => exact ⟨by simp [Resource.fetch, Response.html], i, hi⟩
  | stateList => exact ⟨by simp [Resource.fetch, Response.json], i, hi⟩

/-- A body that makes no request is refused. -/
theorem Http.status_post {endpoint : Endpoint} {body : ByteArray} {openTimeout : Nat}
    {response : Http.Response} (h : Http.post endpoint body openTimeout = .error response) :
    response.status ∈ [400, 404, 405, 413] := by
  unfold post at h
  split at h
  · cases h
    simp [Response.tooLong, Response.plain]
  split at h
  · rename_i d _
    cases h
    simp [Response.ofRejection, Response.plain, BodyDefect.rejection, Rejection.badRequest]
  · rename_i call _
    cases call with
    | voltageOut name volts address =>
      simp only [Call.job] at h
      split at h
      · rename_i hv
        split at hv
        · cases hv
        · cases hv
          cases h
          simp [Response.ofRejection, Response.plain, Rejection.ofError, GatewayError.status]
      · cases h
    | _ => cases h

/-- **All that a request does that is answered at once.** -/
theorem Http.handle_answered {g g' : Gateway} {r : Http.Request} {response : Http.Response}
    (h : Http.handle g r = .answered response g') : Http.Answered g response g' := by
  unfold handle at h
  split at h
  · cases h
    exact .refused (by simp [Response.unknownPath])
  · split at h
    · split at h
      · rename_i hpost
        cases h
        exact .refused (status_post hpost)
      · cases h
    · cases h
      exact .refused (by simp [Response.wrongMethod])
  · rename_i resource _
    obtain ⟨hstatus, i, hi⟩ := fetch_answered g resource
    have hpage : Answered g (resource.fetch g).1 (resource.fetch g).2 := hi ▸ .page i hstatus
    have hhead : Answered g (resource.fetch g).1.head (resource.fetch g).2 := hi ▸ .page i hstatus
    split at h
    · cases h
      exact hpage
    split at h
    · cases h
      exact hhead
    · cases h
      exact .refused (by simp [Response.wrongMethod])

/-- Only a posted request makes a request on a name. -/
theorem Http.isPosted_of_accepted {g : Gateway} {r : Http.Request} {job : Job}
    (h : Http.handle g r = .accepted job) : r.IsPosted := by
  unfold handle at h
  split at h
  · cases h
  · rename_i endpoint hroute
    split at h
    · rename_i hmethod
      exact ⟨hmethod, endpoint, hroute⟩
    · cases h
  · split at h
    · cases h
    split at h <;> cases h

/-! ## Requests that are served alone -/

/-- The error that an outcome tells of. -/
def Outcome.error? : Outcome → Option GatewayError
  | .ok _ => none
  | .error e => some e

/-- Whether a move may happen while the task with a ticket is served alone: the task goes on, time
passes, or deliveries begin and end. -/
def Move.IsLone (ticket : Nat) (outside : Nat → Bool) : Move → Prop
  | .advance k other => k = ticket ∧ other = outside
  | .wait _ => True
  | .deliver _ => True
  | .settle => True
  | _ => False

/-- A task of one request goes on as its request does. -/
theorem Task.advance_single (ticket : Nat) (p : Progress) (now : Nat) (held : Nat → Bool)
    (g : Gateway) :
    (⟨ticket, p, [], []⟩ : Task).advance now held g =
      (g.advance now held ticket p).map fun x => (x.1, ⟨ticket, x.2, [], []⟩) := by
  cases p <;> rfl

namespace Traffic

/-- Nothing is under way: every task is done and no delivery is outstanding. -/
structure IsQuiet (t : Traffic) : Prop where
  idle : ∀ u ∈ t.tasks, u.outcomes?.isSome = true
  scheduled : t.gateway.dispatcher.scheduled = []
  inFlight : t.gateway.dispatcher.inFlight = []

/-- **A request is served alone**: the response, the error behind it, and the traffic afterwards. -/
inductive Serves (t : Traffic) (outside : Nat → Bool) (r : Http.Request) :
    Http.Response → Option GatewayError → Traffic → Prop
  /-- It is answered at once. -/
  | atOnce {response : Http.Response} {g : Gateway}
    (answered : Http.handle t.gateway r = .answered response g) :
    Serves t outside r response none { t with gateway := g }
  /-- It makes a request on a name under a free ticket, and is answered when that is done. -/
  | inTime {job : Job} {ticket : Nat} {moves : List Move} {outcome : Outcome}
    (accepted : Http.handle t.gateway r = .accepted job) (free : t.task? ticket = none)
    (lone : ∀ m ∈ moves, m.IsLone ticket outside)
    (done : ((t.arrive ticket [job]).run moves).standing ticket = some (.done outcome)) :
    Serves t outside r (.ofOutcome outcome) (Outcome.error? outcome)
      ((t.arrive ticket [job]).run moves)

/-- A task stands at a place on a gateway where it is served alone. -/
structure Alone (start : Traffic) (outside : Nat → Bool) (ticket : Nat) (job : Job) (p : Progress)
    (t : Traffic) : Prop where
  tasks : t.tasks = start.tasks ++ [⟨ticket, p, [], []⟩]
  stage : Stage start.gateway outside job t.gateway p
  dispatcher : t.gateway.dispatcher = start.gateway.dispatcher

theorem IsQuiet.done {t : Traffic} (h : t.IsQuiet) {u : Task} (hu : u ∈ t.tasks) :
    ∃ outcome, u.progress = .done outcome := by
  have hsome := h.idle u hu
  unfold Task.outcomes? at hsome
  split at hsome
  · rename_i outcome hdone _
    exact ⟨outcome, hdone⟩
  · cases hsome

section

variable {config : HubConfig} {start t : Traffic} {outside : Nat → Bool} {ticket : Nat} {job : Job}
  {p : Progress}

/-- A task that is served alone has arrived. -/
theorem alone_arrive (free : start.task? ticket = none) (outside : Nat → Bool) (job : Job) :
    start.Alone outside ticket job (.ready job) (start.arrive ticket [job]) := by
  have he : start.arrive ticket [job] =
      { start with tasks := start.tasks ++ [⟨ticket, .ready job, [], []⟩] } := by
    unfold arrive
    rw [free]
    rfl
  rw [he]
  exact ⟨rfl, .ready, rfl⟩

theorem ticket_ne_of_free (free : start.task? ticket = none) {u : Task} (hu : u ∈ start.tasks) :
    u.ticket ≠ ticket := by
  have hnone := List.find?_eq_none.mp free u hu
  simpa using hnone

theorem Alone.task? (h : start.Alone outside ticket job p t) (free : start.task? ticket = none) :
    t.task? ticket = some ⟨ticket, p, [], []⟩ := by
  have hfree : start.tasks.find? (fun u => decide (u.ticket = ticket)) = none := free
  unfold Traffic.task?
  rw [h.tasks, List.find?_append, hfree]
  simp

theorem Alone.standing (h : start.Alone outside ticket job p t) (free : start.task? ticket = none) :
    t.standing ticket = some p := by
  unfold Traffic.standing
  rw [h.task? free]
  rfl

/-- The others hold nothing. -/
theorem Alone.held (h : start.Alone outside ticket job p t) (quiet : start.IsQuiet) (serial : Nat) :
    t.held outside serial = (p.holds serial || outside serial) := by
  have hidle : start.tasks.any (fun u => u.progress.holds serial) = false := by
    rw [List.any_eq_false]
    intro u hu
    obtain ⟨outcome, hdone⟩ := quiet.done hu
    rw [hdone]
    simp [Progress.holds]
  unfold Traffic.held
  rw [h.tasks, List.any_append, hidle]
  simp

theorem Alone.replace (h : start.Alone outside ticket job p t) (free : start.task? ticket = none)
    (p' : Progress) :
    t.replace ⟨ticket, p', [], []⟩ = start.tasks ++ [⟨ticket, p', [], []⟩] := by
  have hidle : start.tasks.map
      (fun v => if v.ticket = ticket then (⟨ticket, p', [], []⟩ : Task) else v) = start.tasks :=
    (List.map_congr_left fun v hv => if_neg (ticket_ne_of_free free hv)).trans (List.map_id _)
  unfold Traffic.replace
  rw [h.tasks, List.map_append, hidle]
  simp

/-- The task goes on, if it can. -/
theorem Alone.advance (h : start.Alone outside ticket job p t) (quiet : start.IsQuiet)
    (free : start.task? ticket = none)
    (sound : Sound config start.gateway.hub start.gateway.registry start.standing)
    {g : Gateway} {p' : Progress}
    (ha : t.gateway.advance t.now (t.held outside) ticket p = some (g, p')) :
    start.Alone outside ticket job p' (t.advance ticket outside) := by
  have hstep : t.advance ticket outside =
      { t with gateway := g, tasks := t.replace ⟨ticket, p', [], []⟩ } := by
    unfold Traffic.advance
    rw [h.task? free]
    dsimp only
    rw [Task.advance_single, ha]
    rfl
  rw [hstep]
  exact ⟨h.replace free p', h.stage.advance sound (h.held quiet) ha,
    (Gateway.dispatcher_advance ha).trans h.dispatcher⟩

/-- **A request goes from stage to stage** as long as it is served alone. -/
theorem Alone.step (h : start.Alone outside ticket job p t) (quiet : start.IsQuiet)
    (free : start.task? ticket = none)
    (sound : Sound config start.gateway.hub start.gateway.registry start.standing) {m : Move}
    (lone : m.IsLone ticket outside) : ∃ p', start.Alone outside ticket job p' (t.step m) := by
  have hscheduled : t.gateway.dispatcher.scheduled = [] := by rw [h.dispatcher, quiet.scheduled]
  have hflying : t.gateway.dispatcher.inFlight = [] := by rw [h.dispatcher, quiet.inFlight]
  cases m with
  | advance k other =>
    obtain ⟨rfl, rfl⟩ := lone
    cases ha : t.gateway.advance t.now (t.held other) k p with
    | some result => exact ⟨result.2, h.advance quiet free sound ha⟩
    | none =>
      have hstays : t.advance k other = t := by
        unfold Traffic.advance
        rw [h.task? free]
        dsimp only
        rw [Task.advance_single, ha]
        rfl
      rw [Traffic.step, hstays]
      exact ⟨p, h⟩
  | wait ms => exact ⟨p, h.tasks, h.stage, h.dispatcher⟩
  | deliver receivers =>
    rw [Traffic.step, withDispatcher, Dispatcher.beginAll_of_scheduled hscheduled]
    exact ⟨p, h⟩
  | settle =>
    rw [Traffic.step, withDispatcher, Dispatcher.settle_of_inFlight hflying]
    exact ⟨p, h⟩
  | _ => cases lone

theorem Alone.run (h : start.Alone outside ticket job p t) (quiet : start.IsQuiet)
    (free : start.task? ticket = none)
    (sound : Sound config start.gateway.hub start.gateway.registry start.standing)
    {moves : List Move} (lone : ∀ m ∈ moves, m.IsLone ticket outside) :
    ∃ p', start.Alone outside ticket job p' (t.run moves) :=
  run_induction_of (P := fun t => ∃ p', start.Alone outside ticket job p' t) ⟨p, h⟩
    (fun _ _ hm ⟨_, ht⟩ => ht.step quiet free sound hm) lone

/-! ## Every request is answered -/

/-- Before a request is served on a quiet gateway, nobody has a ticket. -/
theorem IsQuiet.tickets (quiet : start.IsQuiet) (orderly : start.IsOrderly) (name : String) :
    start.gateway.gates.tickets name = [] := by
  rw [List.eq_nil_iff_forall_not_mem]
  intro k hk
  have hgate := (orderly.mem_tickets name k).mp hk
  cases hs : start.standing k with
  | none =>
    rw [hs] at hgate
    cases hgate
  | some p =>
    obtain ⟨u, hu, rfl⟩ := Option.map_eq_some_iff.mp hs
    obtain ⟨outcome, hdone⟩ := quiet.done (mem_of_task? hu)
    rw [hs, Option.bind_some, hdone] at hgate
    cases hgate

/-- A request that waits for a channel is done some time. -/
theorem Alone.finishes (h : start.Alone outside ticket job p t) (quiet : start.IsQuiet)
    (free : start.task? ticket = none)
    (sound : Sound config start.gateway.hub start.gateway.registry start.standing)
    (hp : p.remaining ≤ 2) :
    ∃ moves outcome, (∀ m ∈ moves, m.IsLone ticket outside) ∧
      (t.run moves).standing ticket = some (.done outcome) := by
  -- it waits until it is due and goes on, which brings it nearer to its end
  induction hn : p.remaining using Nat.strongRecOn generalizing p t with
  | ind n ih =>
    have hwaits : ∀ due, p.due? = some due → ∃ moves outcome,
        (∀ m ∈ moves, m.IsLone ticket outside) ∧
          (t.run moves).standing ticket = some (.done outcome) := by
      intro due hdue
      have hlater : start.Alone outside ticket job p (t.step (.wait (due - t.now))) :=
        ⟨h.tasks, h.stage, h.dispatcher⟩
      have hnow : due ≤ (t.step (.wait (due - t.now))).now := by
        rw [now_step, Move.duration]
        omega
      obtain ⟨g, p', ha, hless⟩ := Gateway.advance_due (t.step (.wait (due - t.now))).gateway
        ((t.step (.wait (due - t.now))).held outside) ticket hdue hnow
      have hadvance := hlater.advance quiet free sound ha
      obtain ⟨moves, outcome, hlone, hdone⟩ := ih _ (hn ▸ hless) hadvance (by omega) rfl
      refine ⟨.wait (due - t.now) :: .advance ticket outside :: moves, outcome, ?_, hdone⟩
      simp only [List.forall_mem_cons]
      exact ⟨trivial, ⟨rfl, rfl⟩, hlone⟩
    cases p with
    | ready job => simp [Progress.remaining] at hp
    | queued job => simp [Progress.remaining] at hp
    | opening r followup w => exact hwaits w.due rfl
    | writing r w => exact hwaits w.due rfl
    | done outcome => exact ⟨[], outcome, by simp, h.standing free⟩

/-- There is always a free ticket. -/
theorem exists_free (t : Traffic) : ∃ ticket, t.task? ticket = none := by
  have hbound : ∀ tasks : List Task, ∃ n, ∀ u ∈ tasks, u.ticket < n := by
    intro tasks
    induction tasks with
    | nil => exact ⟨0, by simp⟩
    | cons u rest ih =>
      obtain ⟨n, hn⟩ := ih
      refine ⟨max (u.ticket + 1) n, fun v hv => ?_⟩
      rcases List.mem_cons.mp hv with rfl | hv
      · omega
      · have := hn v hv
        omega
  obtain ⟨n, hn⟩ := hbound t.tasks
  refine ⟨n, List.find?_eq_none.mpr fun u hu => ?_⟩
  have hne := Nat.ne_of_lt (hn u hu)
  simpa using hne

/-- A request that is served alone is done some time. -/
theorem exists_done (quiet : start.IsQuiet) (orderly : start.IsOrderly)
    (free : start.task? ticket = none)
    (sound : Sound config start.gateway.hub start.gateway.registry start.standing)
    (outside : Nat → Bool) (job : Job) :
    ∃ moves outcome, (∀ m ∈ moves, m.IsLone ticket outside) ∧
      ((start.arrive ticket [job]).run moves).standing ticket = some (.done outcome) := by
  have harrived := alone_arrive free outside job
  have hgate : (start.arrive ticket [job]).gateway.gates.tickets job.name = [] := by
    rcases start.arrive_cases ticket [job] with he | ⟨_, _, hg, _⟩
    · rw [he, quiet.tickets orderly]
    · rw [hg, quiet.tickets orderly]
  obtain ⟨g, p', ha, hp⟩ := Gateway.advance_ready (start.arrive ticket [job]).now
    ((start.arrive ticket [job]).held outside) ticket hgate
  have hadvance := harrived.advance quiet free sound ha
  obtain ⟨moves, outcome, hlone, hdone⟩ := hadvance.finishes quiet free sound hp
  refine ⟨.advance ticket outside :: moves, outcome, ?_, hdone⟩
  simp only [List.forall_mem_cons]
  exact ⟨⟨rfl, rfl⟩, hlone⟩

/-- **Every request is answered** on a quiet gateway. -/
theorem exists_serves (quiet : start.IsQuiet) (orderly : start.IsOrderly)
    (sound : Sound config start.gateway.hub start.gateway.registry start.standing)
    (outside : Nat → Bool) (r : Http.Request) :
    ∃ response cause t', start.Serves outside r response cause t' := by
  cases hr : Http.handle start.gateway r with
  | answered response g => exact ⟨_, _, _, .atOnce hr⟩
  | accepted job =>
    obtain ⟨ticket, free⟩ := start.exists_free
    obtain ⟨moves, outcome, lone, done⟩ := exists_done quiet orderly free sound outside job
    exact ⟨_, _, _, .inTime hr free lone done⟩

end

end Traffic

/-! ## What an answer leaves behind -/

/-- A channel that nobody holds may change. -/
theorem Hub.live_modify (h : Hub) {held : Nat → Bool} {serial : Nat} (hfree : held serial = false)
    {f : Channel → Channel} (hf : ∀ c, (f c).serial = c.serial) :
    (h.modify serial f).live held = h.live held := by
  have hkeeps : (fun c : Channel => held c.serial) ∘
      (fun c => if c.serial = serial then f c else c) = fun c => held c.serial := by
    funext c
    by_cases hc : c.serial = serial <;> simp [hc, hf]
  unfold live modify
  rw [List.filter_map, hkeeps]
  refine (List.map_congr_left fun c hc => if_neg ?_).trans (List.map_id _)
  rintro rfl
  simp [hfree] at hc

/-- A channel that nobody holds may be created. -/
theorem Hub.live_create (h : Hub) {held : Nat → Bool} (spec : ChannelSpec)
    (hfree : held h.created = false) : (h.create held spec).live held = h.live held := by
  have hfresh : [Channel.fresh h.created spec].filter (fun c => held c.serial) = [] := by
    simp [Channel.fresh, hfree]
  unfold create live
  rw [List.filter_append, hfresh, List.filter_filter, List.append_nil]
  simp

/-- A name that was not open is registered with a channel that has just opened and holds what it did
from the beginning; nothing else is registered or forgotten. -/
def Gateway.GainsFresh (before after : Gateway) (name : String) : Prop :=
  before.registry.resolve name = none ∧ ∃ r, r.name = name ∧ r.serial = before.hub.created ∧
    after.registry = before.registry.takeId.2.insert r ∧
    after.hub.channel? r.serial = some (Channel.fresh r.serial r.spec).connect

/-- What is promised of a gateway before and after an answer that is no success of a posted request;
`outside` tells which channels somebody other than the gateway holds. -/
structure Gateway.Intact (outside : Nat → Bool) (response : Http.Response)
    (cause : Option GatewayError) (before after : Gateway) : Prop where
  subscriptions : after.subscriptions = before.subscriptions
  dispatcher : after.dispatcher = before.dispatcher
  /-- The channels that somebody holds are as they were. -/
  channels : ∀ serial, before.holds outside serial = true →
    after.hub.channel? serial = before.hub.channel? serial
  /-- The same names are bound to the same channels, unless a first write has failed. -/
  registry : (after.registry.byName = before.registry.byName ∧
      after.registry.byChannel = before.registry.byChannel) ∨
    ∃ name source, cause = some (.deviceFailed name source) ∧ response.status = 500 ∧
      before.GainsFresh after name
  /-- A request that is refused creates no channel, takes no identity and asks no injected fault. -/
  refused : (response.status = 404 ∨ response.status = 405 ∨ response.status = 413 ∨
      response.status = 400 ∧ ∀ name source, cause ≠ some (.closeFailed name source)) →
    after.hub = before.hub ∧ after.registry = before.registry
  /-- An open that has failed leaves no channel behind. -/
  openFailed : ∀ name source, cause = some (.openFailed name source) → response.status = 500 ∧
    after.hub.live (after.holds outside) = before.hub.live (before.holds outside)
  /-- A close that has failed leaves the name bound to the same open channel. -/
  closeFailed : ∀ name source, cause = some (.closeFailed name source) → response.status = 400 ∧
    ∃ r c, before.registry.resolve name = some r ∧ after.registry.resolve name = some r ∧
      before.hub.channel? r.serial = some c ∧ after.hub.channel? r.serial = some c ∧
      c.isOpen = true

namespace Gateway

variable {config : HubConfig} {standing : Nat → Option Progress} {b : Gateway}
  {outside : Nat → Bool}

/-- A channel that somebody holds has been created. -/
theorem lt_of_holds (hc : b.registry.Consistent) (hs : Sound config b.hub b.registry standing)
    (strangers : ∀ serial, outside serial = true → serial < b.hub.created) {serial : Nat}
    (hh : b.holds outside serial = true) : serial < b.hub.created := by
  unfold holds registers at hh
  rw [Bool.or_eq_true, List.any_eq_true] at hh
  obtain ⟨r, hr, he⟩ | ho := hh
  · have hu := hs.usable (hc.resolve_of_mem hr)
    have hlt := hs.numbered.lt_of_link hu.link
    rwa [of_decide_eq_true he] at hlt
  · exact strangers serial ho

/-- A channel that is created leaves the held ones as they are. -/
theorem channel?_tried {serial : Nat} (hh : b.holds outside serial = true)
    (hlt : serial < b.hub.created) (request : OpenRequest) (i : Injection) :
    (b.tried outside request i).hub.channel? serial = b.hub.channel? serial :=
  Hub.channel?_create_of_ne _ hh (Nat.ne_of_lt hlt)

/-- A page leaves the gateway intact. -/
theorem intact_answered {response : Http.Response} {g : Gateway}
    (h : Http.Answered b response g) : b.Intact outside response none g := by
  cases h with
  | refused status =>
    exact ⟨rfl, rfl, fun _ _ => rfl, .inl ⟨rfl, rfl⟩, fun _ => ⟨rfl, rfl⟩, nofun, nofun⟩
  | page i status =>
    refine ⟨rfl, rfl, fun _ _ => rfl, .inl ⟨rfl, rfl⟩, fun hrefused => ?_, nofun, nofun⟩
    simp only [List.mem_cons, List.not_mem_nil, or_false] at status
    omega

/-- **A request that has failed leaves the gateway intact.** -/
theorem intact_of_stage (hc : b.registry.Consistent) (hs : Sound config b.hub b.registry standing)
    (strangers : ∀ serial, outside serial = true → serial < b.hub.created) {job : Job}
    {g : Gateway} {e : GatewayError} (h : Stage b outside job g (.done (.error e))) :
    b.Intact outside (.ofOutcome (.error e)) (some e) g := by
  have hlt : ∀ {serial}, b.holds outside serial = true → serial < b.hub.created :=
    fun hh => lt_of_holds hc hs strangers hh
  have hserver : ∀ {e : GatewayError} {P : Prop}, e.status = 500 →
      ((Http.Response.ofOutcome (.error e)).status = 404 ∨
        (Http.Response.ofOutcome (.error e)).status = 405 ∨
        (Http.Response.ofOutcome (.error e)).status = 413 ∨
        (Http.Response.ofOutcome (.error e)).status = 400 ∧
          ∀ name source, some e ≠ some (.closeFailed name source)) → P := by
    intro e P he hrefused
    have hstatus : (Http.Response.ofOutcome (.error e)).status = 500 := he
    omega
  cases h with
  | refused gates cause =>
    refine ⟨rfl, rfl, fun _ _ => rfl, .inl ⟨rfl, rfl⟩, fun _ => ⟨rfl, rfl⟩,
      fun name source he => ?_,
      fun name source he => ?_⟩
    · obtain rfl | rfl := cause <;> cases he
    · obtain rfl | rfl := cause <;> cases he
  | writeFailed i gates found =>
    exact ⟨rfl, rfl, fun _ _ => rfl, .inl ⟨rfl, rfl⟩, hserver rfl, nofun, nofun⟩
  | @writeFailedNew request source i gates free =>
    have hkept : ∀ serial, b.holds outside serial = true →
        (b.gained outside request i).hub.channel? serial = b.hub.channel? serial := by
      intro serial hh
      have hne : serial ≠ (b.newcomer request).serial := Nat.ne_of_lt (hlt hh)
      have hconnect := Hub.channel?_modify_of_ne (b.tried outside request i).hub hne
        (f := Channel.connect) fun _ => rfl
      exact hconnect.trans (channel?_tried hh (hlt hh) request i)
    have hfresh : (b.gained outside request i).hub.channel? (b.newcomer request).serial =
        some (Channel.fresh (b.newcomer request).serial (b.newcomer request).spec).connect := by
      refine (Hub.channel?_modify _ _ _ (f := Channel.connect) fun _ => rfl).trans ?_
      rw [if_pos rfl]
      exact congrArg (Option.map Channel.connect) (hs.channel?_enlist request)
    refine ⟨rfl, rfl, hkept, .inr ⟨request.name, source, rfl, rfl, free, ?_⟩, hserver rfl, nofun,
      nofun⟩
    exact ⟨b.newcomer request, rfl, rfl, rfl, hfresh⟩
  | @openFailed request source i gates hub abandoned =>
    have hfree : b.holds outside b.hub.created = false := by
      rw [Bool.eq_false_iff]
      exact fun hh => Nat.lt_irrefl _ (hlt hh)
    have htried : (b.tried outside request i).hub.live (b.holds outside) =
        b.hub.live (b.holds outside) := b.hub.live_create _ hfree
    refine ⟨rfl, rfl, fun serial hh => ?_, .inl ⟨rfl, rfl⟩, hserver rfl, fun _ _ _ => ⟨rfl, ?_⟩,
      nofun⟩
    · have hkept := channel?_tried hh (hlt hh) request i
      obtain rfl | rfl := abandoned
      · exact hkept
      · have hne : serial ≠ (b.newcomer request).serial := Nat.ne_of_lt (hlt hh)
        have hdisconnect := Hub.channel?_modify_of_ne (b.tried outside request i).hub hne
          (f := Channel.disconnect) fun _ => rfl
        exact hdisconnect.trans hkept
    · obtain rfl | rfl := abandoned
      · exact htried
      · exact (Hub.live_modify _ hfree (f := Channel.disconnect) fun _ => rfl).trans htried
  | @closeFailed name r source i gates found =>
    obtain ⟨c, hchannel, hl⟩ := Option.map_eq_some_iff.mp (hs.usable found).link
    have hopen : c.isOpen = true := congrArg (fun l => l.2.1) hl
    refine ⟨rfl, rfl, fun _ _ => rfl, .inl ⟨rfl, rfl⟩, fun hrefused => ?_, nofun, ?_⟩
    · obtain hstatus | hstatus | hstatus | ⟨-, hne⟩ := hrefused
      · cases hstatus
      · cases hstatus
      · cases hstatus
      · exact absurd rfl (hne name source)
    · intro other _ he
      cases he
      exact ⟨rfl, r, c, found, found, hchannel, hchannel, hopen⟩

end Gateway

/-- The name that a request which has been taken is to close. -/
def Http.Handling.closes? : Http.Handling → Option String
  | .accepted (.close name) => some name
  | _ => none

theorem Http.accepted_of_closes? {h : Http.Handling} {name : String}
    (hc : h.closes? = some name) : h = .accepted (.close name) := by
  unfold Handling.closes? at hc
  split at hc
  · cases hc
    rfl
  · cases hc

/-- The name whose channel has failed to close, and the failure. -/
def Progress.unclosed? : Progress → Option (String × DeviceError)
  | .done (.error (.closeFailed name source)) => some (name, source)
  | _ => none

theorem Progress.done_of_unclosed? {p : Progress} {name : String} {source : DeviceError}
    (hp : p.unclosed? = some (name, source)) : p = .done (.error (.closeFailed name source)) := by
  unfold unclosed? at hp
  split at hp
  · cases hp
    rfl
  · cases hp

/-- **Errors leave the gateway intact.** After every run in which nobody operates a channel
directly, every HTTP request to the quiet gateway is answered; and an answer that is no success of a
posted request leaves the gateway intact. -/
theorem errors_leave_intact (gateway : GatewayConfig) (config : HubConfig) (seed : UInt64)
    (moves : List Move) (own : ∀ m ∈ moves, m.isForeign = false) :
    let t := (Traffic.ofGateway (.ofConfig gateway (.ofConfig config seed))).run moves
    t.IsQuiet → ∀ outside : Nat → Bool,
      (∀ serial, outside serial = true → serial < t.gateway.hub.created) → ∀ r : Http.Request,
        (∃ response cause t', t.Serves outside r response cause t') ∧
        ∀ response cause t', t.Serves outside r response cause t' →
          ¬ (r.IsPosted ∧ isSuccess response.status = true) →
          t.gateway.Intact outside response cause t'.gateway := by
  intro t quiet outside strangers r
  obtain ⟨orderly, sound⟩ := Sound.run gateway config seed own
  refine ⟨Traffic.exists_serves quiet orderly sound outside r,
    fun response cause t' hserves hfailed => ?_⟩
  cases hserves with
  | atOnce answered => exact Gateway.intact_answered (Http.handle_answered answered)
  | @inTime job ticket lone outcome accepted free hlone done =>
    obtain ⟨p, halone⟩ := (Traffic.alone_arrive free outside job).run quiet free sound hlone
    have hp : p = .done outcome := Option.some.inj ((halone.standing free).symm.trans done)
    subst hp
    cases outcome with
    | ok resource => exact absurd ⟨Http.isPosted_of_accepted accepted, rfl⟩ hfailed
    | error e => exact Gateway.intact_of_stage orderly.consistent sound strangers halone.stage

/-- A lamp whose channel fails to close stays registered. -/
theorem errors_leave_intact_lamp :
    let lamp : Job := .use ⟨"lamp", .digitalOutput, ⟨0, 0⟩, 1000⟩ (.write (.state true))
    let nobody : Nat → Bool := fun _ => false
    let config : HubConfig := { faults := [.timeout .closing] }
    let moves : List Move := [.arrive 0 [lamp], .advance 0 nobody]
    let t := (Traffic.ofGateway (.ofConfig {} (.ofConfig config 0))).run moves
    let close : Http.Request := ⟨"POST", "/phidgets/close", "\x7b\"name\":\"lamp\"\x7d".toUTF8⟩
    (∀ m ∈ moves, m.isForeign = false) ∧ t.IsQuiet ∧
      ∃ response source t', t.Serves nobody close response (some (.closeFailed "lamp" source)) t' ∧
        response.status = 400 ∧ (t'.gateway.registry.resolve "lamp").isSome = true := by
  intro lamp nobody config moves t close
  have own : ∀ m ∈ moves, m.isForeign = false := by simp [moves, Move.isForeign]
  have quiet : t.IsQuiet := ⟨by decide +kernel, by decide +kernel, by decide +kernel⟩
  have hclose : (Http.handle t.gateway close).closes? = some "lamp" := by decide +kernel
  have hhandle := Http.accepted_of_closes? hclose
  have hdone : ((((t.arrive 1 [.close "lamp"]).run [.advance 1 nobody]).standing 1).bind
      Progress.unclosed?).map Prod.fst = some "lamp" := by decide +kernel
  obtain ⟨⟨_, source⟩, hun, rfl⟩ := Option.map_eq_some_iff.mp hdone
  obtain ⟨p, hstanding, hp⟩ := Option.bind_eq_some_iff.mp hun
  obtain rfl := Progress.done_of_unclosed? hp
  have lone : ∀ m ∈ [Move.advance 1 nobody], m.IsLone 1 nobody := by simp [Move.IsLone]
  have hserves := Traffic.Serves.inTime (t := t) hhandle (by decide +kernel) lone hstanding
  obtain ⟨-, hintact⟩ := errors_leave_intact {} config 0 moves own quiet nobody (by simp [nobody])
    close
  have hstatus : ¬ isSuccess 400 = true := by decide
  have hlamp := hintact _ _ _ hserves fun h => hstatus h.2
  obtain ⟨hresponse, r, c, -, hr, -⟩ := hlamp.closeFailed "lamp" source rfl
  exact ⟨own, quiet, _, source, _, hserves, hresponse, by rw [hr]; rfl⟩

end ChannelGateway
