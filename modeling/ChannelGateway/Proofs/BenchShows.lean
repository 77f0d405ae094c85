import ChannelGateway.Bench.Run
import ChannelGateway.Proofs.Share

/-!
# A bench and the scene that shows it

The bench of `Errand` and a `Scene` are two accounts of a gateway with requests under way. On
a bench they are errands of steps, taken up in order; on a scene they are tasks with tickets, which
go on at any time. `Bench.Shows` relates the two. The scene has the gateway and the clock of the
bench; an errand that makes requests is the task with its ticket; an operation that an errand waits
for waits under the place of the errand as its handle.

Tasks never leave a scene, so those that an answer has been made of are still there, but they use no
channel. What a bench keeps under a key is held by nobody on the scene: it is among the channels
held outside, which each `Move.advance` says anew. That such a channel is not forgotten is part of
the relation, since a bench operates it without asking whether it is there.

Results:
* `Task.advance_congr`: who else holds a channel matters only to a request that uses none.
* `Traffic.lists_advance`, `Traffic.lists_tells`: a channel that somebody holds is not forgotten,
  and what a request ends with is a channel of the hub.
* **`Bench.Shows.replace`**: what an errand does that makes no requests.
* **`Bench.Shows.arrive`**, **`Bench.Shows.advance`**, **`Bench.Shows.conclude`**: an errand makes
  requests, goes on with them, and is finished.
-/

namespace ChannelGateway

/-! ## Errands -/

/-- Whether a step goes through the gateway or its hub. It uses a channel directly only if it
may. -/
def Step.isServed (direct : Bool) : Step → Bool
  | subscribe _ _ => false
  | fanOut _ _ => false
  | fanOutWait _ _ => false
  | kept _ _ => direct
  | intervene _ (.operate _) => direct
  | _ => true

namespace Errand

/-- The ticket of an errand that makes requests. -/
def ticket? : Errand → Option Nat
  | requesting t _ => some t.ticket
  | _ => none

/-- What an errand waits for that operates a channel, with the serial number of the channel. -/
def operation? : Errand → Option (Nat × Waiting)
  | operating c w => some (c.serial, w)
  | _ => none

/-- Whether an errand is as a bench leaves it: a step that has not begun is served, requests are not
all done, and a channel is operated directly only if it may be. -/
def isProper (direct : Bool) : Errand → Bool
  | fresh s => s.isServed direct
  | requesting t _ => t.outcomes?.isNone
  | operating _ _ => direct
  | _ => true

/-- The operations that errands wait for, by the places of the errands. -/
def operations (es : List Errand) (place : Nat) : Option (Nat × Waiting) :=
  es[place]?.bind operation?

theorem operations_replace (earlier later : List Errand) (e e' : Errand) :
    operations (earlier ++ e' :: later) =
      Function.update (operations (earlier ++ e :: later)) earlier.length e'.operation? := by
  funext place
  unfold operations
  by_cases hplace : place = earlier.length
  · subst hplace
    simp
  · rw [Function.update_of_ne hplace]
    by_cases hbefore : place < earlier.length
    · rw [List.getElem?_append_left hbefore, List.getElem?_append_left hbefore]
    · obtain ⟨k, hk⟩ : ∃ k, place - earlier.length = k + 1 := ⟨place - earlier.length - 1, by omega⟩
      rw [List.getElem?_append_right (by omega), List.getElem?_append_right (by omega), hk,
        List.getElem?_cons_succ, List.getElem?_cons_succ]

section

variable {earlier later : List Errand} {e f : Errand}

theorem mem_around : f ∈ earlier ++ e :: later ↔ f = e ∨ f ∈ earlier ++ later := by
  rw [List.mem_append, List.mem_cons, List.mem_append, or_left_comm]

theorem tickets_of_idle (he : e.ticket? = none) :
    (earlier ++ e :: later).filterMap ticket? = (earlier ++ later).filterMap ticket? := by
  rw [List.filterMap_append, List.filterMap_cons_none he, List.filterMap_append]

/-- The ticket of an errand is apart from those of the others. -/
theorem nodup_tickets {ticket : Nat} (he : e.ticket? = some ticket) :
    ((earlier ++ e :: later).filterMap ticket?).Nodup ↔
      ticket ∉ (earlier ++ later).filterMap ticket? ∧
        ((earlier ++ later).filterMap ticket?).Nodup := by
  rw [List.filterMap_append, List.filterMap_cons_some he, List.nodup_middle, List.nodup_cons,
    List.filterMap_append]

end

end Errand

/-! ## Channels that are not forgotten -/

/-- A channel is in a ledger. -/
def Ledger.Lists (l : Ledger) (serial : Nat) : Prop :=
  serial ∈ l.specs.keys

theorem Hub.lists_iff {h : Hub} {serial : Nat} :
    h.ledger.Lists serial ↔ ∃ c, h.channel? serial = some c := by
  rw [← Option.isSome_iff_exists, channel?, List.find?_isSome]
  simp [Ledger.Lists, ledger, Table.keys]

theorem Ledger.Lists.add {l : Ledger} {serial : Nat} {held : Nat → Bool} (h : l.Lists serial)
    (hheld : held serial = true) (spec : ChannelSpec) : (l.add held spec).Lists serial := by
  obtain ⟨entry, hentry, rfl⟩ := List.mem_map.mp h
  refine List.mem_map_of_mem (List.mem_append_left _ ?_)
  exact List.mem_filter.mpr ⟨hentry, hheld⟩

theorem Ledger.lists_created (l : Ledger) (held : Nat → Bool) (spec : ChannelSpec) :
    (l.add held spec).Lists l.created :=
  List.mem_map.mpr ⟨(l.created, spec), List.mem_append_right _ List.mem_cons_self, rfl⟩

namespace Gateway.Turnover

variable {g g' : Gateway} {held : Nat → Bool} {standing : Nat → Option Progress} {ticket : Nat}
  {p p' : Progress} {serial : Nat}

/-- A request forgets no channel that is held. -/
theorem lists (ht : Turnover held standing ticket g p g' p') (h : g.hub.ledger.Lists serial)
    (hheld : g.holds held serial = true) : g'.hub.ledger.Lists serial := by
  cases ht with
  | keeps ledger next known =>
    rw [ledger]
    exact h
  | adds new own number id ledger next known =>
    rw [ledger]
    exact h.add hheld _

/-- A channel that a request has created is not forgotten at once. -/
theorem lists_created (ht : Turnover held standing ticket g p g' p')
    (h : g'.hub.created = g.hub.created + 1) : g'.hub.ledger.Lists g.hub.created := by
  cases ht with
  | keeps ledger next known =>
    have hsame : g'.hub.created = g.hub.created := congrArg Ledger.created ledger
    omega
  | adds new own number id ledger next known =>
    rw [ledger]
    exact g.hub.ledger.lists_created ..

end Gateway.Turnover

/-- Who else holds a channel matters only to a request that uses none. -/
theorem Task.advance_congr {u : Task} {now : Nat} {held held' : Nat → Bool} {g : Gateway}
    (same : u.progress.resource? = none → held = held') :
    u.advance now held g = u.advance now held' g := by
  by_cases hfree : u.progress.resource? = none
  · rw [same hfree]
  · obtain ⟨ticket, p, rest, outcomes⟩ := u
    cases p with
    | opening r followup w => rfl
    | writing r w => rfl
    | _ => exact absurd rfl hfree

/-- A channel of a hub is the one with its serial number. -/
theorem Hub.channel?_of_mem {h : Hub} {c : Channel} (distinct : h.ledger.specs.Distinct)
    (hc : c ∈ h.tracked) : h.channel? c.serial = some c := by
  have hnodup : (h.tracked.map Channel.serial).Nodup := by
    simpa [Table.Distinct, Table.keys, ledger, Function.comp_def] using distinct
  unfold channel?
  generalize h.tracked = tracked at hc hnodup
  induction tracked with
  | nil => cases hc
  | cons d rest ih =>
    obtain ⟨hd, hrest⟩ := List.nodup_cons.mp hnodup
    rcases List.mem_cons.mp hc with rfl | hc
    · simp
    · have hne : d.serial ≠ c.serial := fun he => hd (he ▸ List.mem_map_of_mem hc)
      rw [List.find?_cons_of_neg (by simpa using hne)]
      exact ih hc hrest

/-- A channel that is forgotten cannot be changed. -/
theorem Hub.modify_of_none {h : Hub} {serial : Nat} (hc : h.channel? serial = none)
    (f : Channel → Channel) : h.modify serial f = h := by
  have hother : ∀ c ∈ h.tracked, c.serial ≠ serial := by
    intro c hc'
    simpa using List.find?_eq_none.mp hc c hc'
  unfold modify
  have hmap : (h.tracked.map fun c => if c.serial = serial then f c else c) = h.tracked := by
    refine (List.map_congr_left fun c hc' => ?_).trans (List.map_id _)
    exact if_neg (hother c hc')
  rw [hmap]

/-- Only an operation may have to wait. -/
theorem Hub.intervene_answered (h : Hub) (now : Nat) (c : Channel) {what : Intervention}
    (direct : ∀ io, what ≠ .operate io) :
    ∃ hub events a, h.intervene now c what = (hub, events, .answered a) := by
  cases what with
  | change state =>
    rw [intervene]
    rcases h.changeInput c state with ⟨hub, events, f | changed⟩
    · exact ⟨hub, events, _, rfl⟩
    · exact ⟨hub, events, _, rfl⟩
  | operate io => exact absurd rfl (direct io)
  | _ => exact ⟨_, _, _, rfl⟩

theorem Gateway.ledger_snapshot (g : Gateway) : g.snapshot.2.hub.ledger = g.hub.ledger := by
  obtain ⟨i, hi⟩ := g.snapshot_snd
  rw [hi]
  rfl

/-- A request that is answered at once leaves the gateway as it is, or lists the open names. -/
theorem Http.gateway_answered {g g' : Gateway} {r : Http.Request} {response : Http.Response}
    (h : Http.handle g r = .answered response g') : g' = g ∨ g' = g.snapshot.2 := by
  have hfetch : ∀ resource : Http.Resource,
      (resource.fetch g).2 = g ∨ (resource.fetch g).2 = g.snapshot.2 := by
    intro resource
    cases resource with
    | root => exact .inl rfl
    | health => exact .inl rfl
    | statePage => exact .inr rfl
    | stateList => exact .inr rfl
  unfold handle at h
  split at h
  · cases h
    exact .inl rfl
  · split at h
    · split at h
      · cases h
        exact .inl rfl
      · cases h
    · cases h
      exact .inl rfl
  · rename_i resource _
    split at h
    · cases h
      exact hfetch resource
    split at h
    · cases h
      exact hfetch resource
    · cases h
      exact .inl rfl

/-- What a task has ended with is where its last request stands. -/
theorem Task.tells_of_outcomes? {u : Task} {outcomes : List Outcome} {r : Resource}
    (h : u.outcomes? = some outcomes) (hlast : outcomes.getLast? = some (.ok (some r))) :
    u.progress.tells? = some r := by
  unfold outcomes? at h
  split at h
  · rename_i outcome hdone hrest
    cases h
    rw [List.getLast?_concat] at hlast
    rw [hdone, Option.some.inj hlast]
    rfl
  · cases h

/-- A task that has ended uses no channel. -/
theorem Task.free_of_outcomes? {u : Task} {outcomes : List Outcome}
    (h : u.outcomes? = some outcomes) : u.progress.resource? = none := by
  unfold outcomes? at h
  split at h
  · rename_i outcome hdone hrest
    rw [hdone]
    rfl
  · cases h

namespace Traffic

variable {t : Traffic} {ticket serial : Nat} {outside : Nat → Bool} {u v : Task} {g : Gateway}

/-- What requests use, they hold. -/
theorem held_of_resource? {k : Nat} {r : Resource} (outside : Nat → Bool)
    (h : (t.standing k).bind Progress.resource? = some r) : t.held outside r.serial = true := by
  obtain ⟨p, hp, hr⟩ := Option.bind_eq_some_iff.mp h
  exact held_of_standing outside hp (Progress.holds_iff.mpr ⟨r, hr, rfl⟩)

/-- **A channel that somebody holds is not forgotten** when a task goes on. -/
theorem lists_advance (hu : t.task? ticket = some u)
    (ha : u.advance t.now (t.held outside) t.gateway = some (g, v))
    (h : t.gateway.hub.ledger.Lists serial)
    (hheld : t.gateway.holds (t.held outside) serial = true) : g.hub.ledger.Lists serial := by
  have hstanding : t.standing ticket = some u.progress := by rw [standing, hu]; rfl
  obtain ⟨_, _, _, _, _, rfl, _⟩ | ⟨p', hp, rfl⟩ := Task.advance_cases ha
  · exact h
  · rw [ticket_of_task? hu] at hp
    exact (Gateway.advance_turnover hstanding hp).lists h hheld

/-- **What a task goes on to tell of is a channel of the hub.** -/
theorem lists_tells (hb : t.IsBacked) (hu : t.task? ticket = some u)
    (ha : u.advance t.now (t.held outside) t.gateway = some (g, v)) {r : Resource}
    (hr : v.progress.tells? = some r) : g.hub.ledger.Lists r.serial := by
  have hstanding : t.standing ticket = some u.progress := by rw [standing, hu]; rfl
  obtain ⟨_, _, _, _, _, _, rfl⟩ | ⟨p', hp, rfl⟩ := Task.advance_cases ha
  · cases hr
  · rw [ticket_of_task? hu] at hp
    have hturnover := Gateway.advance_turnover hstanding hp
    rcases Gateway.advance_tells hp hr with htouch | ⟨hserial, hcreated⟩
    · have hknown : Known t.gateway.registry t.standing r := by
        rcases htouch with hown | ⟨name, -, hname⟩
        · exact Backed.known_standing hstanding hown
        · exact Backed.known_resolve hname
      obtain ⟨c, hc, -⟩ := Backed.channel? hb hknown
      exact hturnover.lists (Hub.lists_iff.mpr ⟨c, hc⟩)
        (Gateway.holds_of_known (fun hk => held_of_resource? outside hk) hknown)
    · rw [hserial]
      exact hturnover.lists_created hcreated

/-- The end of a direct operation is that of the hub, also if its channel has been forgotten. -/
theorem conclude_eq (t : Traffic) (c : Channel) (w : Waiting) :
    (t.conclude c.serial w).gateway =
        { t.gateway with hub := (t.gateway.hub.conclude c w).1 }.observeAll
          (t.gateway.hub.conclude c w).2.1 ∧
      (t.conclude c.serial w).now = t.now ∧ (t.conclude c.serial w).tasks = t.tasks := by
  unfold conclude
  cases hc : t.gateway.hub.channel? c.serial with
  | none =>
    have hkeep : ∀ f, t.gateway.hub.modify c.serial f = t.gateway.hub := fun f =>
      Hub.modify_of_none hc f
    have hcurrent : t.gateway.hub.current c = c := by
      rw [Hub.current, hc]
      rfl
    refine ⟨?_, rfl, rfl⟩
    unfold Hub.conclude
    rw [hcurrent]
    cases w with
    | attaching due =>
      simp only [Hub.resume, Hub.connect, hkeep]
      rfl
    | absent due timeout => rfl
    | writing due w =>
      simp only [Hub.resume, hkeep]
      rfl
  | some d =>
    have hsame : t.gateway.hub.current c = t.gateway.hub.current d := by
      rw [Hub.current, Hub.current, Hub.serial_of_channel? hc, hc]
      rfl
    have hconclude : t.gateway.hub.conclude c w = t.gateway.hub.conclude d w := by
      rw [Hub.conclude, hsame, ← Hub.conclude]
    rw [hconclude]
    exact ⟨rfl, rfl, rfl⟩

/-- The end of a direct operation keeps the invariant. -/
theorem IsBacked.conclude (h : t.IsBacked) (serial : Nat) (w : Waiting) :
    (t.conclude serial w).IsBacked := by
  rcases t.conclude_cases serial w with he | ⟨c, hub, events, -, hresume, he⟩
  · rwa [he]
  · have hledger : hub.ledger = t.gateway.hub.ledger := hresume ▸ Hub.ledger_resume ..
    rw [he]
    exact h.removal ((congrArg Hub.ledger (Gateway.hub_observeAll ..)).trans hledger)
      (Gateway.registry_observeAll { t.gateway with hub } events) rfl

end Traffic

/-! ## The relation -/

/-- **A scene shows a bench and the errands that are under way on it.** -/
structure Bench.Shows (b : Bench) (es : List Errand) (s : Scene) : Prop where
  gateway : s.traffic.gateway = b.gateway
  now : s.traffic.now = b.now
  backed : s.traffic.IsBacked
  /-- The next ticket is a new one. -/
  fresh : ∀ u ∈ s.traffic.tasks, u.ticket < b.ticket
  /-- An errand that makes requests is a task. -/
  tasks : ∀ t shape, .requesting t shape ∈ es → s.traffic.task? t.ticket = some t
  /-- A task that uses a channel is an errand. -/
  users : ∀ u ∈ s.traffic.tasks, ∀ serial, u.progress.holds serial = true →
    ∃ shape, .requesting u shape ∈ es
  apart : (es.filterMap Errand.ticket?).Nodup
  operations : s.operation? = Errand.operations es
  /-- What is kept is a channel of the hub. -/
  kept : ∀ r ∈ b.kept.values, b.gateway.hub.ledger.Lists r.serial

namespace Bench

variable {b b' : Bench} {es es' earlier later : List Errand} {e e' : Errand} {s s' start : Scene}
  {others : Nat → Bool} {direct : Bool}

namespace Shows

/-- What shows a bench shows it still, if tasks and requests stay as they are and no channel is
created or forgotten. -/
theorem change (h : b.Shows es s) (gateway : s'.traffic.gateway = b'.gateway)
    (now : s'.traffic.now = b'.now) (backed : s'.traffic.IsBacked)
    (tasks : s'.traffic.tasks = s.traffic.tasks) (ticket : b'.ticket = b.ticket)
    (ledger : b'.gateway.hub.ledger = b.gateway.hub.ledger)
    (kept : ∀ r ∈ b'.kept.values, r ∈ b.kept.values)
    (tickets : es'.filterMap Errand.ticket? = es.filterMap Errand.ticket?)
    (requests : ∀ t shape, .requesting t shape ∈ es' ↔ .requesting t shape ∈ es)
    (operations : s'.operation? = Errand.operations es') : b'.Shows es' s' where
  gateway := gateway
  now := now
  backed := backed
  fresh := by
    rw [tasks, ticket]
    exact h.fresh
  tasks t shape ht := by
    rw [Traffic.task?, tasks]
    exact h.tasks t shape ((requests t shape).mp ht)
  users := by
    rw [tasks]
    intro u hu serial hserial
    obtain ⟨shape, hmem⟩ := h.users u hu serial hserial
    exact ⟨shape, (requests u shape).mpr hmem⟩
  apart := tickets ▸ h.apart
  operations := operations
  kept r hr := ledger ▸ h.kept r (kept r hr)

/-- An errand that makes no requests becomes another that makes none. -/
theorem replace (h : b.Shows (earlier ++ e :: later) s) (he : e.ticket? = none)
    (he' : e'.ticket? = none) (gateway : s'.traffic.gateway = b'.gateway)
    (now : s'.traffic.now = b'.now) (backed : s'.traffic.IsBacked)
    (tasks : s'.traffic.tasks = s.traffic.tasks) (ticket : b'.ticket = b.ticket)
    (ledger : b'.gateway.hub.ledger = b.gateway.hub.ledger)
    (kept : ∀ r ∈ b'.kept.values, r ∈ b.kept.values)
    (operations : s'.operation? = Function.update s.operation? earlier.length e'.operation?) :
    b'.Shows (earlier ++ e' :: later) s' := by
  have hidle : ∀ {f : Errand}, f.ticket? = none → ∀ t shape, .requesting t shape ≠ f := by
    rintro f hf t shape rfl
    cases hf
  refine h.change gateway now backed tasks ticket ledger kept ?_ ?_ ?_
  · rw [Errand.tickets_of_idle he, Errand.tickets_of_idle he']
  · intro t shape
    simp only [Errand.mem_around, hidle he t shape, hidle he' t shape, false_or]
  · rw [operations, h.operations, Errand.operations_replace earlier later e e']

/-- An errand that waits for nothing leaves the operations as they are. -/
theorem update_none (h : b.Shows (earlier ++ e :: later) s) (idle : e.operation? = none) :
    Function.update s.operation? earlier.length none = s.operation? := by
  rw [Function.update_eq_self_iff, h.operations, ← idle]
  simp [Errand.operations]

/-- An errand that makes no requests and waits for no channel becomes another such errand. The
bench may let go of what it has kept. -/
theorem goOn (h : b.Shows (earlier ++ e :: later) s) (he : e.ticket? = none)
    (idle : e.operation? = none) (he' : e'.ticket? = none) (idle' : e'.operation? = none)
    {kept : Table String Resource} (hkept : ∀ r ∈ kept.values, r ∈ b.kept.values) :
    ({ b with kept } : Bench).Shows (earlier ++ e' :: later) s := by
  refine h.replace he he' h.gateway h.now h.backed rfl rfl rfl hkept ?_
  rw [idle', h.update_none idle]

/-- **An errand makes requests**: a task arrives. -/
theorem arrive (h : b.Shows (earlier ++ e :: later) s) (he : e.ticket? = none)
    (idle : e.operation? = none) {jobs : List Job} {t : Task}
    (ht : Task.ofJobs? b.ticket jobs = some t) (shape : AnswerShape) :
    ({ b with ticket := b.ticket + 1 } : Bench).Shows (earlier ++ .requesting t shape :: later)
      (s.step (.move (.arrive b.ticket jobs))) := by
  obtain ⟨hticket, hready⟩ : t.ticket = b.ticket ∧ t.progress.resource? = none := by
    cases jobs <;> cases ht
    exact ⟨rfl, rfl⟩
  have hfree : s.traffic.task? b.ticket = none := by
    rw [Traffic.task?, List.find?_eq_none]
    intro u hu
    simpa using Nat.ne_of_lt (h.fresh u hu)
  have hstep : s.traffic.step (.arrive b.ticket jobs) =
      { s.traffic with tasks := s.traffic.tasks ++ [t] } := by
    rw [Traffic.step, Traffic.arrive, hfree, ht]
  constructor
  · exact (congrArg Traffic.gateway hstep).trans h.gateway
  · exact (congrArg Traffic.now hstep).trans h.now
  · exact h.backed.step fun hub he => by cases he
  · intro u hu
    rw [Scene.step, hstep, List.mem_append, List.mem_singleton] at hu
    rcases hu with hu | rfl
    · exact Nat.lt_succ_of_lt (h.fresh u hu)
    · exact hticket ▸ Nat.lt_succ_self _
  · intro u shape' hu
    rw [Scene.step, hstep, Traffic.task?, List.find?_append]
    rcases Errand.mem_around.mp hu with hnew | hu
    · cases hnew
      rw [hticket, ← Traffic.task?, hfree]
      simp [hticket]
    · have htask := h.tasks u shape' (Errand.mem_around.mpr (.inr hu))
      rw [Traffic.task?] at htask
      rw [htask]
      rfl
  · intro u hu serial hserial
    rw [Scene.step, hstep, List.mem_append, List.mem_singleton] at hu
    rcases hu with hu | rfl
    · obtain ⟨shape', hrequest⟩ := h.users u hu serial hserial
      refine ⟨shape', Errand.mem_around.mpr (.inr ?_)⟩
      rcases Errand.mem_around.mp hrequest with rfl | hrequest
      · cases he
      · exact hrequest
    · obtain ⟨r, hr, -⟩ := Progress.holds_iff.mp hserial
      rw [hready] at hr
      cases hr
  · rw [Errand.nodup_tickets rfl, ← Errand.tickets_of_idle he]
    refine ⟨?_, h.apart⟩
    -- the other tickets have been given out before
    intro hused
    obtain ⟨f, hf, hticket'⟩ := List.mem_filterMap.mp hused
    cases f with
    | requesting u shape' =>
      have hlt := h.fresh u (Traffic.mem_of_task? (h.tasks u shape' hf))
      have hsame : u.ticket = t.ticket := Option.some.inj hticket'
      omega
    | _ => cases hticket'
  · rw [Errand.operations_replace earlier later e, ← h.operations]
    exact (h.update_none idle).symm
  · exact h.kept

/-- An errand that uses no channel sees the channels held that all tasks hold together. -/
theorem held_eq {t : Task} {shape : AnswerShape}
    (h : b.Shows (earlier ++ .requesting t shape :: later) s)
    (hothers : ∀ serial, others serial =
      (earlier.any (Errand.holds serial) || later.any (Errand.holds serial)))
    (free : t.progress.resource? = none) :
    s.traffic.held (b.keeps others) = b.keeps others := by
  funext serial
  rw [Traffic.held, Bool.or_eq_right_iff_imp, List.any_eq_true]
  rintro ⟨u, hu, hserial⟩
  obtain ⟨shape', hrequest⟩ := h.users u hu serial hserial
  rcases Errand.mem_around.mp hrequest with heq | hrequest
  · cases heq
    obtain ⟨r, hr, -⟩ := Progress.holds_iff.mp hserial
    rw [free] at hr
    cases hr
  · rw [keeps, hothers, ← List.any_append, Bool.or_eq_true, List.any_eq_true (l := _ ++ _)]
    exact .inr ⟨_, hrequest, hserial⟩

/-- **An errand goes on with its requests**: its task does. -/
theorem advance {t v : Task} {g : Gateway} {shape : AnswerShape}
    (h : b.Shows (earlier ++ .requesting t shape :: later) s)
    (hothers : ∀ serial, others serial =
      (earlier.any (Errand.holds serial) || later.any (Errand.holds serial)))
    (ha : t.advance b.now (b.keeps others) b.gateway = some (g, v)) :
    ({ b with gateway := g } : Bench).Shows (earlier ++ .requesting v shape :: later)
        (s.step (.move (.advance t.ticket (b.keeps others)))) ∧
      ∀ r, v.progress.tells? = some r → g.hub.ledger.Lists r.serial := by
  have hu : s.traffic.task? t.ticket = some t := h.tasks t shape (by simp)
  have hv : v.ticket = t.ticket := Task.ticket_advance ha
  rw [← Task.advance_congr (h.held_eq hothers), ← h.now, ← h.gateway] at ha
  have hstep : s.traffic.step (.advance t.ticket (b.keeps others)) =
      { s.traffic with gateway := g, tasks := s.traffic.replace v } := by
    rw [Traffic.step, Traffic.advance, hu]
    dsimp only
    rw [ha]
  obtain ⟨hother, hapart⟩ := (Errand.nodup_tickets rfl).mp h.apart
  refine ⟨?_, fun r hr => Traffic.lists_tells h.backed hu ha hr⟩
  constructor
  · exact congrArg Traffic.gateway hstep
  · exact (congrArg Traffic.now hstep).trans h.now
  · exact h.backed.step fun hub he => by cases he
  · intro w hw
    rw [Scene.step, hstep] at hw
    rcases Traffic.mem_replace hw with rfl | ⟨hw, -⟩
    · exact hv ▸ h.fresh t (Traffic.mem_of_task? hu)
    · exact h.fresh w hw
  · intro w shape' hw
    rw [Scene.step, hstep]
    dsimp only
    rw [Traffic.task?_replace hu hv]
    rcases Errand.mem_around.mp hw with hnew | hw
    · cases hnew
      rw [hv, Function.update_self]
    · have hne : w.ticket ≠ t.ticket := by
        intro hsame
        exact hother (List.mem_filterMap.mpr ⟨_, hw, congrArg some hsame⟩)
      rw [Function.update_of_ne hne]
      exact h.tasks w shape' (Errand.mem_around.mpr (.inr hw))
  · intro w hw serial hserial
    rw [Scene.step, hstep] at hw
    rcases Traffic.mem_replace hw with rfl | ⟨hw, hne⟩
    · exact ⟨shape, by simp⟩
    · obtain ⟨shape', hrequest⟩ := h.users w hw serial hserial
      refine ⟨shape', Errand.mem_around.mpr (.inr ?_)⟩
      rcases Errand.mem_around.mp hrequest with heq | hrequest
      · cases heq
        exact absurd hv.symm hne
      · exact hrequest
  · exact (Errand.nodup_tickets rfl).mpr ⟨hv ▸ hother, hapart⟩
  · rw [Errand.operations_replace earlier later (.requesting t shape), ← h.operations]
    exact (h.update_none rfl).symm
  · intro r hr
    refine Traffic.lists_advance hu ha (h.gateway ▸ h.kept r hr) ?_
    have hkeeps : b.keeps others r.serial = true := by
      rw [keeps, Bool.or_eq_true, List.any_eq_true]
      exact .inl ⟨r, hr, by simp⟩
    simp only [Gateway.holds, Traffic.held, hkeeps, Bool.or_true]

/-- **Requests are done**: their errand is finished, and what is kept from then on is a channel of
the hub. -/
theorem conclude {t : Task} {shape : AnswerShape}
    (h : b.Shows (earlier ++ .requesting t shape :: later) s) (done : t.progress.resource? = none)
    {kept : Table String Resource}
    (hkept : ∀ r ∈ kept.values, b.gateway.hub.ledger.Lists r.serial) (a : Answer) (time : Nat) :
    ({ b with kept } : Bench).Shows (earlier ++ .finished a time :: later) s := by
  constructor
  · exact h.gateway
  · exact h.now
  · exact h.backed
  · exact h.fresh
  · intro u shape' hu
    rcases Errand.mem_around.mp hu with heq | hu
    · cases heq
    · exact h.tasks u shape' (Errand.mem_around.mpr (.inr hu))
  · intro u hu serial hserial
    obtain ⟨shape', hrequest⟩ := h.users u hu serial hserial
    refine ⟨shape', Errand.mem_around.mpr (.inr ?_)⟩
    rcases Errand.mem_around.mp hrequest with heq | hrequest
    · cases heq
      obtain ⟨r, hr, -⟩ := Progress.holds_iff.mp hserial
      rw [done] at hr
      cases hr
    · exact hrequest
  · rw [Errand.tickets_of_idle rfl]
    exact ((Errand.nodup_tickets rfl).mp h.apart).2
  · rw [Errand.operations_replace earlier later (.requesting t shape), ← h.operations]
    exact (h.update_none rfl).symm
  · exact hkept

end Shows

end Bench

end ChannelGateway
