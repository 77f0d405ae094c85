import ChannelGateway.Proofs.GateTurns
import ChannelGateway.Proofs.Intact
import ChannelGateway.Proofs.Opening
import ChannelGateway.Proofs.Silent

/-!
# Openings in a row

A caller opens names one after the other on a hub without injected faults, and nobody else is served
meanwhile. What comes of it is known without channels, gates and clocks. A `Directory` lists the
names that are open, with kind and address, and who is subscribed to each name. An opening succeeds
if its name is open or the hub admits its address in time (`Directory.Opens`); then its name is
listed, under what it was first opened for, and its URLs are subscribed (`Directory.enter`). An
opening that fails changes nothing, so every opening is made whatever has become of those before.

The invariant is `Traffic.Course`: the task is at some entry, the directory is the one that it began
with or the one with the entry in it, and what is left to enter leads to where everything would lead
from the beginning. A request changes the directory in the piece that ends it, and not before.

Results:
* **`Gateway.Enters.piece`**: what a piece of an opening does to the directory.
* `Traffic.Series.step`: a move keeps the invariant while nobody else is served.
* `Traffic.Series.finishes`: the last opening ends, however far the task has come.
* **`Traffic.entered_in_order`**: what all openings have ended with, and what is listed then.
-/

namespace ChannelGateway

/-! ## Directories -/

/-- A name that is to be opened, and who is to be subscribed to it. -/
structure Entry where
  request : OpenRequest
  urls : List String

/-- The request that opens the name of an entry. -/
def Entry.job (e : Entry) : Job :=
  .use e.request (.subscribe e.urls)

/-- The hub admits the address of an entry in time. -/
def Entry.IsAdmitted (config : HubConfig) (e : Entry) : Prop :=
  config.Admits e.request.address e.request.timeout

instance (config : HubConfig) (e : Entry) : Decidable (e.IsAdmitted config) :=
  inferInstanceAs (Decidable (config.Admits ..))

/-- What is listed of a gateway: the kind and the address of each open name, and the subscribers of
every name. -/
@[ext]
structure Directory where
  places : String → Option (ChannelKind × Address)
  subscribers : String → List String

namespace Directory

/-- Nothing is open, and nobody is subscribed. -/
def empty : Directory := ⟨fun _ => none, fun _ => []⟩

variable {config : HubConfig} {d : Directory} {e : Entry}

/-- Whether an opening succeeds that no fault strikes. -/
def Opens (config : HubConfig) (d : Directory) (e : Entry) : Prop :=
  (d.places e.request.name).isSome = true ∨ e.IsAdmitted config

instance (config : HubConfig) (d : Directory) (e : Entry) : Decidable (d.Opens config e) :=
  inferInstanceAs (Decidable (_ ∨ _))

/-- The directory after an opening. A name that was open keeps what it was opened for. -/
def enter (config : HubConfig) (d : Directory) (e : Entry) : Directory :=
  if d.Opens config e then
    { places := Function.update d.places e.request.name
        ((d.places e.request.name).or (some (e.request.kind, e.request.address)))
      subscribers := Function.update d.subscribers e.request.name
        (d.subscribers e.request.name ++ e.urls) }
  else d

/-- The directory after openings one after the other. -/
def enterAll (config : HubConfig) (d : Directory) (entries : List Entry) : Directory :=
  entries.foldl (enter config) d

/-- Which of the openings succeed, in order. -/
def results (config : HubConfig) : Directory → List Entry → List Bool
  | _, [] => []
  | d, e :: rest => decide (d.Opens config e) :: results config (d.enter config e) rest

theorem enter_of_open {place : ChannelKind × Address}
    (found : d.places e.request.name = some place) :
    d.enter config e =
      { d with
        subscribers := Function.update d.subscribers e.request.name
          (d.subscribers e.request.name ++ e.urls) } := by
  have hopens : d.Opens config e := .inl (by rw [found]; rfl)
  rw [enter, if_pos hopens, found, Option.some_or, ← found, Function.update_eq_self]

theorem enter_of_admits (free : d.places e.request.name = none)
    (admits : e.IsAdmitted config) :
    d.enter config e =
      { places := Function.update d.places e.request.name (some (e.request.kind, e.request.address))
        subscribers := Function.update d.subscribers e.request.name
          (d.subscribers e.request.name ++ e.urls) } := by
  rw [enter, if_pos (.inr admits), free, Option.none_or]

/-- A name that is not open opens if the hub admits it. -/
theorem opens_iff (free : d.places e.request.name = none) :
    d.Opens config e ↔ e.IsAdmitted config := by
  unfold Opens
  rw [free]
  simp

-- a name that is open opens again wherever it is asked for
example :
    let door (port : Int32) : Entry := ⟨⟨"door", .digitalInput, ⟨0, port⟩, 1000⟩, []⟩
    Directory.empty.results {} [door 40, door 0, door 40] = [false, true, true] := by
  decide +kernel

end Directory

theorem Subscriptions.listFor_eq_update (s : Subscriptions) (name : String) (urls : List String) :
    (s.subscribeAll name urls).listFor =
      Function.update s.listFor name (s.listFor name ++ urls) := by
  funext other
  rw [listFor_subscribeAll, Function.update_apply]
  simp only [eq_comm]

/-! ## One opening -/

namespace Gateway

variable {config : HubConfig} {d : Directory} {e : Entry} {g g' : Gateway} {now ticket : Nat}
  {held : Nat → Bool} {p p' : Progress}

/-- What is listed of a gateway. -/
def directory (g : Gateway) : Directory where
  places name := (g.registry.resolve name).map fun r => (r.kind, r.spec.address)
  subscribers := g.subscriptions.listFor

/-- Where the opening of an entry stands on a gateway of which `d` was listed when it began, and
what is listed by then. -/
inductive Enters (config : HubConfig) (d : Directory) (e : Entry) (g : Gateway) : Progress → Prop
  | ready (same : g.directory = d) : Enters config d e g (.ready e.job)
  | queued (same : g.directory = d) : Enters config d e g (.queued e.job)
  /-- It waits for a channel that will attach. -/
  | attaching {r : Resource} {due : Nat} (same : g.directory = d)
    (free : d.places e.request.name = none)
    (admits : e.IsAdmitted config) (name_eq : r.name = e.request.name)
    (kind_eq : r.kind = e.request.kind) (address_eq : r.spec.address = e.request.address) :
    Enters config d e g (.opening r (.subscribe e.urls) (.attaching due))
  /-- It waits in vain. -/
  | absent {r : Resource} {due timeout : Nat} (same : g.directory = d)
    (free : d.places e.request.name = none)
    (off : ¬ e.IsAdmitted config) :
    Enters config d e g (.opening r (.subscribe e.urls) (.absent due timeout))
  | done {outcome : Outcome} (told : outcome.isOk = decide (d.Opens config e))
    (entered : g.directory = d.enter config e) : Enters config d e g (.done outcome)

namespace Enters

/-- What is listed is all that counts of the gateway. -/
theorem congr (h : Enters config d e g p) (same : g'.directory = g.directory) :
    Enters config d e g' p := by
  cases h with
  | ready hd => exact .ready (same.trans hd)
  | queued hd => exact .queued (same.trans hd)
  | attaching hd free admits name_eq kind_eq address_eq =>
    exact .attaching (same.trans hd) free admits name_eq kind_eq address_eq
  | absent hd free off => exact .absent (same.trans hd) free off
  | done told entered => exact .done told (same.trans entered)

/-- An opening that has failed. -/
theorem failed {error : GatewayError} (same : g.directory = d)
    (free : d.places e.request.name = none)
    (off : ¬ e.IsAdmitted config) :
    Enters config d e g (.done (.error error)) := by
  have hnot : ¬ d.Opens config e := fun hopens => off ((Directory.opens_iff free).mp hopens)
  refine .done (decide_eq_false hnot).symm ?_
  rw [same, Directory.enter, if_neg hnot]

/-- An opening that uses a name which it has found open. -/
theorem follow (hc : g.registry.Consistent) (same : g.directory = d) {r : Resource}
    (found : g.registry.resolve e.request.name = some r) (gates : Gates) (now : Nat) :
    Enters config d e ({ g with gates }.follow now r (.subscribe e.urls)).1
      ({ g with gates }.follow now r (.subscribe e.urls)).2 := by
  have hplace : d.places e.request.name = some (r.kind, r.spec.address) := by
    rw [← same]
    exact congrArg (Option.map _) found
  refine .done (decide_eq_true (.inl (by rw [hplace]; rfl))).symm ?_
  rw [Directory.enter_of_open hplace, ← same]
  ext1
  · rfl
  · exact (Subscriptions.listFor_eq_update ..).trans (by rw [hc.name_eq found]; rfl)

/-- An opening whose channel has attached. -/
theorem register (same : g.directory = d) (free : d.places e.request.name = none)
    (admits : e.IsAdmitted config) {r : Resource}
    (name_eq : r.name = e.request.name) (kind_eq : r.kind = e.request.kind)
    (address_eq : r.spec.address = e.request.address) (now ticket : Nat) :
    Enters config d e (g.register now ticket r (.subscribe e.urls)).1
      (g.register now ticket r (.subscribe e.urls)).2 := by
  refine .done (decide_eq_true (.inr admits)).symm ?_
  rw [Directory.enter_of_admits free admits, ← same]
  ext1
  · funext name
    have hplace : ((g.registry.insert r).resolve name).map
        (fun s : Resource => (s.kind, s.spec.address)) =
          Function.update g.directory.places e.request.name
            (some (e.request.kind, e.request.address)) name := by
      rw [Registry.resolve_insert, name_eq, Function.update_apply]
      by_cases hname : name = e.request.name
      · rw [if_pos hname, if_pos hname.symm, Option.map_some, kind_eq, address_eq]
      · rw [if_neg hname, if_neg (Ne.symm hname)]
        rfl
    exact hplace
  · rw [← name_eq]
    exact Subscriptions.listFor_eq_update ..

/-- **What a piece of an opening does to the directory**: nothing, unless it ends it. -/
theorem piece (h : Enters config d e g p) (hc : g.registry.Consistent)
    (shaped : g.hub.IsShaped config) (silent : g.hub.injection.IsSilent)
    (hp : g.Piece now held ticket p g' p') : Enters config d e g' p' := by
  obtain ⟨rfl, hn⟩ := shaped
  -- what beginning to open the channel does
  have hattempt : ∀ {hub : Hub} {events : List HubEvent} {status : IoStatus},
      g.attempt now held e.request = (hub, events, status) →
      Hub.OpenStart (g.enlist held e.request).hub now
        (.fresh g.hub.created (g.newcomer e.request).spec) e.request.timeout
        (hub, events, status) := by
    intro hub events status attempt
    rw [← attempt]
    exact attempt_start hn (by rw [Hub.check_silent silent]) now held e.request
  have hfree : g.directory = d → g.registry.resolve e.request.name = none →
      d.places e.request.name = none := by
    rintro rfl free
    exact congrArg (Option.map _) free
  cases h with
  | ready same =>
    cases hp with
    | enter job => exact .queued same
    | reuse found => exact follow hc same found g.gates now
  | queued same =>
    cases hp with
    | join turn found => exact follow hc same found (g.gates.leave e.request.name ticket) now
    | refuse turn free missing =>
      exact failed same (hfree same free) fun admits => HubConfig.not_has_missing missing admits.1
    | create turn free known attempt =>
      cases hattempt attempt with
      | attaching i admits slow => exact .attaching same (hfree same free) admits rfl rfl rfl
      | absent i off slow => exact .absent same (hfree same free) off
    | createOpen turn free known attempt =>
      cases hattempt attempt with
      | opened i admits swift =>
        exact register (g := { g.enlist held e.request with hub := _ }) same (hfree same free)
          admits
          rfl rfl rfl now ticket
    | createFailed turn free known attempt =>
      cases hattempt attempt with
      | refused i off swift => exact failed same (hfree same free) off
  | attaching same free admits name_eq kind_eq address_eq =>
    cases hp with
    | attached due result =>
      cases result
      exact register (g := { g with hub := g.hub.modify _ Channel.connect }) same free admits
        name_eq
        kind_eq address_eq now ticket
    | unattached due result => cases result
  | absent same free off =>
    cases hp with
    | attached due result => cases result
    | unattached due result => exact failed same free off
  | done told entered => cases hp

/-- What an opening that goes on does to the directory. -/
theorem advance (h : Enters config d e g p) (hc : g.registry.Consistent)
    (shaped : g.hub.IsShaped config) (silent : g.hub.injection.IsSilent)
    (ha : g.advance now held ticket p = some (g', p')) : Enters config d e g' p' := by
  rcases advance_piece ha with hone | ⟨job, rfl, htwo⟩
  · exact h.piece hc shaped silent hone
  · have henter : g.Piece now held ticket (.ready job)
        { g with gates := g.gates.enter job.name ticket } (.queued job) := .enter job
    exact (h.piece hc shaped silent henter).piece hc shaped silent htwo

end Enters

end Gateway

/-! ## Openings one after the other -/

namespace Task

variable {config : HubConfig} {start d : Directory} {entries rest : List Entry} {e : Entry}
  {g g' : Gateway} {u u' : Task} {now : Nat} {held : Nat → Bool}

/-- A task is at an entry of which `d` was listed when its opening began, and further ones are to
follow. All of them together lead from there to where `entries` lead from the beginning. -/
structure IsAt (config : HubConfig) (start : Directory) (entries : List Entry) (g : Gateway)
    (d : Directory) (e : Entry) (rest : List Entry) (u : Task) : Prop where
  stands : g.Enters config d e u.progress
  further : u.rest = rest.map Entry.job
  listed : (d.enter config e).enterAll config rest = start.enterAll config entries
  told : u.outcomes.map (fun outcome => outcome.isOk) ++ d.results config (e :: rest) =
    start.results config entries

/-- A task goes on with its entry or to the next one. -/
theorem IsAt.advance (h : u.IsAt config start entries g d e rest) (hc : g.registry.Consistent)
    (shaped : g.hub.IsShaped config) (silent : g.hub.injection.IsSilent)
    (ha : u.advance now held g = some (g', u')) :
    ∃ d' e' rest', u'.IsAt config start entries g' d' e' rest' := by
  rcases advance_cases ha with ⟨outcome, job, jobs, hdone, hmore, rfl, rfl⟩ | ⟨p', hp, rfl⟩
  · have hstands := h.stands
    rw [hdone] at hstands
    cases hstands with
    | done told entered =>
      have hfurther := h.further
      rw [hmore] at hfurther
      cases rest with
      | nil => cases hfurther
      | cons next rest =>
        obtain ⟨rfl, rfl⟩ := List.cons.inj hfurther
        refine ⟨d.enter config e, next, rest, .ready entered, rfl, h.listed, ?_⟩
        rw [← h.told, List.map_append, List.append_assoc]
        simp only [List.map_cons, List.map_nil, told]
        rfl
  · exact ⟨d, e, rest, h.stands.advance hc shaped silent hp, h.further, h.listed, h.told⟩

theorem silent_advance (silent : g.hub.injection.IsSilent)
    (ha : u.advance now held g = some (g', u')) : g'.hub.injection.IsSilent := by
  rcases advance_cases ha with ⟨_, _, _, _, _, rfl, _⟩ | ⟨p', hp, _⟩
  · exact silent
  · rw [Gateway.injection_advance silent hp]
    exact silent

/-- What the openings of a task have ended with, and what is listed then. -/
theorem IsAt.ended (h : u.IsAt config start entries g d e rest) {outcomes : List Outcome}
    (hu : u.outcomes? = some outcomes) :
    g.directory = start.enterAll config entries ∧
      outcomes.map (fun outcome => outcome.isOk) = start.results config entries := by
  obtain ⟨hstands, hfurther, hlisted, htold⟩ := h
  unfold outcomes? at hu
  split at hu
  · rename_i outcome hdone hlast
    cases hu
    rw [hdone] at hstands
    rw [hlast] at hfurther
    obtain rfl : rest = [] := List.map_eq_nil_iff.mp hfurther.symm
    cases hstands with
    | done told entered =>
      refine ⟨entered.trans hlisted, ?_⟩
      rw [← htold, List.map_append, List.map_cons, told]
      rfl
  · cases hu

end Task

/-- Whether a move may happen while the task with a ticket is served alone, whoever else holds
channels. -/
def Move.IsSolo (ticket : Nat) (m : Move) : Prop :=
  ∃ outside, m.IsLone ticket outside

namespace Traffic

variable {config : HubConfig} {start : Directory} {ticket : Nat} {entries : List Entry}
  {t : Traffic} {u : Task}

/-- Where one task stands that opens some entries, and what is listed. -/
inductive Course (config : HubConfig) (start : Directory) (ticket : Nat) (g : Gateway) :
    List Entry → List Task → Prop
  /-- There is nothing to open, and no task. -/
  | idle (same : g.directory = start) : Course config start ticket g [] []
  | busy {entries rest : List Entry} {u : Task} {d : Directory} {e : Entry}
    (own : u.ticket = ticket) (isAt : u.IsAt config start entries g d e rest) :
    Course config start ticket g entries [u]

theorem Course.congr {g g' : Gateway} {tasks : List Task}
    (h : Course config start ticket g entries tasks) (same : g'.directory = g.directory) :
    Course config start ticket g' entries tasks := by
  cases h with
  | idle hstart => exact .idle (same.trans hstart)
  | busy own isAt => exact .busy own ⟨isAt.stands.congr same, isAt.further, isAt.listed, isAt.told⟩

/-- One task opens some entries on a hub without faults, and there is no other one. -/
structure Series (config : HubConfig) (start : Directory) (ticket : Nat) (entries : List Entry)
    (t : Traffic) : Prop where
  orderly : t.IsOrderly
  shaped : t.gateway.hub.IsShaped config
  silent : t.gateway.hub.injection.IsSilent
  course : Course config start ticket t.gateway entries t.tasks

theorem task?_of_single (htasks : t.tasks = [u]) (own : u.ticket = ticket) :
    t.task? ticket = some u := by
  unfold task?
  rw [htasks]
  simp [own]

/-- A task that goes on keeps the series going. -/
theorem Series.advance (h : t.Series config start ticket entries) (outside : Nat → Bool) :
    (t.step (.advance ticket outside)).Series config start ticket entries := by
  have horderly := h.orderly.step (.advance ticket outside)
  have own : ∀ m ∈ [Move.advance ticket outside], ∀ hub, m ≠ .meddle hub := by simp
  have hshaped : (t.step (.advance ticket outside)).gateway.hub.IsShaped config :=
    isShaped_run h.shaped own
  have hcourse := h.course
  simp only [Traffic.step] at horderly hshaped ⊢
  generalize htasks : t.tasks = tasks at hcourse
  cases hcourse with
  | idle same =>
    have hnone : t.advance ticket outside = t := by
      simp [Traffic.advance, task?, htasks]
    rw [hnone]
    exact h
  | busy own isAt =>
    rcases advance_of_task? (task?_of_single htasks own) outside with ⟨-, he⟩ | ⟨g, v, ha, hv, he⟩
    · rw [he]
      exact h
    · obtain ⟨d, e, rest, hv'⟩ := isAt.advance h.orderly.consistent h.shaped h.silent ha
      have hreplace : t.replace v = [v] := by simp [replace, htasks, own, hv]
      rw [he, hreplace] at horderly hshaped ⊢
      exact ⟨horderly, hshaped, Task.silent_advance h.silent ha, .busy hv hv'⟩

/-- **A move keeps the series going** while nobody else is served. -/
theorem Series.step (h : t.Series config start ticket entries) {m : Move} (solo : m.IsSolo ticket) :
    (t.step m).Series config start ticket entries := by
  obtain ⟨outside, lone⟩ := solo
  cases m with
  | advance k other =>
    obtain ⟨rfl, -⟩ := lone
    exact h.advance other
  | wait ms => exact ⟨h.orderly.step (.wait ms), h.shaped, h.silent, h.course⟩
  | deliver receivers =>
    exact ⟨h.orderly.step (.deliver receivers), h.shaped, h.silent, h.course.congr rfl⟩
  | settle => exact ⟨h.orderly.step .settle, h.shaped, h.silent, h.course.congr rfl⟩
  | _ => cases lone

theorem Series.run (h : t.Series config start ticket entries) {moves : List Move}
    (solo : ∀ m ∈ moves, m.IsSolo ticket) : (t.run moves).Series config start ticket entries :=
  run_induction_of (P := fun t => t.Series config start ticket entries) h
    (fun _ _ hm ht => ht.step hm) solo

/-! ### The end of a series -/

/-- Whoever stands somewhere is the only task. -/
theorem standing_of_single (htasks : t.tasks = [u]) {k : Nat} {p : Progress}
    (hk : t.standing k = some p) : k = u.ticket ∧ p = u.progress := by
  obtain ⟨v, hv, rfl⟩ := Option.map_eq_some_iff.mp hk
  have hmem := mem_of_task? hv
  rw [htasks, List.mem_singleton] at hmem
  subst hmem
  exact ⟨(ticket_of_task? hv).symm, rfl⟩

/-- The only task holds the gate that it stands at. -/
theorem IsOrderly.turn_of_single (h : t.IsOrderly) (htasks : t.tasks = [u]) {name : String}
    (hgate : u.progress.gate? = some name) : t.gateway.gates.holds name u.ticket = true := by
  have hs : t.standing u.ticket = some u.progress := by
    rw [standing, task?_of_single htasks rfl]
    rfl
  have hticket := h.has_ticket hs hgate
  obtain ⟨first, hfirst⟩ := Option.isSome_iff_exists.mp
    (List.isSome_head?.mpr (List.ne_nil_of_mem hticket))
  obtain ⟨p, hp, -⟩ := Option.bind_eq_some_iff.mp
    ((h.mem_tickets name first).mp (List.mem_of_head? hfirst))
  rw [Gates.holds_iff, hfirst, (standing_of_single htasks hp).1]

/-- The only task goes on if it has not ended and waits for no time. -/
theorem IsOrderly.goes_on_of_single (h : t.IsOrderly) (htasks : t.tasks = [u])
    (busy : u.outcomes? = none) (hdue : ∀ due, u.progress.due? = some due → due ≤ t.now)
    (outside : Nat → Bool) :
    ∃ g v, u.advance t.now (t.held outside) t.gateway = some (g, v) ∧
      v.remaining < u.remaining := by
  have hs : t.standing u.ticket = some u.progress := by
    rw [standing, task?_of_single htasks rfl]
    rfl
  -- a request that goes on takes its task with it
  have hrequest :
      (∃ g p, t.gateway.advance t.now (t.held outside) u.ticket u.progress = some (g, p) ∧
        p.remaining < u.progress.remaining) →
      ∃ g v, u.advance t.now (t.held outside) t.gateway = some (g, v) ∧
        v.remaining < u.remaining := by
    rintro ⟨g, p, ha, hless⟩
    exact ⟨g, _, Task.advance_of_request ha, Nat.add_lt_add_right hless _⟩
  have hgate : ∀ {name}, u.progress.gate? = some name → ∃ g p,
      t.gateway.advance t.now (t.held outside) u.ticket u.progress = some (g, p) ∧
        p.remaining < u.progress.remaining := by
    intro name hname
    exact (goes_on hs hname (h.turn_of_single htasks hname) hdue).2 outside
  cases hp : u.progress with
  | ready job =>
    have hfree : t.gateway.gates.tickets job.name = [] := by
      refine h.tickets_eq_nil (fun k => ?_) job.name
      cases hk : t.standing k with
      | none => rfl
      | some p =>
        rw [(standing_of_single htasks hk).2, hp]
        rfl
    obtain ⟨g, p, ha, hless⟩ := Gateway.advance_ready t.now (t.held outside) u.ticket hfree
    rw [hp] at hrequest
    exact hrequest ⟨g, p, ha, Nat.lt_of_le_of_lt hless (by simp [Progress.remaining])⟩
  | queued job => exact hrequest (hgate (by rw [hp]; rfl))
  | opening r followup w => exact hrequest (hgate (by rw [hp]; rfl))
  | writing r w =>
    have hdone := hdue w.due (by rw [hp]; rfl)
    rw [hp] at hrequest
    exact hrequest (t.gateway.advance_due (t.held outside) u.ticket rfl hdone)
  | done outcome =>
    cases hrest : u.rest with
    | nil =>
      rw [Task.outcomes?, hp, hrest] at busy
      cases busy
    | cons job jobs =>
      refine ⟨t.gateway, ⟨u.ticket, .ready job, jobs, u.outcomes ++ [outcome]⟩, ?_, ?_⟩
      · rw [Task.advance, hp, hrest]
      · simp only [Task.remaining, hp, hrest, Progress.remaining, List.length_cons]
        omega

/-- What the requests of a task have ended with, once the last has. Without requests there is no
task, and nothing to wait for. -/
def ended? (t : Traffic) (ticket : Nat) (jobs : List Job) : Option (List Outcome) :=
  match Task.ofJobs? ticket jobs with
  | none => some []
  | some _ => (t.task? ticket).bind Task.outcomes?

/-- A task of a series that has not ended comes nearer to its end. -/
theorem Series.comes_nearer (h : t.Series config start ticket entries) (htasks : t.tasks = [u])
    (own : u.ticket = ticket) (busy : u.outcomes? = none) :
    ∃ more v, (∀ m ∈ more, m.IsSolo ticket) ∧ (t.run more).tasks = [v] ∧
      v.remaining < u.remaining := by
  let wait : Move := .wait (u.progress.due?.getD 0 - t.now)
  let outside : Nat → Bool := fun _ => false
  have hdue : ∀ due, u.progress.due? = some due → due ≤ (t.step wait).now := by
    intro due hd
    rw [now_step]
    simp only [wait, Move.duration, hd, Option.getD_some]
    omega
  have horderly : (t.step wait).IsOrderly := h.orderly.step wait
  have hwaits : (t.step wait).tasks = [u] := htasks
  obtain ⟨g, v, ha, hless⟩ := horderly.goes_on_of_single hwaits busy hdue outside
  have htask := task?_of_single hwaits own
  refine ⟨[wait, .advance ticket outside], v, ?_, ?_, hless⟩
  · simp only [List.forall_mem_cons]
    exact ⟨⟨outside, trivial⟩, ⟨outside, rfl, rfl⟩, by simp⟩
  · rcases advance_of_task? htask outside with ⟨hwait, -⟩ | ⟨g', v', ha', hv, he⟩
    · rw [ha] at hwait
      cases hwait
    · rw [ha] at ha'
      cases ha'
      have hreplace : (t.step wait).replace v = [v] := by simp [replace, hwaits, own, hv]
      exact (congrArg Traffic.tasks he).trans hreplace

theorem Series.task_ends (h : t.Series config start ticket entries) (htasks : t.tasks = [u]) :
    ∃ more outcomes, (∀ m ∈ more, m.IsSolo ticket) ∧
      ((t.run more).task? ticket).bind Task.outcomes? = some outcomes := by
  induction hn : u.remaining using Nat.strongRecOn generalizing t u with
  | ind n ih =>
    have own : u.ticket = ticket := by
      have hcourse := h.course
      rw [htasks] at hcourse
      cases hcourse with
      | busy own isAt => exact own
    cases hu : u.outcomes? with
    | some outcomes =>
      refine ⟨[], outcomes, by simp, ?_⟩
      change (t.task? ticket).bind Task.outcomes? = some outcomes
      rw [task?_of_single htasks own]
      exact hu
    | none =>
      obtain ⟨more, v, hmore, hv, hless⟩ := h.comes_nearer htasks own hu
      obtain ⟨later, outcomes, hlater, hends⟩ := ih _ (hn ▸ hless) (h.run hmore) hv rfl
      refine ⟨more ++ later, outcomes, ?_, by rwa [run_append]⟩
      simpa only [List.forall_mem_append] using ⟨hmore, hlater⟩

/-- **The last opening of a series ends**, however far its task has come. -/
theorem Series.finishes (h : t.Series config start ticket entries) :
    ∃ more outcomes, (∀ m ∈ more, m.IsSolo ticket) ∧
      (t.run more).ended? ticket (entries.map Entry.job) = some outcomes := by
  have hcourse := h.course
  generalize htasks : t.tasks = tasks at hcourse
  cases hcourse with
  | idle same => exact ⟨[], [], by simp, rfl⟩
  | @busy entries =>
    cases entries with
    | nil => exact ⟨[], [], by simp, rfl⟩
    | cons first others => exact h.task_ends htasks

/-- What the openings of a series have ended with, and what is listed then. -/
theorem Series.ended (h : t.Series config start ticket entries) {outcomes : List Outcome}
    (hended : t.ended? ticket (entries.map Entry.job) = some outcomes) :
    t.gateway.directory = start.enterAll config entries ∧
      outcomes.map (fun outcome => outcome.isOk) = start.results config entries := by
  have hcourse := h.course
  generalize htasks : t.tasks = tasks at hcourse
  cases hcourse with
  | idle same =>
    cases hended
    exact ⟨same, rfl⟩
  | @busy entries rest u d e own isAt =>
    cases entries with
    | nil =>
      -- a task is at an entry, so there is one
      have htold := congrArg List.length isAt.told
      simp [Directory.results] at htold
    | cons first others =>
      refine isAt.ended ?_
      have hu : (t.task? ticket).bind Task.outcomes? = some outcomes := hended
      rwa [task?_of_single htasks own] at hu

end Traffic

/-- **Openings in a row.** On a hub without injected faults, and as long as nobody else is served,
the openings of a list of entries end some time. They have ended then as the directory says that
they end one after the other, and what is listed is the directory with all of them entered. -/
theorem Traffic.entered_in_order (gateway : GatewayConfig) {config : HubConfig}
    (faultless : config.IsFaultless) (seed : UInt64) (ticket : Nat) (entries : List Entry)
    {moves : List Move} (solo : ∀ m ∈ moves, m.IsSolo ticket) :
    let jobs := entries.map Entry.job
    let t := ((ofGateway (.ofConfig gateway (.ofConfig config seed))).arrive ticket jobs).run moves
    (∃ more outcomes, (∀ m ∈ more, m.IsSolo ticket) ∧
      (t.run more).ended? ticket jobs = some outcomes) ∧
      ∀ outcomes, t.ended? ticket jobs = some outcomes →
        t.gateway.directory = Directory.empty.enterAll config entries ∧
          outcomes.map (fun outcome => outcome.isOk) = Directory.empty.results config entries := by
  intro jobs t
  have hstart : ((ofGateway (.ofConfig gateway (.ofConfig config seed))).arrive ticket jobs).Series
      config .empty ticket entries := by
    have horderly := isOrderly_run gateway (.ofConfig config seed) [.arrive ticket jobs]
    have hshaped : Hub.IsShaped config (.ofConfig config seed) := ⟨rfl, fun c hc => by cases hc⟩
    cases entries with
    | nil => exact ⟨horderly, hshaped, faultless.silent _, .idle rfl⟩
    | cons e rest =>
      have hfirst : Task.IsAt config .empty (e :: rest) (.ofConfig gateway (.ofConfig config seed))
          .empty e rest ⟨ticket, .ready e.job, rest.map Entry.job, []⟩ :=
        ⟨.ready rfl, rfl, rfl, rfl⟩
      exact ⟨horderly, hshaped, faultless.silent _, .busy rfl hfirst⟩
  exact ⟨(hstart.run solo).finishes, fun outcomes => (hstart.run solo).ended⟩

end ChannelGateway
