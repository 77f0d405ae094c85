import ChannelGateway.Proofs.Mirror
import Mathlib.Data.List.Forall2

/-!
# What is asked for, and what subscribes

A webhook is subscribed by a call that opens an input (`open_digital_input` with a webhook), or by a
startup channel that opens with webhooks. Subscribing is the last thing such a request does, in the
piece that ends it (`Gateway.follow`), so a request that fails, is given up or still waits has
subscribed nothing. `Task.Follows` ties a task to what it was asked for: the request it is at was
made for the first thing that it is still to end, whatever piece it has come to.

Results:
* `Subscriptions.listFor_foldl`, `Subscriptions.count_foldl`: what a list of endings leaves.
* `Gateway.advance_served`: a request that goes on subscribes when it ends well, and only then.
* `Traffic.subscriptions_cancel`, `Traffic.polled`: what the moves on a task do to it and to the
  subscriptions.
-/

namespace ChannelGateway

/-! ## What is asked for -/

/-- The name that a call is about. -/
def Call.name : Call → String
  | digitalOut name _ _ => name
  | voltageOut name _ _ => name
  | digitalIn name _ _ => name
  | close name => name

/-- What a gateway is asked for: a call, or that a startup channel be opened. -/
inductive Ask where
  | call (c : Call)
  | startup (c : StartupChannel)
  deriving Repr

namespace Ask

/-- The name that is asked for. -/
def name : Ask → String
  | call c => c.name
  | startup c => c.name

/-- The URLs that are to be subscribed to the name once it is open. -/
def urls : Ask → List String
  | call (.digitalIn _ _ (some url)) => if url = "" then [] else [url]
  | call _ => []
  | startup c => c.webhooks

end Ask

/-- The URLs that a request subscribes at its end. -/
def Followup.urls : Followup → List String
  | subscribe urls => urls
  | _ => []

/-- The URLs that a request subscribes at its end. -/
def Job.urls : Job → List String
  | use _ followup => followup.urls
  | close _ => []

/-- A request is for what is asked for. -/
structure Job.Serves (job : Job) (ask : Ask) : Prop where
  name_eq : job.name = ask.name
  urls_eq : job.urls = ask.urls

theorem Call.job_serves {c : Call} {timeout : Nat} {job : Job} (h : c.job timeout = .ok job) :
    job.Serves (.call c) := by
  cases c with
  | digitalOut name state address =>
    cases h
    exact ⟨rfl, rfl⟩
  | voltageOut name volts address =>
    simp only [Call.job] at h
    split at h <;> cases h
    exact ⟨rfl, rfl⟩
  | digitalIn name address webhook =>
    cases h
    refine ⟨rfl, ?_⟩
    cases webhook with
    | none => rfl
    | some url => by_cases hurl : url = "" <;> simp [Job.urls, Followup.urls, Ask.urls, hurl]
  | close name =>
    cases h
    exact ⟨rfl, rfl⟩

theorem StartupChannel.job_serves (c : StartupChannel) (timeout : Nat) :
    (c.job timeout).Serves (.startup c) :=
  ⟨rfl, rfl⟩

/-- The requests that open the startup channels serve them, one each. -/
theorem Gateway.startupJobs_serve (g : Gateway) :
    List.Forall₂ Job.Serves g.startupJobs (g.startup.map Ask.startup) := by
  unfold startupJobs
  rw [List.forall₂_map_left_iff, List.forall₂_map_right_iff]
  exact List.forall₂_same.mpr fun c _ => c.job_serves _

/-- What a request has ended with. -/
def Progress.outcome? : Progress → Option Outcome
  | done outcome => some outcome
  | _ => none

/-- A request that has got so far will have subscribed what is asked for. -/
def Progress.Serves : Progress → Ask → Prop
  | ready job, ask => job.Serves ask
  | queued job, ask => job.Serves ask
  | opening r followup _, ask => r.name = ask.name ∧ followup.urls = ask.urls
  | writing r _, ask => r.name = ask.name ∧ ask.urls = []
  | done _, _ => False

/-- A task is at the first thing it is asked for, or has ended what it was asked before, and its
further requests are for the rest. -/
inductive Task.Follows (u : Task) : List Ask → Prop
  | idle {outcome : Outcome} {asks : List Ask} (done : u.progress = .done outcome)
    (rest : List.Forall₂ Job.Serves u.rest asks) : Follows u asks
  | busy {ask : Ask} {asks : List Ask} (serves : u.progress.Serves ask)
    (rest : List.Forall₂ Job.Serves u.rest asks) : Follows u (ask :: asks)

/-- A task that begins its next request is at the first thing it is asked for. -/
theorem Task.Follows.begin {u : Task} {asks : List Ask} (h : u.Follows asks) {outcome : Outcome}
    {job : Job} {rest : List Job} (hdone : u.progress = .done outcome)
    (hmore : u.rest = job :: rest) (outcomes : List Outcome) :
    Task.Follows { u with progress := .ready job, rest, outcomes } asks := by
  cases h with
  | idle _ hrest =>
    rw [hmore] at hrest
    cases hrest with
    | cons hfirst hrest => exact .busy hfirst hrest
  | busy hserves _ =>
    rw [hdone] at hserves
    cases hserves

/-- A task whose request has not ended is at the first thing it is asked for. -/
theorem Task.Follows.exists_ask {u : Task} {asks : List Ask} (h : u.Follows asks)
    (hbusy : ∀ outcome, u.progress ≠ .done outcome) :
    ∃ ask rest, asks = ask :: rest ∧ u.progress.Serves ask ∧
      List.Forall₂ Job.Serves u.rest rest := by
  cases h with
  | idle hdone _ => exact absurd hdone (hbusy _)
  | busy hserves hrest => exact ⟨_, _, rfl, hserves, hrest⟩

/-- What is served is not done. -/
theorem Progress.Serves.outcome? {p : Progress} {ask : Ask} (h : p.Serves ask) :
    p.outcome? = none := by
  cases p with
  | done outcome => cases h
  | _ => rfl

/-! ## Subscriptions -/

/-- What has ended, and with what. -/
abbrev Ending := Ask × Outcome

theorem Table.get?_of_not_mem {κ α : Type} [DecidableEq κ] {t : Table κ α} {k : κ}
    (h : k ∉ t.keys) : t.get? k = none := by
  cases hk : t.get? k with
  | none => rfl
  | some v => exact absurd (List.mem_map.mpr ⟨(k, v), Table.mem_of_get? hk, rfl⟩) h

namespace Subscriptions

/-- Subscribe what is asked for, if it has ended well. -/
def record (s : Subscriptions) (e : Ending) : Subscriptions :=
  if e.2.isOk then s.subscribeAll e.1.name e.1.urls else s

theorem listFor_record (s : Subscriptions) (e : Ending) (name : String) :
    (s.record e).listFor name =
      s.listFor name ++ if e.1.name = name ∧ e.2.isOk = true then e.1.urls else [] := by
  unfold record
  by_cases hok : e.2.isOk = true
  · rw [if_pos hok, listFor_subscribeAll]
    by_cases hname : e.1.name = name
    · simp [hname, hok]
    · simp [hname]
  · rw [if_neg hok, if_neg fun h => hok h.2, List.append_nil]

/-- The URLs that endings have subscribed to a name. -/
def subscribed (name : String) (endings : List Ending) : List String :=
  (endings.filter fun e => e.1.name = name ∧ e.2.isOk = true).flatMap fun e => e.1.urls

theorem listFor_foldl (s : Subscriptions) (endings : List Ending) (name : String) :
    (endings.foldl record s).listFor name = s.listFor name ++ subscribed name endings := by
  induction endings generalizing s with
  | nil => exact (List.append_nil _).symm
  | cons e rest ih =>
    rw [List.foldl_cons, ih, listFor_record, List.append_assoc]
    congr 1
    unfold subscribed
    by_cases he : e.1.name = name ∧ e.2.isOk = true
    · rw [if_pos he, List.filter_cons_of_pos (by simpa using he), List.flatMap_cons]
    · rw [if_neg he, List.filter_cons_of_neg (by simpa using he), List.nil_append]

/-! ### Counting -/

theorem count_insert (lists : Table String (List String)) (name : String) (urls : List String) :
    count ⟨lists.insert name urls⟩ + (listFor ⟨lists⟩ name).length =
      count ⟨lists⟩ + urls.length := by
  induction lists with
  | nil => simp [Table.insert, count, listFor, Table.values]
  | cons entry rest ih =>
    obtain ⟨other, old⟩ := entry
    unfold count listFor Table.values at ih ⊢
    simp only at ih ⊢
    unfold Table.insert
    rw [Table.get?_cons]
    split
    · simp only [List.map_cons, List.foldr_cons, Option.getD_some]
      omega
    · simp only [List.map_cons, List.foldr_cons]
      omega

theorem count_subscribe (s : Subscriptions) (name url : String) :
    (s.subscribe name url).count = s.count + 1 := by
  have h : (s.subscribe name url).count + (s.listFor name).length =
      s.count + (s.listFor name ++ [url]).length := count_insert s.lists name _
  rw [List.length_append, List.length_singleton] at h
  omega

theorem count_subscribeAll (s : Subscriptions) (name : String) (urls : List String) :
    (s.subscribeAll name urls).count = s.count + urls.length := by
  induction urls generalizing s with
  | nil => rfl
  | cons url rest ih =>
    have h := ih (s.subscribe name url)
    rw [count_subscribe] at h
    rw [List.length_cons, ← Nat.add_assoc, Nat.add_right_comm]
    exact h

/-- **Everything that has ended well is counted.** -/
theorem count_foldl (s : Subscriptions) (endings : List Ending) :
    (endings.foldl record s).count =
      s.count + ((endings.filter fun e => e.2.isOk).flatMap fun e => e.1.urls).length := by
  induction endings generalizing s with
  | nil => rfl
  | cons e rest ih =>
    rw [List.foldl_cons, ih]
    unfold record
    by_cases hok : e.2.isOk = true
    · rw [if_pos hok, count_subscribeAll, List.filter_cons_of_pos (by simpa using hok),
        List.flatMap_cons, List.length_append, Nat.add_assoc]
    · rw [if_neg hok, List.filter_cons_of_neg (by simpa using hok)]

theorem distinct_subscribeAll {s : Subscriptions} (h : s.lists.Distinct) (name : String)
    (urls : List String) : (s.subscribeAll name urls).lists.Distinct := by
  induction urls generalizing s with
  | nil => exact h
  | cons url rest ih => exact ih (h.insert _ _)

theorem distinct_foldl {s : Subscriptions} (h : s.lists.Distinct) (endings : List Ending) :
    (endings.foldl record s).lists.Distinct := by
  induction endings generalizing s with
  | nil => exact h
  | cons e rest ih =>
    refine ih ?_
    unfold record
    split
    · exact distinct_subscribeAll h _ _
    · exact h

/-- **The count is the total over all names.** -/
theorem count_eq_length {s : Subscriptions} (h : s.lists.Distinct) :
    s.count = (s.lists.keys.flatMap s.listFor).length := by
  have hlists : ∀ lists : Table String (List String),
      count ⟨lists⟩ = (lists.flatMap fun entry => entry.2).length := by
    intro lists
    induction lists with
    | nil => rfl
    | cons entry rest ih =>
      rw [List.flatMap_cons, List.length_append, ← ih]
      rfl
  have hlistFor : s.lists.keys.flatMap s.listFor = s.lists.flatMap fun entry => entry.2 := by
    rw [Table.keys, List.flatMap_map]
    refine List.flatMap_congr fun entry hentry => ?_
    rw [listFor, Table.get?_of_mem h hentry]
    rfl
  rw [hlistFor, ← hlists]

end Subscriptions

/-! ## A request that goes on -/

namespace Gateway

variable {g g' : Gateway} {now ticket : Nat} {held : Nat → Bool} {p p' : Progress} {ask : Ask}

/-- A request that goes on still serves what is asked for, or ends, and what is asked for is
recorded then. -/
def Served (g g' : Gateway) (p' : Progress) (ask : Ask) : Prop :=
  p'.Serves ask ∧ g'.subscriptions = g.subscriptions ∨
    ∃ outcome, p' = .done outcome ∧ g'.subscriptions = g.subscriptions.record (ask, outcome)

/-- A request that fails subscribes nothing. -/
theorem Served.of_error {e : GatewayError} (h : g'.subscriptions = g.subscriptions) :
    g.Served g' (.done (.error e)) ask :=
  .inr ⟨_, rfl, h⟩

/-- A request that subscribes nothing serves what has no URLs. -/
theorem Served.of_ok {r : Option Resource} (hurls : ask.urls = [])
    (h : g'.subscriptions = g.subscriptions) : g.Served g' (.done (.ok r)) ask := by
  have hrecord : g.subscriptions.record (ask, .ok r) = g.subscriptions := by
    change g.subscriptions.subscribeAll ask.name ask.urls = g.subscriptions
    rw [hurls]
    rfl
  exact .inr ⟨_, rfl, h.trans hrecord.symm⟩

/-- Using an open name subscribes what is asked for, or goes on to write. -/
theorem follow_served {r : Resource} {followup : Followup} (hname : r.name = ask.name)
    (hurls : followup.urls = ask.urls) (g : Gateway) (now : Nat) :
    g.Served (g.follow now r followup).1 (g.follow now r followup).2 ask := by
  cases followup with
  | nothing => exact .of_ok hurls.symm rfl
  | subscribe urls =>
    refine .inr ⟨_, rfl, ?_⟩
    change g.subscriptions.subscribeAll r.name urls = g.subscriptions.subscribeAll ask.name ask.urls
    rw [hname, ← hurls]
    rfl
  | write w =>
    have hnone : ask.urls = [] := hurls.symm
    simp only [follow]
    rcases g.hub.startWrite now (g.channelOf r) w with ⟨hub, status⟩
    cases status with
    | finished result =>
      cases result with
      | ok reply => exact .of_ok hnone rfl
      | error f => exact .of_error rfl
    | waiting w => exact .inl ⟨⟨hname, hnone⟩, rfl⟩

/-- **A piece of a request subscribes what is asked for when it ends well, and only then.** -/
theorem piece_served (hc : g.registry.Consistent) (hs : p.Serves ask)
    (hp : g.Piece now held ticket p g' p') : g.Served g' p' ask := by
  cases hp with
  | enter job => exact .inl ⟨hs, rfl⟩
  | reuse found => exact follow_served ((hc.name_eq found).trans hs.name_eq) hs.urls_eq ..
  | @join request followup r turn found =>
    exact follow_served ((hc.name_eq found).trans hs.name_eq) hs.urls_eq
      (g.leaveGate request.name ticket) now
  | refuse turn free missing => exact .of_error rfl
  | create turn free known attempt => exact .inl ⟨⟨hs.name_eq, hs.urls_eq⟩, rfl⟩
  | createOpen turn free known attempt => exact follow_served hs.name_eq hs.urls_eq ..
  | createFailed turn free known attempt => exact .of_error rfl
  | attached due result => exact follow_served hs.1 hs.2 ..
  | unattached due result => exact .of_error rfl
  | written due result => exact .of_ok hs.2 rfl
  | unwritten due result => exact .of_error rfl
  | notFound turn free => exact .of_error rfl
  | closeFailed turn found result => exact .of_error rfl
  | closed turn found result => exact .of_ok hs.urls_eq.symm rfl

/-- **A request that goes on subscribes what is asked for when it ends well, and only then.** -/
theorem advance_served (hc : g.registry.Consistent) (hs : p.Serves ask)
    (ha : g.advance now held ticket p = some (g', p')) : g.Served g' p' ask := by
  obtain ⟨gates, q, hp, hq⟩ := advance_last ha
  have hserves : q.Serves ask := by
    rcases hq with rfl | ⟨job, rfl, rfl⟩
    · exact hs
    · exact hs
  exact piece_served (g := { g with gates }) hc hserves hp

end Gateway

/-! ## Moves -/

namespace Traffic

/-- A move that neither brings, takes nor polls a task leaves the tasks and the subscriptions. -/
theorem tasks_step (t : Traffic) {m : Move} (harrive : ∀ ticket jobs, m ≠ .arrive ticket jobs)
    (hadvance : ∀ ticket outside, m ≠ .advance ticket outside)
    (hcancel : ∀ ticket, m ≠ .cancel ticket) :
    (t.step m).tasks = t.tasks ∧
      (t.step m).gateway.subscriptions = t.gateway.subscriptions := by
  cases m with
  | arrive ticket jobs => exact absurd rfl (harrive ticket jobs)
  | advance ticket outside => exact absurd rfl (hadvance ticket outside)
  | cancel ticket => exact absurd rfl (hcancel ticket)
  | intervene serial what =>
    simp only [step]
    rcases t.intervene_cases serial what with he | ⟨c, hub, events, effect, _, hi, he⟩
    · rw [he]
      exact ⟨rfl, rfl⟩
    · rw [he]
      exact ⟨rfl, Gateway.subscriptions_observeAll ..⟩
  | tell event => exact ⟨rfl, Gateway.subscriptions_observeAll t.gateway [event]⟩
  | shutdown =>
    have hs : t.gateway.shutdown.subscriptions = t.gateway.subscriptions := by
      rw [Gateway.shutdown_eq]
    exact ⟨rfl, hs⟩
  | snapshot =>
    obtain ⟨i, hi⟩ := t.gateway.snapshot_snd
    have hs : t.gateway.snapshot.2.subscriptions = t.gateway.subscriptions := by rw [hi]
    exact ⟨rfl, hs⟩
  | _ => exact ⟨rfl, rfl⟩

theorem subscriptions_cancel (t : Traffic) (ticket : Nat) :
    (t.cancel ticket).gateway.subscriptions = t.gateway.subscriptions := by
  unfold cancel
  split
  · rfl
  · dsimp only
    unfold Gateway.cancel
    split <;> rfl

theorem task?_cancel (t : Traffic) (ticket : Nat) :
    (t.cancel ticket).task? = Function.update t.task? ticket none := by
  funext k
  unfold cancel
  cases hu : t.task? ticket with
  | none =>
    by_cases hk : k = ticket
    · rw [hk, Function.update_self, hu]
    · rw [Function.update_of_ne hk]
  | some u =>
    unfold task?
    dsimp only
    rw [List.find?_filter]
    by_cases hk : k = ticket
    · subst hk
      rw [Function.update_self, List.find?_eq_none]
      intro v _
      simp
    · rw [Function.update_of_ne hk]
      congr 1
      funext v
      by_cases hv : v.ticket = k <;> simp [hv, hk]

/-- What a task that arrives adds. -/
theorem task?_arrive {t : Traffic} {ticket : Nat} {u : Task} {jobs : List Job}
    (hfree : t.task? ticket = none) (hu : Task.ofJobs? ticket jobs = some u) :
    (t.arrive ticket jobs).task? = Function.update t.task? ticket (some u) := by
  have hticket : u.ticket = ticket := by
    cases jobs with
    | nil => cases hu
    | cons job rest =>
      cases hu
      rfl
  have he : t.arrive ticket jobs = { t with tasks := t.tasks ++ [u] } := by
    rw [arrive, hfree, hu]
  rw [he]
  funext k
  unfold task? at hfree ⊢
  rw [List.find?_append]
  by_cases hk : k = ticket
  · subst hk
    rw [hfree, Function.update_self]
    simp [hticket]
  · rw [Function.update_of_ne hk]
    have hnone : [u].find? (fun v => decide (v.ticket = k)) = none := by
      simp [hticket, Ne.symm hk]
    rw [hnone, Option.or_none]

/-- What the request of a task ends with when it goes on; none when it does not end then. -/
def ending? (t : Traffic) (ticket : Nat) (outside : Nat → Bool) : Option Outcome :=
  match t.standing ticket with
  | some (.done _) => none
  | _ => ((t.advance ticket outside).standing ticket).bind Progress.outcome?

theorem standing_of_ending {t : Traffic} {ticket : Nat} {outside : Nat → Bool} {outcome : Outcome}
    (h : t.ending? ticket outside = some outcome) :
    (t.advance ticket outside).standing ticket = some (.done outcome) := by
  unfold ending? at h
  split at h
  · cases h
  · obtain ⟨p, hp, hout⟩ := Option.bind_eq_some_iff.mp h
    cases p with
    | done o =>
      cases hout
      exact hp
    | _ => cases hout

/-- What polling a task does. -/
inductive Polled (t : Traffic) (ticket : Nat) (outside : Nat → Bool) (u : Task) : Prop
  /-- It has to wait, or has ended everything. -/
  | waits (stays : t.advance ticket outside = t) (ending : t.ending? ticket outside = none)
  /-- Its next request begins. -/
  | begins {outcome : Outcome} {job : Job} {rest : List Job} (done : u.progress = .done outcome)
    (more : u.rest = job :: rest) (gateway : (t.advance ticket outside).gateway = t.gateway)
    (tasks : (t.advance ticket outside).task? = Function.update t.task? ticket
      (some { u with progress := .ready job, rest, outcomes := u.outcomes ++ [outcome] }))
    (ending : t.ending? ticket outside = none)
  /-- Its request goes on. -/
  | goes {p' : Progress}
    (advance : t.gateway.advance t.now (t.held outside) ticket u.progress =
      some ((t.advance ticket outside).gateway, p'))
    (tasks : (t.advance ticket outside).task? = Function.update t.task? ticket
      (some { u with progress := p' }))
    (ending : t.ending? ticket outside = p'.outcome?)

theorem polled {t : Traffic} {ticket : Nat} {u : Task} (hu : t.task? ticket = some u)
    (outside : Nat → Bool) : t.Polled ticket outside u := by
  have hs : t.standing ticket = some u.progress := by rw [standing, hu]; rfl
  rcases advance_of_task? hu outside with ⟨hwait, he⟩ | ⟨g, v, ha, hticket, he⟩
  · refine .waits he ?_
    unfold ending?
    rw [he, hs]
    cases u.progress <;> rfl
  · have htasks : (t.advance ticket outside).task? = Function.update t.task? ticket (some v) := by
      rw [he, task?_replace hu hticket]
    rcases Task.advance_cases ha with ⟨outcome, job, rest, hdone, hmore, hg, rfl⟩ | ⟨p', hp, rfl⟩
    · refine .begins hdone hmore (by rw [he]; exact hg) htasks ?_
      unfold ending?
      rw [hs, hdone]
    · rw [ticket_of_task? hu] at hp
      refine .goes (by rw [he]; exact hp) htasks ?_
      have hnot : ∀ outcome, u.progress ≠ .done outcome := by
        intro outcome hdone
        rw [hdone] at hp
        cases hp
      have hs' : (t.advance ticket outside).standing ticket = some p' := by
        rw [standing, htasks, Function.update_self]
        rfl
      unfold ending?
      rw [hs, hs']
      cases hprogress : u.progress with
      | done outcome => exact absurd hprogress (hnot outcome)
      | _ => rfl

end Traffic

end ChannelGateway
