import ChannelGateway.Proofs.Dispatch
import ChannelGateway.Gateway.Assembly
import Mathlib.Data.List.Nodup

/-!
# Deliveries: each ends once, at its own time

A delivery that begins is launched: the time and the receiver fix when it ends and how. While it is
in flight nothing is done to it, so over a run what has landed and what is still in flight is, in
some order, what has been launched, and the counters say how many of each there are.

When a delivery is seen to end depends on the clock. A run is *prompt* if no wait passes the end of
a delivery in flight: timers that are due are served before time goes on. In a prompt run every
delivery lands at the very time that its launch says. No launch says anything about another one, so
in two prompt runs deliveries that begin at the same time with receivers of the same behaviour end
alike, whatever else is in flight.

Results:
* `Dispatcher.Accounts`, `Traffic.accounts_run`: the books of the dispatcher over a run, from any
  state.
* `Traffic.Prompt.landings_perm`: in a prompt run what lands is what was launched and is over.
* `Traffic.exists_landed`: every prompt run goes on to one in which nothing is in flight.
* **`deliveries_settled`**: all of it from the beginning, and that deliveries do not meddle with
  each other.
* `Sender.launch_receiver`, `Sender.launch_of_arrival`: the launch of a delivery that a sender makes
  over a network.
-/

namespace ChannelGateway

/-- A delivery that begins, when it does, and how its receiver behaves. -/
structure Launch where
  delivery : Delivery
  time : Nat
  receiver : Receiver
  deriving DecidableEq, Repr

/-- The end of a delivery. -/
structure Landing where
  number : Nat
  time : Nat
  delivered : Bool
  deriving DecidableEq, Repr

/-- The end of a launched delivery: its receiver answers or the timeout passes, whichever comes
first; it is delivered if an answer has come by then and is a success. -/
def Launch.landing (timeout : Nat) (l : Launch) : Landing where
  number := l.delivery.number
  time := if l.receiver.hangs then l.time + timeout else l.time + min l.receiver.delay timeout
  delivered := !l.receiver.hangs && decide (l.receiver.delay ≤ timeout) &&
    decide (200 ≤ l.receiver.status ∧ l.receiver.status ≤ 299)

/-- The course of a launched delivery. -/
def Launch.flight (timeout : Nat) (l : Launch) : Flight :=
  l.delivery.launch l.time timeout l.receiver

/-- The end that a flight is bound for. -/
def Flight.landing (f : Flight) : Landing :=
  ⟨f.delivery.number, f.due, f.delivered⟩

theorem Launch.landing_flight (timeout : Nat) (l : Launch) :
    (l.flight timeout).landing = l.landing timeout := by
  unfold flight landing Delivery.launch Flight.landing isSuccess
  cases l.receiver.hangs with
  | true => rfl
  | false =>
    have hstatus : l.receiver.status < 300 ↔ l.receiver.status ≤ 299 := Nat.lt_succ_iff
    simp [hstatus]

/-- A delivery that has ended is delivered, or it has failed. -/
theorem Landing.length_eq_countP (landings : List Landing) :
    landings.length = landings.countP delivered + landings.countP fun e => !e.delivered := by
  rw [List.length_eq_countP_add_countP delivered]
  simp

theorem Launch.time_le_due (timeout : Nat) (l : Launch) : l.time ≤ (l.flight timeout).due := by
  unfold flight Delivery.launch
  split <;> simp

/-! ## The books of the dispatcher -/

namespace Dispatcher

/-- The books of a dispatcher between two states: what has been launched is in flight or has landed,
and the counters have counted it. -/
structure Accounts (d : Dispatcher) (launched : List Launch) (landed : List Flight)
    (d' : Dispatcher) : Prop where
  timeout : d'.timeout = d.timeout
  flights : (landed ++ d'.inFlight).Perm (d.inFlight ++ launched.map (Launch.flight d.timeout))
  attempted : d'.attempted = d.attempted + launched.length
  delivered : d'.delivered = d.delivered + landed.countP Flight.delivered
  failed : d'.failed = d.failed + landed.countP fun f => !f.delivered

variable {d d' d'' : Dispatcher} {launched more : List Launch} {landed others : List Flight}

/-- Books of a time in which nothing begins and nothing ends. -/
theorem Accounts.of_eq (timeout : d'.timeout = d.timeout) (flights : d'.inFlight = d.inFlight)
    (attempted : d'.attempted = d.attempted) (delivered : d'.delivered = d.delivered)
    (failed : d'.failed = d.failed) : d.Accounts [] [] d' :=
  ⟨timeout, by simp [flights], attempted, delivered, failed⟩

theorem Accounts.trans (h : d.Accounts launched landed d') (h' : d'.Accounts more others d'') :
    d.Accounts (launched ++ more) (landed ++ others) d'' where
  timeout := h'.timeout.trans h.timeout
  flights := by
    have hmore := h'.flights
    rw [h.timeout] at hmore
    calc
      landed ++ others ++ d''.inFlight
        = landed ++ (others ++ d''.inFlight) := List.append_assoc ..
      List.Perm _ (landed ++ (d'.inFlight ++ more.map (Launch.flight d.timeout))) :=
          hmore.append_left landed
      _ = landed ++ d'.inFlight ++ more.map (Launch.flight d.timeout) :=
          (List.append_assoc ..).symm
      List.Perm _ (d.inFlight ++ launched.map (Launch.flight d.timeout) ++
            more.map (Launch.flight d.timeout)) := h.flights.append_right _
      _ = d.inFlight ++ (launched ++ more).map (Launch.flight d.timeout) := by
          rw [List.append_assoc, List.map_append]
  attempted := by rw [h'.attempted, h.attempted, List.length_append, Nat.add_assoc]
  delivered := by rw [h'.delivered, h.delivered, List.countP_append, Nat.add_assoc]
  failed := by rw [h'.failed, h.failed, List.countP_append, Nat.add_assoc]

end Dispatcher

namespace Traffic

/-- The deliveries that a move launches. -/
def launches (t : Traffic) : Move → List Launch
  | .deliver receivers =>
    t.gateway.dispatcher.scheduled.map fun d => ⟨d, t.now, receivers d.url⟩
  | _ => []

/-- The deliveries that are in flight before a move and not after it. -/
def landed (t : Traffic) (m : Move) : List Flight :=
  t.gateway.dispatcher.inFlight.filter fun f => f ∉ (t.step m).gateway.dispatcher.inFlight

/-- The ends of deliveries that a move brings, as they are seen: when they are, and how. -/
def landings (t : Traffic) (m : Move) : List Landing :=
  (t.landed m).map fun f => ⟨f.delivery.number, t.now, f.delivered⟩

theorem launches_of_rests (t : Traffic) {m : Move} (rests : ∀ receivers, m ≠ .deliver receivers) :
    t.launches m = [] := by
  cases m with
  | deliver receivers => exact absurd rfl (rests receivers)
  | _ => rfl

/-- What a move launches is what begins with it. -/
theorem delivery_launches (t : Traffic) (m : Move) :
    (t.launches m).map Launch.delivery = t.begun m := by
  unfold begun
  have h := t.step_dispatch m
  generalize (t.step m).gateway.dispatcher = d at h ⊢
  cases h with
  | announces own rests =>
    rw [Dispatcher.announce_eq, t.launches_of_rests rests]
    simp
  | told e notices own =>
    subst own
    rw [Dispatcher.announce_eq]
    simp [launches]
  | begins receivers own =>
    subst own
    rw [Dispatcher.beginAll_eq]
    simp [launches, Function.comp_def]
  | ends own =>
    subst own
    have hle := List.length_filter_le (fun f : Flight => decide (t.now < f.due))
      t.gateway.dispatcher.inFlight
    simp [launches, Dispatcher.settle, List.drop_eq_nil_of_le hle]

/-- A launch is of the time of its move, which takes none. -/
theorem time_of_mem_launches (t : Traffic) {m : Move} {l : Launch} (hl : l ∈ t.launches m) :
    l.time = t.now ∧ m.duration = 0 := by
  cases m with
  | deliver receivers =>
    obtain ⟨d, _, rfl⟩ := List.mem_map.mp hl
    exact ⟨rfl, rfl⟩
  | _ => cases hl

/-- Only the deliveries whose time has come land. -/
theorem landed_settle (t : Traffic) :
    t.landed .settle = t.gateway.dispatcher.inFlight.filter fun f => f.due ≤ t.now := by
  refine List.filter_congr fun f hf => ?_
  have hstep : (t.step .settle).gateway.dispatcher.inFlight =
      t.gateway.dispatcher.inFlight.filter fun f => t.now < f.due := rfl
  rw [hstep]
  simp [hf]

/-- Settling apart, no move lands a delivery. -/
theorem landed_of_ne_settle (t : Traffic) {m : Move} (hm : m ≠ .settle) : t.landed m = [] := by
  suffices kept : ∀ f ∈ t.gateway.dispatcher.inFlight,
      f ∈ (t.step m).gateway.dispatcher.inFlight by
    unfold landed
    simpa using kept
  have hd := t.step_dispatch m
  generalize (t.step m).gateway.dispatcher = d at hd ⊢
  intro f hf
  cases hd with
  | announces own rests => rwa [Dispatcher.announce_eq]
  | told e notices own => rwa [Dispatcher.announce_eq]
  | begins receivers own =>
    rw [Dispatcher.beginAll_eq]
    exact List.mem_append_left _ hf
  | ends own => exact absurd own hm

/-- **The books of a move.** -/
theorem accounts_step (t : Traffic) (m : Move) :
    t.gateway.dispatcher.Accounts (t.launches m) (t.landed m)
      (t.step m).gateway.dispatcher := by
  by_cases hm : m = .settle
  · subst hm
    rw [landed_settle, t.launches_of_rests (m := .settle) nofun]
    refine ⟨rfl, ?_, rfl, rfl, rfl⟩
    have hkept : (t.step .settle).gateway.dispatcher.inFlight =
        t.gateway.dispatcher.inFlight.filter fun f => !decide (f.due ≤ t.now) := by
      simp only [← decide_not, Nat.not_le]
      rfl
    rw [hkept, List.map_nil, List.append_nil]
    exact List.filter_append_perm _ _
  · rw [t.landed_of_ne_settle hm]
    have hd := t.step_dispatch m
    generalize (t.step m).gateway.dispatcher = d at hd ⊢
    cases hd with
    | announces own rests =>
      rw [Dispatcher.announce_eq, t.launches_of_rests rests]
      exact .of_eq rfl rfl rfl rfl rfl
    | told e notices own =>
      rw [Dispatcher.announce_eq, own, t.launches_of_rests (m := .tell e) nofun]
      exact .of_eq rfl rfl rfl rfl rfl
    | begins receivers own =>
      subst own
      rw [Dispatcher.beginAll_eq]
      refine ⟨rfl, ?_, by simp [launches], rfl, rfl⟩
      simp [launches, Function.comp_def, Launch.flight]
    | ends own => exact absurd own hm

/-- **The books of a run**, from any state. -/
theorem accounts_run (t : Traffic) (moves : List Move) :
    t.gateway.dispatcher.Accounts (t.collect launches moves) (t.collect landed moves)
      (t.run moves).gateway.dispatcher := by
  induction moves generalizing t with
  | nil => exact .of_eq rfl rfl rfl rfl rfl
  | cons m moves ih => exact (t.accounts_step m).trans (ih (t.step m))

/-! ## Prompt runs -/

/-- No delivery in flight is overdue. -/
def IsTimely (t : Traffic) : Prop :=
  ∀ f ∈ t.gateway.dispatcher.inFlight, t.now ≤ f.due

/-- No move passes the end of a delivery in flight. -/
def Prompt (t : Traffic) : List Move → Prop
  | [] => True
  | m :: moves =>
    (∀ f ∈ t.gateway.dispatcher.inFlight, t.now + m.duration ≤ f.due) ∧ (t.step m).Prompt moves

/-- Whether a run is prompt can be decided. -/
instance decidablePrompt : ∀ (t : Traffic) (moves : List Move), Decidable (t.Prompt moves)
  | _, [] => .isTrue trivial
  | t, m :: moves =>
    haveI := decidablePrompt (t.step m) moves
    inferInstanceAs (Decidable (_ ∧ _))

theorem prompt_append {t : Traffic} {moves more : List Move} (hp : t.Prompt moves)
    (hmore : (t.run moves).Prompt more) : t.Prompt (moves ++ more) := by
  induction moves generalizing t with
  | nil => exact hmore
  | cons m moves ih => exact ⟨hp.1, ih hp.2 hmore⟩

/-- A move that passes no end leaves nothing overdue. -/
theorem isTimely_step {t : Traffic} {m : Move}
    (prompt : ∀ f ∈ t.gateway.dispatcher.inFlight, t.now + m.duration ≤ f.due) :
    (t.step m).IsTimely := by
  intro f hf
  rw [t.now_step m]
  -- what is in flight after the move was before it, or has just been launched
  have hin : f ∈ t.gateway.dispatcher.inFlight ++
      (t.launches m).map (Launch.flight t.gateway.dispatcher.timeout) :=
    (t.accounts_step m).flights.subset (List.mem_append_right _ hf)
  rcases List.mem_append.mp hin with hold | hnew
  · exact prompt f hold
  · obtain ⟨l, hl, rfl⟩ := List.mem_map.mp hnew
    obtain ⟨htime, hduration⟩ := t.time_of_mem_launches hl
    rw [← htime, hduration]
    exact l.time_le_due _

/-- In a prompt run a delivery is seen to land when its launch says. -/
theorem IsTimely.landings_eq {t : Traffic} (h : t.IsTimely) (m : Move) :
    t.landings m = (t.landed m).map Flight.landing := by
  refine List.map_congr_left fun f hf => ?_
  by_cases hm : m = .settle
  · subst hm
    rw [landed_settle] at hf
    obtain ⟨hin, hdue⟩ := List.mem_filter.mp hf
    have htime : t.now = f.due := Nat.le_antisymm (h f hin) (of_decide_eq_true hdue)
    rw [htime]
    rfl
  · rw [t.landed_of_ne_settle hm] at hf
    cases hf

/-- In a prompt run nothing is ever overdue, and every landing is the one that its launch says. -/
theorem Prompt.timely {t : Traffic} {moves : List Move} (hp : t.Prompt moves) (h : t.IsTimely) :
    (t.run moves).IsTimely ∧
      t.collect landings moves = (t.collect landed moves).map Flight.landing := by
  induction moves generalizing t with
  | nil => exact ⟨h, rfl⟩
  | cons m moves ih =>
    obtain ⟨hrun, hlandings⟩ := ih hp.2 (isTimely_step hp.1)
    refine ⟨hrun, ?_⟩
    rw [collect, collect, List.map_append, h.landings_eq m, hlandings]

/-- **What lands in a prompt run**, and what is still to land, is what was launched and what was in
flight before. -/
theorem Prompt.landings_perm {t : Traffic} {moves : List Move} (hp : t.Prompt moves)
    (h : t.IsTimely) :
    (t.collect landings moves ++ (t.run moves).gateway.dispatcher.inFlight.map Flight.landing).Perm
      (t.gateway.dispatcher.inFlight.map Flight.landing ++
        (t.collect launches moves).map (Launch.landing t.gateway.dispatcher.timeout)) := by
  have hflights := ((t.accounts_run moves).flights).map Flight.landing
  rw [List.map_append, List.map_append, List.map_map] at hflights
  have hlanding : Flight.landing ∘ Launch.flight t.gateway.dispatcher.timeout =
      Launch.landing t.gateway.dispatcher.timeout :=
    funext fun l => l.landing_flight _
  rwa [hlanding, ← (hp.timely h).2] at hflights

/-- **A prompt run can go on** until nothing is in flight: wait for the next end, settle, and
again. -/
theorem exists_landed {t : Traffic} (h : t.IsTimely) :
    ∃ more, t.Prompt more ∧ (t.run more).gateway.dispatcher.inFlight = [] := by
  -- each round lands at least the delivery whose end comes first
  induction hn : t.gateway.dispatcher.inFlight.length using Nat.strongRecOn generalizing t with
  | ind n ih =>
    cases hdue : t.gateway.dispatcher.nextDue? with
    | none =>
      have hnone : t.gateway.dispatcher.inFlight.map Flight.due = [] := by
        simpa [Dispatcher.nextDue?, List.min?_eq_none_iff] using hdue
      exact ⟨[], trivial, List.map_eq_nil_iff.mp hnone⟩
    | some due =>
      obtain ⟨hmem, hleast⟩ := List.min?_eq_some_iff.mp hdue
      obtain ⟨f, hf, rfl⟩ := List.mem_map.mp hmem
      have hnow : t.now + (f.due - t.now) = f.due := Nat.add_sub_cancel' (h f hf)
      have hprompt : t.Prompt [.wait (f.due - t.now), .settle] := by
        have hall : ∀ g ∈ t.gateway.dispatcher.inFlight,
            t.now + (f.due - t.now) ≤ g.due := fun g hg => by
          rw [hnow]
          exact hleast g.due (List.mem_map_of_mem hg)
        exact ⟨hall, hall, trivial⟩
      let later := t.run [.wait (f.due - t.now), .settle]
      have hin : later.gateway.dispatcher.inFlight =
          t.gateway.dispatcher.inFlight.filter fun g => f.due < g.due := by
        rw [← hnow]
        rfl
      have hfewer : later.gateway.dispatcher.inFlight.length < n := by
        rw [hin, ← hn]
        refine List.length_filter_lt_length_iff_exists.mpr ⟨f, hf, by simp⟩
      obtain ⟨more, hmore, hnone⟩ := ih _ hfewer (hprompt.timely h).1 rfl
      exact ⟨_ :: _ :: more, ⟨hprompt.1, hprompt.2.1, hmore⟩, hnone⟩

/-- No two deliveries of a run have one number. -/
theorem nodup_launches (gateway : Gateway) (hs : gateway.dispatcher.scheduled = [])
    (moves : List Move) :
    (((ofGateway gateway).collect launches moves).map fun l => l.delivery.number).Nodup := by
  obtain ⟨notices, -, hbegun⟩ := (ofGateway gateway).begun_run moves
  have hlaunches : ((ofGateway gateway).collect launches moves).map Launch.delivery =
      (ofGateway gateway).collect begun moves := by
    rw [collect_map]
    congr 1
    funext t m
    exact t.delivery_launches m
  have hnumbers := congrArg (List.map Delivery.number) hbegun
  simp only [ofGateway, hs, List.nil_append, List.map_append, Notice.number_deliveries] at hnumbers
  have hall : (List.range' gateway.dispatcher.next notices.length).Nodup := List.nodup_range'
  rw [← hnumbers, List.nodup_append, ← ofGateway, ← hlaunches, List.map_map] at hall
  exact hall.1

/-- A landing is seen with the outcome that its flight is bound for. -/
theorem delivered_landings (t : Traffic) (moves : List Move) :
    (t.collect landings moves).map Landing.delivered =
      (t.collect landed moves).map Flight.delivered := by
  rw [collect_map, collect_map]
  congr 1
  funext t m
  exact List.map_map

/-- **The counters of a run** count what was launched and how it has landed. -/
theorem counters (config : GatewayConfig) (hub : Hub) (moves : List Move) :
    let start := ofGateway (.ofConfig config hub)
    let d := (start.run moves).gateway.dispatcher
    d.attempted = (start.collect launches moves).length ∧
      d.delivered = (start.collect landings moves).countP Landing.delivered ∧
      (d.failed = (start.collect landings moves).countP fun e => !e.delivered) ∧
      (start.collect launches moves).length =
        (start.collect landings moves).length + d.inFlight.length := by
  intro start d
  obtain ⟨-, hflights, hattempted, hdelivered, hfailed⟩ := start.accounts_run moves
  have houtcomes := start.delivered_landings moves
  have hcount : ∀ p : Bool → Bool, (start.collect landings moves).countP (p ∘ Landing.delivered) =
      (start.collect landed moves).countP (p ∘ Flight.delivered) := fun p => by
    rw [← List.countP_map, houtcomes, List.countP_map]
  have hlength := hflights.length_eq
  simp only [List.length_append, List.length_map] at hlength
  have hlandings := congrArg List.length houtcomes
  rw [List.length_map, List.length_map] at hlandings
  refine ⟨hattempted.trans (Nat.zero_add _), ?_, ?_, ?_⟩
  · exact (hdelivered.trans (Nat.zero_add _)).trans (hcount id).symm
  · exact (hfailed.trans (Nat.zero_add _)).trans (hcount not).symm
  · rw [hlandings, hlength]
    exact (Nat.zero_add _).symm

/-! ## From the beginning -/

/-- What is promised of the deliveries of a prompt run. -/
structure Punctual (start : Traffic) (timeout : Nat) (moves : List Move) : Prop where
  /-- No two deliveries have one number. -/
  numbered : ((start.collect launches moves).map fun l => l.delivery.number).Nodup
  /-- A delivery that has begun has landed once, or it is in flight and bound for its landing. -/
  settles : (start.collect landings moves ++
      (start.run moves).gateway.dispatcher.inFlight.map Flight.landing).Perm
    ((start.collect launches moves).map (Launch.landing timeout))
  /-- A delivery whose time has passed has landed. -/
  passed : ∀ l ∈ start.collect launches moves, (l.landing timeout).time < (start.run moves).now →
    l.landing timeout ∈ start.collect landings moves
  /-- The run can go on until nothing is in flight. -/
  ends : ∃ more, start.Prompt (moves ++ more) ∧
    (start.run (moves ++ more)).gateway.dispatcher.inFlight = []

/-- The landing of a launch is found by its number. -/
theorem Punctual.landing_eq {start : Traffic} {timeout : Nat} {moves : List Move}
    (h : start.Punctual timeout moves) {l : Launch} {e : Landing}
    (hl : l ∈ start.collect launches moves) (he : e ∈ start.collect landings moves)
    (hn : e.number = l.delivery.number) : e = l.landing timeout := by
  have hmem := h.settles.subset (List.mem_append_left _ he)
  obtain ⟨l', hl', rfl⟩ := List.mem_map.mp hmem
  rw [List.inj_on_of_nodup_map h.numbered hl' hl hn]

/-- **Prompt runs are punctual.** -/
theorem punctual (config : GatewayConfig) (hub : Hub) {moves : List Move}
    (prompt : (ofGateway (.ofConfig config hub)).Prompt moves) :
    (ofGateway (.ofConfig config hub)).Punctual config.webhooks.deliveryTimeout.toNat moves := by
  have htimely : (ofGateway (.ofConfig config hub)).IsTimely := fun f hf => by cases hf
  have hsettles := prompt.landings_perm htimely
  have hlater := (prompt.timely htimely).1
  refine ⟨nodup_launches _ rfl moves, hsettles, fun l hl hpassed => ?_, ?_⟩
  · have hmem := hsettles.symm.subset (List.mem_append_right _ (List.mem_map_of_mem hl))
    rcases List.mem_append.mp hmem with hlanded | hflying
    · exact hlanded
    · obtain ⟨f, hf, he⟩ := List.mem_map.mp hflying
      have hdue : f.due = (l.landing config.webhooks.deliveryTimeout.toNat).time :=
        congrArg Landing.time he
      have hle := hlater f hf
      omega
  · obtain ⟨more, hmore, hnone⟩ := exists_landed hlater
    refine ⟨more, prompt_append prompt hmore, ?_⟩
    rwa [run_append]

end Traffic

/-- **Deliveries are settled one by one.** After every run, what has been attempted has been
delivered, has failed or is in flight, and the counters count what was launched and how it has
landed. In a prompt run every delivery lands once, at the time and with the outcome that its launch
says; so in two prompt runs with the same timeout, deliveries that began at the same time and whose
receivers behave alike end alike, whatever else was delivered. -/
theorem deliveries_settled (config : GatewayConfig) (hub : Hub) (moves : List Move) :
    let start := Traffic.ofGateway (.ofConfig config hub)
    let d := (start.run moves).gateway.dispatcher
    let launches := start.collect Traffic.launches moves
    let landings := start.collect Traffic.landings moves
    let timeout := config.webhooks.deliveryTimeout.toNat
    (d.attempted = d.delivered + d.failed + d.inFlight.length ∧
      d.attempted = launches.length ∧ d.delivered = landings.countP Landing.delivered ∧
      d.failed = landings.countP fun e => !e.delivered) ∧
    (start.Prompt moves → start.Punctual timeout moves ∧
      ∀ config' hub' moves', let start' := Traffic.ofGateway (.ofConfig config' hub')
        start'.Prompt moves' → config'.webhooks.deliveryTimeout.toNat = timeout →
        ∀ l ∈ launches, ∀ l' ∈ start'.collect Traffic.launches moves',
          l.time = l'.time → l.receiver = l'.receiver →
          ∀ e ∈ landings, ∀ e' ∈ start'.collect Traffic.landings moves',
            e.number = l.delivery.number → e'.number = l'.delivery.number →
            e.time = e'.time ∧ e.delivered = e'.delivered) := by
  intro start d launches landings timeout
  obtain ⟨hattempted, hdelivered, hfailed, hlaunches⟩ := Traffic.counters config hub moves
  refine ⟨⟨?_, hattempted, hdelivered, hfailed⟩,
    fun prompt => ⟨Traffic.punctual config hub prompt, ?_⟩⟩
  · calc
      d.attempted = launches.length := hattempted
      _ = landings.length + d.inFlight.length := hlaunches
      _ = d.delivered + d.failed + d.inFlight.length := by
          rw [Landing.length_eq_countP, ← hdelivered, ← hfailed]
  · intro config' hub' moves' start' prompt' htimeout l hl l' hl' ht hr e he e' he' hn hn'
    have hland := (Traffic.punctual config hub prompt).landing_eq hl he hn
    have hland' := (Traffic.punctual config' hub' prompt').landing_eq hl' he' hn'
    rw [hland, hland', htimeout]
    unfold Launch.landing
    rw [ht, hr]
    exact ⟨rfl, rfl⟩

/-- A door reports an edge to two subscribers. Whether the first one hangs or refuses at once, the
other delivery ends at its own time. -/
theorem deliveries_settled_siblings :
    let door : Job :=
      .use ⟨"door", .digitalInput, ⟨0, 0⟩, 1000⟩ (.subscribe ["http://a", "http://b"])
    let edge (first : Receiver) : List Move := [.arrive 0 [door], .advance 0 fun _ => false,
      .intervene 0 (.change true),
      .deliver fun url => if url = "http://a" then first else { delay := 5 },
      .settle, .wait 5, .settle]
    let slow := edge { hangs := true }
    let refusing := edge { status := 500 }
    let start := Traffic.ofGateway (.ofConfig {} (.ofConfig {} 0))
    start.Prompt slow ∧ start.Prompt refusing ∧ start.Punctual 5000 slow ∧
      start.collect Traffic.landings slow = [⟨1, 5, true⟩] ∧
      start.collect Traffic.landings refusing = [⟨0, 0, false⟩, ⟨1, 5, true⟩] ∧
      ∀ e ∈ start.collect Traffic.landings slow, ∀ e' ∈ start.collect Traffic.landings refusing,
        e.number = 1 → e'.number = 1 → e.time = e'.time ∧ e.delivered = e'.delivered := by
  intro door edge slow refusing start
  have prompt : start.Prompt slow := by decide +kernel
  have prompt' : start.Prompt refusing := by decide +kernel
  obtain ⟨punctual, alike⟩ := (deliveries_settled {} (.ofConfig {} 0) slow).2 prompt
  let second : Launch := ⟨⟨1, "http://b", "door", true⟩, 0, { delay := 5 }⟩
  have hsecond : second ∈ start.collect Traffic.launches slow := by decide +kernel
  have hsecond' : second ∈ start.collect Traffic.launches refusing := by decide +kernel
  refine ⟨prompt, prompt', punctual, by decide +kernel, by decide +kernel, ?_⟩
  exact alike {} (.ofConfig {} 0) refusing prompt' rfl second hsecond second hsecond' rfl rfl

/-! ## What a sender makes of a delivery -/

namespace Sender

variable (s : Sender) (network : Http.Network)

theorem duration_le (url : String) (change : StateChange) :
    s.duration network url change ≤ s.timeout := by
  unfold duration
  cases Url.read url with
  | error e => exact Nat.zero_le _
  | ok target =>
    dsimp only
    split
    · cases network (s.message target change) with
      | none => exact Nat.zero_le _
      | some arrival => exact Nat.min_le_right ..
    · exact Nat.zero_le _

/-- A subscriber is seen to succeed if sending to it does. -/
theorem isSuccess_receiver (url : String) (change : StateChange) :
    isSuccess (s.receiver network url change).status = (s.send network url change).isOk := by
  unfold receiver
  cases hsend : s.send network url change with
  | ok _ => rfl
  | error e =>
    cases e with
    | malformed => rfl
    | noResponse e => rfl
    | refused url' status =>
      -- a status is told only when it is none of success
      unfold send at hsend
      cases hread : Url.read url with
      | error e =>
        rw [hread] at hsend
        cases hsend
      | ok target =>
        rw [hread] at hsend
        simp only [bind, Except.bind] at hsend
        cases hexchange : Http.exchange network s.timeout (s.message target change) with
        | error e =>
          rw [hexchange] at hsend
          cases hsend
        | ok response =>
          rw [hexchange] at hsend
          simp only [Except.mapError] at hsend
          split at hsend
          · cases hsend
          · rename_i hfailed
            cases hsend
            exact Bool.eq_false_iff.mpr hfailed

/-- **A delivery that a sender makes** is delivered if sending succeeds, and ends when sending does,
at the latest at the timeout. -/
theorem launch_receiver (d : Delivery) (now : Nat) :
    d.launch now s.timeout (s.receiver network d.url d.change) =
      ⟨d, now + s.duration network d.url d.change, (s.send network d.url d.change).isOk⟩ := by
  have hle := s.duration_le network d.url d.change
  rw [Delivery.launch, if_neg (by simp [receiver]), isSuccess_receiver]
  have hdelay : (s.receiver network d.url d.change).delay = s.duration network d.url d.change := rfl
  rw [hdelay, Nat.min_eq_left hle, decide_eq_true hle, Bool.true_and]

variable {network} {d : Delivery} {target : Url} {arrival : Http.Arrival}

/-- **It is the delivery to a receiver** that answers when the response arrives and with its status,
but for one moment: a response that comes with the timeout is too late for the sender, whose own
time is out. -/
theorem launch_of_arrival (hread : Url.read d.url = .ok target)
    (sendable : target.isSendable = true)
    (harrival : network (s.message target d.change) = some arrival) (now : Nat) :
    d.launch now s.timeout (s.receiver network d.url d.change) =
      if arrival.after = s.timeout then ⟨d, now + s.timeout, false⟩
      else
        d.launch now s.timeout
          { delay := arrival.after, status := arrival.response.status } := by
  have hsendable : (s.message target d.change).url.isSendable = true := sendable
  have hduration : s.duration network d.url d.change = min arrival.after s.timeout := by
    simp only [duration, hread, hsendable, if_true, harrival]
  have hsend : (s.send network d.url d.change).isOk =
      (decide (arrival.after < s.timeout) && isSuccess arrival.response.status) := by
    simp only [send, hread, Http.exchange, hsendable, if_true, harrival]
    by_cases hearly : arrival.after < s.timeout
    · by_cases hsuccess : isSuccess arrival.response.status = true
      · simp [hearly, hsuccess, bind, Except.bind, Except.mapError]
        rfl
      · simp [hearly, hsuccess, bind, Except.bind, Except.mapError]
        rfl
    · simp [hearly, bind, Except.bind, Except.mapError]
      rfl
  rw [launch_receiver, hduration, hsend]
  by_cases htie : arrival.after = s.timeout
  · rw [if_pos htie, htie]
    simp
  · have horder : arrival.after < s.timeout ↔ arrival.after ≤ s.timeout :=
      ⟨Nat.le_of_lt, fun hle => Nat.lt_of_le_of_ne hle htie⟩
    rw [if_neg htie, Delivery.launch, if_neg (by simp), decide_eq_decide.mpr horder]

end Sender

end ChannelGateway
