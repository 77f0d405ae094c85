import ChannelGateway.Proofs.BenchShows

/-!
# Runs of the bench are runs of scenes

`Bench.run` is what the program executes: steps are taken up one after the other, each until it has
to wait, deliveries begin and end between the rounds, and when nothing can go on the clock jumps. A
`Scene` knows no rounds: anything may happen at any time. Here each thing that a bench does is an
act of a scene that shows it, so what holds after every run of acts holds of whatever a bench has
come to.

No act puts another hub in place, and channels are operated directly only by the steps that do so
(`Act.isOwn`, `Step.isServed`). Two things are left out. Steps that subscribe a URL or deliver a
state change by hand reach past the gateway. And a bench forgets the errands of a line that have no
answer, while the tasks of a scene stay; so the lines before the last must be answered
(`Bench.Answers`).

Results:
* `Bench.IsShown.poll`, `Bench.IsShown.round`, `Bench.IsShown.deliver`, `Bench.IsShown.jump`:
  errands, rounds, deliveries, jumps of the clock.
* `Bench.now_le_next`: the clock never goes back.
* **`Bench.IsShown.run`**: a run of steps is a run of acts.
* **`Bench.exists_acts`**: so are the lines that a bench plays from the beginning.
* **`Bench.exists_moves`**: they are a run of the traffic if nobody operates a channel directly.
-/

namespace ChannelGateway

/-! ## Acts -/

/-- Whether an act puts no other hub in place, and operates a channel directly only if it may. -/
def Act.isOwn (direct : Bool) : Act → Bool
  | move m => !m.isForeign
  | _ => direct

theorem Act.ne_meddle_of_isOwn {direct : Bool} {a : Act} (h : a.isOwn direct = true) (hub : Hub) :
    a ≠ .move (.meddle hub) := by
  rintro rfl
  cases h

/-- A scene becomes another by acts of its own. -/
def Scene.Reaches (direct : Bool) (s s' : Scene) : Prop :=
  ∃ acts, (∀ a ∈ acts, a.isOwn direct = true) ∧ s.run acts = s'

namespace Scene.Reaches

variable {direct : Bool} {s s' : Scene}

theorem refl (s : Scene) : s.Reaches direct s :=
  ⟨[], by simp, rfl⟩

theorem act (h : s.Reaches direct s') {a : Act} (own : a.isOwn direct = true) :
    s.Reaches direct (s'.step a) := by
  obtain ⟨acts, hacts, rfl⟩ := h
  refine ⟨acts ++ [a], ?_, List.foldl_append⟩
  intro b hb
  rcases List.mem_append.mp hb with hb | hb
  · exact hacts b hb
  · rw [List.mem_singleton.mp hb]
    exact own

/-- A scene on which no channel is operated directly is traffic. -/
theorem exists_moves (h : s.Reaches false s') :
    ∃ moves, (∀ m ∈ moves, m.isForeign = false) ∧ s.traffic.run moves = s'.traffic := by
  obtain ⟨acts, hacts, rfl⟩ := h
  induction acts generalizing s with
  | nil => exact ⟨[], by simp, rfl⟩
  | cons a acts ih =>
    obtain ⟨ha, hrest⟩ := List.forall_mem_cons.mp hacts
    obtain ⟨moves, hmoves, hrun⟩ := ih hrest (s := s.step a)
    cases a with
    | move m =>
      have hm : m.isForeign = false := by simpa [Act.isOwn] using ha
      exact ⟨m :: moves, List.forall_mem_cons.mpr ⟨hm, hmoves⟩, hrun⟩
    | _ => cases ha

end Scene.Reaches

namespace Bench

variable {b : Bench} {es earlier later : List Errand} {e : Errand} {start : Scene}
  {others : Nat → Bool} {direct : Bool}

/-- All that an intervention does to a bench: the gateway changes, and no channel is created or
forgotten. -/
theorem intervene_cases (b : Bench) (c : Channel) (what : Intervention) :
    (b.intervene c what).1 =
        b.learn (b.gateway.hub.intervene b.now c what).1
          (b.gateway.hub.intervene b.now c what).2.1 ∧
      (b.intervene c what).1.gateway.hub.ledger = b.gateway.hub.ledger ∧
      (b.intervene c what).2.ticket? = none := by
  have hledger := b.gateway.hub.ledger_intervene b.now c what
  unfold intervene
  generalize b.gateway.hub.intervene b.now c what = result at hledger ⊢
  obtain ⟨hub, events, a | w⟩ := result
  · exact ⟨rfl, (congrArg Hub.ledger (Gateway.hub_observeAll ..)).trans hledger, rfl⟩
  · exact ⟨rfl, (congrArg Hub.ledger (Gateway.hub_observeAll ..)).trans hledger, rfl⟩

/-- A bench with the errands that are under way on it is shown by a scene that is reached from
another. -/
def IsShown (direct : Bool) (b : Bench) (start : Scene) (es : List Errand) : Prop :=
  ∃ s, start.Reaches direct s ∧ b.Shows es s

/-- A task has not ended, or what it tells of is a channel of the hub. -/
def TellsOf (l : Ledger) (t : Task) : Prop :=
  t.outcomes? = none ∨ ∀ r, t.progress.tells? = some r → l.Lists r.serial

namespace IsShown

/-- A task goes on as far as it need not wait. -/
theorem advanceUpTo {shape : AnswerShape}
    (hothers : ∀ serial, others serial =
      (earlier.any (Errand.holds serial) || later.any (Errand.holds serial)))
    (fuel : Nat) {b : Bench} {t t' : Task} {g : Gateway}
    (h : b.IsShown direct start (earlier ++ .requesting t shape :: later))
    (told : TellsOf b.gateway.hub.ledger t)
    (hrun : Task.advanceUpTo b.now (b.keeps others) fuel b.gateway t = (g, t')) :
    ({ b with gateway := g } : Bench).IsShown direct start
      (earlier ++ .requesting t' shape :: later) ∧
      TellsOf g.hub.ledger t' := by
  induction fuel generalizing b t with
  | zero =>
    cases hrun
    exact ⟨h, told⟩
  | succ fuel ih =>
    unfold Task.advanceUpTo at hrun
    cases ha : t.advance b.now (b.keeps others) b.gateway with
    | none =>
      rw [ha] at hrun
      cases hrun
      exact ⟨h, told⟩
    | some result =>
      obtain ⟨g₁, t₁⟩ := result
      rw [ha] at hrun
      obtain ⟨s, hreach, hs⟩ := h
      obtain ⟨hnext, htells⟩ := hs.advance hothers ha
      exact ih (b := { b with gateway := g₁ })
        ⟨_, hreach.act (a := .move (.advance ..)) rfl, hnext⟩ (.inr htells) hrun

/-- An errand that makes no requests and waits for no channel becomes another such errand. The
bench may let go of what it has kept. -/
theorem goOn {e' : Errand} (h : b.IsShown direct start (earlier ++ e :: later))
    (he : e.ticket? = none) (idle : e.operation? = none) (he' : e'.ticket? = none)
    (idle' : e'.operation? = none) {kept : Table String Resource}
    (hkept : ∀ r ∈ kept.values, r ∈ b.kept.values) :
    ({ b with kept } : Bench).IsShown direct start (earlier ++ e' :: later) := by
  obtain ⟨s, hreach, hs⟩ := h
  exact ⟨s, hreach, hs.goOn he idle he' idle' hkept⟩

/-- An errand that makes no requests and waits for no channel is finished. -/
theorem finish (h : b.IsShown direct start (earlier ++ e :: later)) (he : e.ticket? = none)
    (idle : e.operation? = none) (a : Answer) (time : Nat) :
    b.IsShown direct start (earlier ++ .finished a time :: later) :=
  h.goOn he idle rfl rfl fun _ hr => hr

/-- An errand makes requests, or there are none to make. -/
theorem request (h : b.IsShown direct start (earlier ++ e :: later)) (he : e.ticket? = none)
    (idle : e.operation? = none) (jobs : List Job) (shape : AnswerShape) :
    (b.request jobs shape).1.IsShown direct start (earlier ++ (b.request jobs shape).2 :: later) ∧
      (b.request jobs shape).2.isProper direct = true := by
  unfold Bench.request
  cases ht : Task.ofJobs? b.ticket jobs with
  | none => exact ⟨h.finish he idle _ _, rfl⟩
  | some t =>
    obtain ⟨s, hreach, hs⟩ := h
    refine ⟨⟨_, hreach.act (a := .move (.arrive ..)) rfl, hs.arrive he idle ht shape⟩, ?_⟩
    cases jobs <;> cases ht
    rfl

/-- The gateway does something by itself, and an errand is finished with it. -/
theorem move (h : b.IsShown direct start (earlier ++ e :: later)) (he : e.ticket? = none)
    (idle : e.operation? = none) {m : Move} {f : Gateway → Gateway}
    (own : m.isForeign = false)
    (hm : ∀ t : Traffic, t.step m = { t with gateway := f t.gateway })
    (ledger : ∀ g : Gateway, (f g).hub.ledger = g.hub.ledger) (a : Answer) (time : Nat) :
    ({ b with gateway := f b.gateway } : Bench).IsShown direct start
      (earlier ++ .finished a time :: later) := by
  obtain ⟨s, hreach, hs⟩ := h
  have hown : (Act.move m).isOwn direct = true := by simp [Act.isOwn, own]
  have hbacked : (s.traffic.step m).IsBacked :=
    hs.backed.step fun hub he => Act.ne_meddle_of_isOwn hown hub (congrArg Act.move he)
  refine ⟨_, hreach.act hown, hs.replace he rfl ?_ ?_ hbacked ?_ rfl (ledger _)
    (fun _ hr => hr) (hs.update_none idle).symm⟩
  · rw [Scene.step, hm, hs.gateway]
  · rw [Scene.step, hm]
    exact hs.now
  · rw [Scene.step, hm]

/-- **Something is done to a channel.** -/
theorem intervene (h : b.IsShown direct start (earlier ++ e :: later)) (he : e.ticket? = none)
    (idle : e.operation? = none) {c : Channel} (hc : b.gateway.hub.channel? c.serial = some c)
    (what : Intervention) (may : ∀ io, what = .operate io → direct = true) :
    (b.intervene c what).1.IsShown direct start (earlier ++ (b.intervene c what).2 :: later) ∧
      (b.intervene c what).2.isProper direct = true := by
  obtain ⟨s, hreach, hs⟩ := h
  obtain ⟨hb, hledger, hticket⟩ := b.intervene_cases c what
  have hstep : s.traffic.step (.intervene c.serial what) =
      { s.traffic with gateway := (b.intervene c what).1.gateway } := by
    rw [hb, Traffic.step, Traffic.intervene, hs.gateway, hc]
    dsimp only
    rw [hs.now]
    rfl
  have hbacked : (s.traffic.step (.intervene c.serial what)).IsBacked :=
    hs.backed.step fun hub hm => by cases hm
  have hnow : (s.traffic.step (.intervene c.serial what)).now = (b.intervene c what).1.now := by
    rw [hstep, hb]
    exact hs.now
  have htasks : (s.traffic.step (.intervene c.serial what)).tasks = s.traffic.tasks := by
    rw [hstep]
  have hticket' : (b.intervene c what).1.ticket = b.ticket := by rw [hb]; rfl
  have hkept : ∀ r ∈ (b.intervene c what).1.kept.values, r ∈ b.kept.values := by
    rw [hb]
    exact fun r hr => hr
  by_cases hio : ∃ io, what = .operate io
  · obtain ⟨io, rfl⟩ := hio
    obtain rfl := may io rfl
    have hawait : s.traffic.await? c.serial io = (b.intervene c (.operate io)).2.operation? := by
      rw [Traffic.await?, hs.gateway, hc, Bench.intervene]
      dsimp only [Hub.intervene, Hub.operate]
      rw [hs.now]
      rcases b.gateway.hub.start b.now c io with ⟨hub, events, result | w⟩ <;> rfl
    refine ⟨⟨_, hreach.act (a := .operate earlier.length c.serial io) rfl, ?_⟩, ?_⟩
    · refine hs.replace he hticket (congrArg Traffic.gateway hstep) hnow hbacked htasks hticket'
        hledger hkept ?_
      rw [Scene.step, hawait]
    · rw [Bench.intervene]
      rcases b.gateway.hub.intervene b.now c (.operate io) with ⟨hub, events, a | w⟩ <;> rfl
  · have hdirect : ∀ io, what ≠ .operate io := fun io hw => hio ⟨io, hw⟩
    have hown : (Act.move (.intervene c.serial what)).isOwn direct = true := by
      cases what with
      | operate io => exact absurd rfl (hdirect io)
      | _ => rfl
    obtain ⟨hub, events, a, hi⟩ := b.gateway.hub.intervene_answered b.now c hdirect
    have hdone : (b.intervene c what).2 = .finished a b.now := by
      rw [Bench.intervene, hi]
      rfl
    rw [hdone] at hticket ⊢
    refine ⟨⟨_, hreach.act hown, ?_⟩, rfl⟩
    exact hs.replace he hticket (congrArg Traffic.gateway hstep) hnow hbacked htasks hticket'
      hledger hkept (hs.update_none idle).symm

/-- The resource that is kept under a key has a channel. -/
theorem channel?_kept (h : b.IsShown direct start es) {key : String} {r : Resource}
    (hr : b.kept.get? key = some r) :
    b.gateway.hub.channel? (b.gateway.channelOf r).serial = some (b.gateway.channelOf r) := by
  obtain ⟨s, -, hs⟩ := h
  obtain ⟨c, hc⟩ := Hub.lists_iff.mp (hs.kept r (List.mem_map_of_mem (Table.mem_of_get? hr)))
  rw [Gateway.serial_channelOf, Gateway.channelOf, hc]
  rfl

/-- A channel that a locator finds is the one with its serial number. -/
theorem channel?_located (h : b.IsShown direct start es) {locator : Option Locator} {c : Channel}
    (hc : b.locate? others locator = some c) : b.gateway.hub.channel? c.serial = some c := by
  obtain ⟨s, -, hs⟩ := h
  have hmem : c ∈ b.gateway.hub.tracked := by
    obtain ⟨l, -, hl⟩ := Option.bind_eq_some_iff.mp hc
    cases l with
    | identity id => exact (List.mem_filter.mp (List.mem_of_find?_eq_some hl)).1
    | place a =>
      exact (List.mem_filter.mp (List.mem_reverse.mp (List.mem_of_find?_eq_some hl))).1
  have hdistinct := hs.gateway ▸ hs.backed.distinct
  exact Hub.channel?_of_mem hdistinct hmem

/-- An HTTP request is answered at once, or makes a request on a name. -/
theorem perform_http {step : Step} (h : b.IsShown direct start (earlier ++ .fresh step :: later))
    (others : Nat → Bool) (r : Http.Request) :
    (b.perform others (.http r)).1.IsShown direct start
      (earlier ++ (b.perform others (.http r)).2 :: later) ∧
      (b.perform others (.http r)).2.isProper direct = true := by
  simp only [Bench.perform]
  cases hr : Http.handle b.gateway r with
  | answered response g =>
    dsimp only
    rcases Http.gateway_answered hr with rfl | rfl
    · exact ⟨h.finish rfl rfl _ b.now, rfl⟩
    · exact ⟨h.move (m := .snapshot) (f := fun g => g.snapshot.2) rfl rfl rfl (fun t => rfl)
        Gateway.ledger_snapshot _ b.now, rfl⟩
  | accepted job => exact h.request rfl rfl [job] .response

/-- A resource that is kept is read, or its channel operated. -/
theorem perform_kept {step : Step} (h : b.IsShown direct start (earlier ++ .fresh step :: later))
    (others : Nat → Bool) (key : String) (use : KeptUse) (may : direct = true) :
    (b.perform others (.kept key use)).1.IsShown direct start
      (earlier ++ (b.perform others (.kept key use)).2 :: later) ∧
      (b.perform others (.kept key use)).2.isProper direct = true := by
  simp only [Bench.perform]
  cases hkept : b.kept.get? key with
  | none => exact ⟨h.finish rfl rfl _ b.now, rfl⟩
  | some r =>
    have hchannel := h.channel?_kept hkept
    cases use with
    | status =>
      obtain ⟨hread, -⟩ := h.intervene rfl rfl hchannel (.operate .read) fun _ _ => may
      exact ⟨hread.finish rfl rfl _ _, rfl⟩
    | operate io => exact h.intervene rfl rfl hchannel (.operate io) fun _ _ => may

/-- **A step begins.** -/
theorem perform {step : Step} (h : b.IsShown direct start (earlier ++ .fresh step :: later))
    (hserved : step.isServed direct = true) (others : Nat → Bool) :
    (b.perform others step).1.IsShown direct start (earlier ++ (b.perform others step).2 :: later) ∧
      (b.perform others step).2.isProper direct = true := by
  have hfinish : ∀ a, (b.finish a).1.IsShown direct start (earlier ++ (b.finish a).2 :: later) ∧
      (b.finish a).2.isProper direct = true := fun a => ⟨h.finish rfl rfl a b.now, rfl⟩
  have hmove : ∀ {m : Move} {f : Gateway → Gateway} (a : Answer), m.isForeign = false →
      (∀ t : Traffic, t.step m = { t with gateway := f t.gateway }) →
      (∀ g : Gateway, (f g).hub.ledger = g.hub.ledger) →
      let next : Bench := { b with gateway := f b.gateway }
      (next.finish a).1.IsShown direct start (earlier ++ (next.finish a).2 :: later) ∧
        (next.finish a).2.isProper direct = true := fun a own hm ledger =>
    ⟨h.move rfl rfl own hm ledger a b.now, rfl⟩
  cases step with
  | http r => exact h.perform_http others r
  | call c =>
    simp only [Bench.perform]
    cases hjob : c.job b.gateway.openTimeout with
    | ok job => exact h.request rfl rfl [job] .plain
    | error e => exact hfinish _
  | openName request keep => exact h.request rfl rfl _ _
  | kept key use => exact h.perform_kept others key use hserved
  | release key =>
    refine ⟨h.goOn rfl rfl rfl rfl ?_, rfl⟩
    intro r hr
    obtain ⟨entry, hentry, rfl⟩ := List.mem_map.mp hr
    exact List.mem_map_of_mem (List.mem_filter.mp hentry).1
  | startup => exact h.request rfl rfl _ _
  | shutdown =>
    exact hmove (m := .shutdown) (f := Gateway.shutdown) _ rfl (fun t => rfl)
      Gateway.ledger_shutdown
  | snapshot =>
    exact hmove (m := .snapshot) (f := fun g => g.snapshot.2) _ rfl (fun t => rfl)
      Gateway.ledger_snapshot
  | drain =>
    exact hmove (m := .drain) (f := fun g => { g with registry := g.registry.drain.2 }) _ rfl
      (fun t => rfl) fun g => rfl
  | removeChannel id =>
    exact hmove (m := .tell (.detached id))
      (f := fun g => { g with registry := (g.registry.removeChannel id).2 }) _ rfl (fun t => rfl)
      fun g => rfl
  | tell event =>
    exact hmove (m := .tell event) (f := fun g => g.observe event) _ rfl (fun t => rfl)
      fun g => congrArg Hub.ledger (g.hub_observe event)
  | rest ms => exact ⟨h.goOn rfl rfl rfl rfl fun _ hr => hr, rfl⟩
  | intervene locator what =>
    simp only [Bench.perform]
    cases hc : b.locate? others locator with
    | none => exact hfinish _
    | some c =>
      refine h.intervene rfl rfl (h.channel?_located hc) what ?_
      rintro io rfl
      exact hserved
  | subscribe name url => cases hserved
  | fanOut name state => cases hserved
  | fanOutWait name state => cases hserved
  | _ => exact hfinish _

/-- The answer of requests that are done, and what is kept of them. -/
theorem conclude {t : Task} {shape : AnswerShape} {outcomes : List Outcome}
    (h : b.IsShown direct start (earlier ++ .requesting t shape :: later))
    (hdone : t.outcomes? = some outcomes) (told : TellsOf b.gateway.hub.ledger t) :
    (b.conclude outcomes shape).1.IsShown direct start
        (earlier ++ (b.conclude outcomes shape).2 :: later) ∧
      (b.conclude outcomes shape).2.isProper direct = true := by
  obtain ⟨s, hreach, hs⟩ := h
  have hfree : t.progress.resource? = none := Task.free_of_outcomes? hdone
  have hplain : ∀ a, b.Shows (earlier ++ .finished a b.now :: later) s := fun a =>
    hs.conclude hfree hs.kept a b.now
  cases shape with
  | opening keep =>
    refine ⟨⟨s, hreach, ?_⟩, rfl⟩
    unfold Bench.conclude
    dsimp only
    split
    · rename_i key r _ hlast
      refine hs.conclude hfree ?_ _ _
      intro r' hr'
      rcases Table.mem_values_insert hr' with rfl | hr'
      · rcases told with hnone | htold
        · rw [hdone] at hnone
          cases hnone
        · exact htold r' (Task.tells_of_outcomes? hdone hlast)
      · exact hs.kept r' hr'
    · exact hplain _
  | _ => exact ⟨⟨s, hreach, hplain _⟩, rfl⟩

/-- **An errand that has begun is taken up.** -/
theorem resume (h : b.IsShown direct start (earlier ++ e :: later)) (he : e.isProper direct = true)
    (hothers : ∀ serial, others serial =
      (earlier.any (Errand.holds serial) || later.any (Errand.holds serial))) :
    (b.resume others e).1.IsShown direct start (earlier ++ (b.resume others e).2 :: later) ∧
      (b.resume others e).2.isProper direct = true := by
  cases e with
  | requesting t shape =>
    simp only [Bench.resume]
    rcases hrun : t.run b.now (b.keeps others) b.gateway with ⟨g, t'⟩
    obtain ⟨hshown, htold⟩ :=
      h.advanceUpTo hothers _ (.inl (Option.isNone_iff_eq_none.mp he)) hrun
    dsimp only
    cases ho : t'.outcomes? with
    | none => exact ⟨hshown, by simp [Errand.isProper, ho]⟩
    | some outcomes => exact hshown.conclude ho htold
  | operating c w =>
    simp only [Bench.resume]
    by_cases hdue : w.due ≤ b.now
    · rw [if_pos hdue]
      obtain ⟨s, hreach, hs⟩ := h
      have hoperation : s.operation? earlier.length = some (c.serial, w) := by
        rw [hs.operations]
        simp [Errand.operations, Errand.operation?]
      have hstep : s.step (.conclude earlier.length) =
          { traffic := s.traffic.conclude c.serial w
            operation? := Function.update s.operation? earlier.length none } := by
        rw [Scene.step, hoperation]
        dsimp only
        rw [if_pos (hs.now ▸ hdue)]
      obtain ⟨hgateway, hnow, htasks⟩ := s.traffic.conclude_eq c w
      refine ⟨⟨_, hreach.act (a := .conclude earlier.length) he, ?_⟩, rfl⟩
      rw [hstep]
      refine hs.replace rfl rfl ?_ (hnow.trans hs.now) (hs.backed.conclude c.serial w) htasks rfl ?_
        (fun _ hr => hr) rfl
      · rw [hgateway, hs.gateway]
        rfl
      · exact (congrArg Hub.ledger (Gateway.hub_observeAll ..)).trans (Hub.ledger_conclude ..)
    · rw [if_neg hdue]
      exact ⟨h, he⟩
  | resting due =>
    simp only [Bench.resume]
    split
    · exact ⟨h.finish rfl rfl _ _, rfl⟩
    · exact ⟨h, rfl⟩
  | awaiting first count =>
    simp only [Bench.resume]
    split
    · exact ⟨h, rfl⟩
    · exact ⟨h.finish rfl rfl _ _, rfl⟩
  | fresh step => exact ⟨h, he⟩
  | finished a time => exact ⟨h, rfl⟩

/-- **An errand is taken up**, until it has to wait. -/
theorem poll (h : b.IsShown direct start (earlier ++ e :: later)) (he : e.isProper direct = true)
    (hothers : ∀ serial, others serial =
      (earlier.any (Errand.holds serial) || later.any (Errand.holds serial))) :
    (b.poll others e).1.IsShown direct start (earlier ++ (b.poll others e).2 :: later) ∧
      (b.poll others e).2.isProper direct = true := by
  cases e with
  | fresh step =>
    obtain ⟨hbegun, hproper⟩ := h.perform he others
    exact hbegun.resume hproper hothers
  | _ => exact h.resume he hothers

/-- **A round**: every errand is taken up once. -/
theorem round (before : List Errand) {b : Bench} (h : b.IsShown direct start (before.reverse ++ es))
    (hbefore : ∀ e ∈ before, e.isProper direct = true) (hes : ∀ e ∈ es, e.isProper direct = true) :
    (b.round before es).1.IsShown direct start (b.round before es).2 ∧
      ∀ e ∈ (b.round before es).2, e.isProper direct = true := by
  induction es generalizing b before with
  | nil =>
    rw [List.append_nil] at h
    exact ⟨h, fun e he => hbefore e (List.mem_reverse.mp he)⟩
  | cons e after ih =>
    obtain ⟨he, hafter⟩ := List.forall_mem_cons.mp hes
    unfold Bench.round
    have hothers : ∀ serial, (before.any (Errand.holds serial) || after.any (Errand.holds serial)) =
        (before.reverse.any (Errand.holds serial) || after.any (Errand.holds serial)) := by
      intro serial
      rw [List.any_reverse]
    obtain ⟨hpoll, hproper⟩ := h.poll he hothers
    refine ih _ ?_ (List.forall_mem_cons.mpr ⟨hproper, hbefore⟩) hafter
    rw [List.reverse_cons, List.append_assoc]
    exact hpoll

/-- **Deliveries begin and end** between the rounds. -/
theorem deliver (h : b.IsShown direct start es) : b.deliver.1.IsShown direct start es := by
  obtain ⟨s, hreach, hs⟩ := h
  have hbegun := hreach.act (a := .move (.deliver b.receivers)) rfl
  refine ⟨_, hbegun.act (a := .move .settle) rfl, ?_⟩
  refine hs.change ?_ hs.now ?_ rfl rfl rfl (fun _ hr => hr) rfl (fun _ _ => Iff.rfl) hs.operations
  · simp only [Scene.step, Traffic.step, Traffic.withDispatcher, hs.gateway, hs.now]
    rfl
  · exact (hs.backed.step (m := .deliver b.receivers) fun hub hm => by cases hm).step
      (m := .settle) fun hub hm => by cases hm

/-- **The clock jumps.** -/
theorem jump (h : b.IsShown direct start es) {now : Nat} (hnow : b.now ≤ now) :
    ({ b with now } : Bench).IsShown direct start es := by
  obtain ⟨s, hreach, hs⟩ := h
  refine ⟨_, hreach.act (a := .move (.wait (now - b.now))) rfl, ?_⟩
  refine hs.change hs.gateway ?_ (hs.backed.step fun hub hm => by cases hm) rfl rfl rfl
    (fun _ hr => hr) rfl (fun _ _ => Iff.rfl) hs.operations
  change s.traffic.now + (now - b.now) = now
  rw [hs.now]
  omega

end IsShown

/-! ## Rounds -/

/-- No delivery is under way whose time has come. -/
def IsSettled (b : Bench) : Prop :=
  ∀ f ∈ b.gateway.dispatcher.inFlight, b.now < f.due

theorem isSettled_deliver (b : Bench) : b.deliver.1.IsSettled := by
  intro f hf
  exact of_decide_eq_true (List.mem_filter.mp hf).2

/-- What an errand waits for that cannot go on is still to come. -/
theorem now_lt_due {due : Nat} (waits : b.canResume e = false) (hdue : e.due? = some due) :
    b.now < due := by
  cases e with
  | requesting t shape =>
    obtain ⟨ticket, p, rest, outcomes⟩ := t
    cases p with
    | opening r followup w =>
      cases hdue
      simpa [canResume, Task.canAdvance, Progress.due?] using waits
    | writing r w =>
      cases hdue
      simpa [canResume, Task.canAdvance, Progress.due?] using waits
    | _ => cases hdue
  | operating c w =>
    cases hdue
    simpa [canResume] using waits
  | resting due =>
    cases hdue
    simpa [canResume] using waits
  | _ => cases hdue

/-- **The clock never goes back**: when nothing can go on, the next moment is still to come. -/
theorem now_le_next (settled : b.IsSettled) (waits : es.any b.canResume = false) :
    b.now ≤ (b.nextDue? es).getD b.now := by
  cases hnext : b.nextDue? es with
  | none => exact Nat.le_refl _
  | some due =>
    rcases List.mem_append.mp (List.min?_mem hnext) with hmem | hmem
    · obtain ⟨e, he, hdue⟩ := List.mem_filterMap.mp hmem
      exact Nat.le_of_lt (now_lt_due (by simpa using List.any_eq_false.mp waits e he) hdue)
    · obtain ⟨f, hf, rfl⟩ := List.mem_map.mp (List.min?_mem (Option.mem_toList.mp hmem))
      exact Nat.le_of_lt (settled f hf)

/-- **Rounds one after the other**, with deliveries between them and jumps of the clock. -/
theorem IsShown.rounds (fuel : Nat) {b : Bench} {es : List Errand} (h : b.IsShown direct start es)
    (settled : b.IsSettled) (hes : ∀ e ∈ es, e.isProper direct = true) :
    (rounds fuel b es).1.IsShown direct start (rounds fuel b es).2.1 := by
  induction fuel generalizing b es with
  | zero => exact h
  | succ fuel ih =>
    unfold Bench.rounds
    split
    · exact h
    · extract_lets now
      have hnow : b.now ≤ now := by
        by_cases hcan : es.any b.canResume = true
        · exact Nat.le_of_eq (if_pos hcan).symm
        · have hnext : now = (b.nextDue? es).getD b.now := if_neg hcan
          rw [hnext]
          exact now_le_next settled (by simpa using hcan)
      obtain ⟨hround, hproper⟩ := (h.jump hnow).round [] (fun _ he => by cases he) hes
      exact ih hround.deliver (isSettled_deliver _) hproper

/-- Steps begin on a bench on which every errand is finished. -/
theorem IsShown.next (h : b.IsShown direct start es)
    (answered : ∀ e ∈ es, e.answer?.isSome = true) (steps : List Step) :
    b.IsShown direct start (steps.map .fresh) := by
  have hidle : ∀ e ∈ es, e.ticket? = none ∧ e.operation? = none := by
    intro e he
    have ha := answered e he
    cases e with
    | finished a time => exact ⟨rfl, rfl⟩
    | _ => cases ha
  have hnone : ∀ place, Errand.operations es place = none := by
    intro place
    rw [Errand.operations, Option.bind_eq_none_iff]
    exact fun e he => (hidle e (List.mem_of_getElem? he)).2
  have hfresh : ∀ place, Errand.operations (steps.map .fresh) place = none := by
    intro place
    rw [Errand.operations, Option.bind_eq_none_iff]
    intro e he
    obtain ⟨step, -, rfl⟩ := List.mem_map.mp (List.mem_of_getElem? he)
    rfl
  obtain ⟨s, hreach, hs⟩ := h
  refine ⟨s, hreach, hs.change hs.gateway hs.now hs.backed rfl rfl rfl (fun _ hr => hr) ?_ ?_ ?_⟩
  · rw [List.filterMap_eq_nil_iff.mpr fun e he => (hidle e he).1, List.filterMap_eq_nil_iff]
    intro e he
    obtain ⟨step, -, rfl⟩ := List.mem_map.mp he
    rfl
  · intro t shape
    refine iff_of_false (fun ht => ?_) fun ht => ?_
    · obtain ⟨step, -, he⟩ := List.mem_map.mp ht
      cases he
    · cases (hidle _ ht).1
  · rw [hs.operations]
    funext place
    rw [hnone, hfresh]

/-- **A run of steps is a run of acts.** -/
theorem IsShown.run (h : b.IsShown direct start es) (answered : ∀ e ∈ es, e.answer?.isSome = true)
    {steps : List Step} (served : ∀ step ∈ steps, step.isServed direct = true) :
    (b.run steps).1.IsShown direct start (b.run steps).2.1 := by
  have hproper : ∀ e ∈ steps.map Errand.fresh, e.isProper direct = true := by
    intro e he
    obtain ⟨step, hstep, rfl⟩ := List.mem_map.mp he
    exact served step hstep
  obtain ⟨hround, hleft⟩ :=
    (h.next answered steps).round [] (fun _ he => by cases he) hproper
  exact hround.deliver.rounds _ (isSettled_deliver _) hleft

/-! ## Lines -/

theorem length_round (b : Bench) (before es : List Errand) :
    (b.round before es).2.length = before.length + es.length := by
  induction es generalizing b before with
  | nil => exact List.length_reverse
  | cons e after ih =>
    unfold round
    rw [ih, List.length_cons, List.length_cons]
    omega

theorem length_rounds (fuel : Nat) (b : Bench) (es : List Errand) :
    (rounds fuel b es).2.1.length = es.length := by
  induction fuel generalizing b es with
  | zero => rfl
  | succ fuel ih =>
    unfold rounds
    split
    · rfl
    · exact (ih _ _).trans ((length_round ..).trans (Nat.zero_add _))

/-- Every step has an errand. -/
theorem length_run (b : Bench) (steps : List Step) : (b.run steps).2.1.length = steps.length := by
  have hround := b.length_round [] (steps.map .fresh)
  rw [List.length_map, List.length_nil, Nat.zero_add] at hround
  exact (length_rounds ..).trans hround

/-- The bench after lines have been taken. -/
def after (b : Bench) (lines : List Line) : Bench :=
  lines.foldl (fun b line => (b.take line).1) b

/-- Every step of every line has an answer. -/
def Answers (b : Bench) (lines : List Line) : Prop :=
  (b.play lines).map (fun outturn => outturn.answers.length) =
    lines.map fun line => line.steps.length

instance (b : Bench) (lines : List Line) : Decidable (b.Answers lines) :=
  inferInstanceAs (Decidable (_ = _))

/-- When every step has an answer, no errand is left. -/
theorem answered_of_length {steps : List Step}
    (h : ((b.run steps).2.1.filterMap Errand.answer?).length = steps.length) :
    ∀ e ∈ (b.run steps).2.1, e.answer?.isSome = true :=
  List.filterMap_length_eq_length.mp (h.trans (b.length_run steps).symm)

/-- **Lines that are answered are a run of acts.** -/
theorem IsShown.after {b : Bench} (h : b.IsShown direct start []) {lines : List Line}
    (served : ∀ line ∈ lines, ∀ step ∈ line.steps, step.isServed direct = true)
    (answered : b.Answers lines) : (b.after lines).IsShown direct start [] := by
  induction lines generalizing b with
  | nil => exact h
  | cons line rest ih =>
    obtain ⟨hline, hrest⟩ := List.forall_mem_cons.mp served
    obtain ⟨hfirst, hlater⟩ := List.cons.inj answered
    have hrun := h.run (fun _ he => by cases he) hline
    exact ih (hrun.next (answered_of_length hfirst) []) hrest hlater

/-- A bench is shown by the scene of its gateway, at the beginning. -/
theorem isShown_ofGateway (direct : Bool) (config : GatewayConfig) (hub : HubConfig) (seed : UInt64)
    (receivers : String → Receiver) :
    (ofGateway (.ofConfig config (.ofConfig hub seed)) receivers).IsShown direct
      (.ofGateway (.ofConfig config (.ofConfig hub seed))) [] := by
  have hbacked : ((Traffic.ofGateway (.ofConfig config (.ofConfig hub seed))).run []).IsBacked :=
    Traffic.IsBacked.run config hub seed fun _ hm => by cases hm
  refine ⟨_, .refl _, rfl, rfl, hbacked, ?_, ?_, ?_, List.nodup_nil, rfl, ?_⟩
  · exact fun _ hu => by cases hu
  · exact fun _ _ ht => by cases ht
  · exact fun _ hu => by cases hu
  · exact fun _ hr => by cases hr

/-- **What a bench plays is a run of a scene.** Lines are played from the beginning, all of them
served and all but the last answered. There are acts with which the scene of the gateway comes to
the gateway and to the time of the bench. -/
theorem exists_acts (config : GatewayConfig) (hub : HubConfig) (seed : UInt64)
    (receivers : String → Receiver) {lines : List Line} {line : Line}
    (served : ∀ l ∈ line :: lines, ∀ step ∈ l.steps, step.isServed true = true)
    (answered :
      (ofGateway (.ofConfig config (.ofConfig hub seed)) receivers).Answers lines) :
    let g := Gateway.ofConfig config (.ofConfig hub seed)
    let b := (((ofGateway g receivers).after lines).take line).1
    ∃ acts, (∀ a ∈ acts, a.isOwn true = true) ∧
      ((Scene.ofGateway g).run acts).traffic.gateway = b.gateway ∧
      ((Scene.ofGateway g).run acts).traffic.now = b.now := by
  intro g b
  obtain ⟨hline, hlines⟩ := List.forall_mem_cons.mp served
  have hafter := (isShown_ofGateway true config hub seed receivers).after hlines answered
  obtain ⟨_, ⟨acts, hacts, rfl⟩, hs⟩ := hafter.run (fun _ he => by cases he) hline
  exact ⟨acts, hacts, hs.gateway, hs.now⟩

/-- **If nobody operates a channel directly, it is a run of the traffic.** The program is such a
bench: it opens its startup channels and then serves one request a line. -/
theorem exists_moves (config : GatewayConfig) (hub : HubConfig) (seed : UInt64)
    (receivers : String → Receiver) {lines : List Line} {line : Line}
    (served : ∀ l ∈ line :: lines, ∀ step ∈ l.steps, step.isServed false = true)
    (answered :
      (ofGateway (.ofConfig config (.ofConfig hub seed)) receivers).Answers lines) :
    let g := Gateway.ofConfig config (.ofConfig hub seed)
    let b := (((ofGateway g receivers).after lines).take line).1
    ∃ moves, (∀ m ∈ moves, m.isForeign = false) ∧
      ((Traffic.ofGateway g).run moves).gateway = b.gateway ∧
      ((Traffic.ofGateway g).run moves).now = b.now := by
  intro g b
  obtain ⟨hline, hlines⟩ := List.forall_mem_cons.mp served
  have hafter := (isShown_ofGateway false config hub seed receivers).after hlines answered
  obtain ⟨s, hreach, hs⟩ := hafter.run (fun _ he => by cases he) hline
  obtain ⟨moves, hmoves, hrun⟩ := hreach.exists_moves
  have htraffic : (Traffic.ofGateway g).run moves = s.traffic := hrun
  exact ⟨moves, hmoves, htraffic ▸ hs.gateway, htraffic ▸ hs.now⟩

/-- On hardware that takes its time, two calls for one name wait for its channel together; then
somebody reads the channel. -/
example : (ofGateway (.ofConfig {} (.ofConfig { mode := .realistic } 0)) fun _ => {}).Answers
    [.together [.call (.digitalIn "door" ⟨0, 0⟩ none), .call (.digitalIn "door" ⟨0, 0⟩ none)],
      .single (.intervene (some (.identity 1)) (.operate .read))] := by
  decide +kernel

end Bench

end ChannelGateway
