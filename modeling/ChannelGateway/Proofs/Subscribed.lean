import ChannelGateway.Proofs.Served

/-!
# Who is subscribed, over whole runs

A `Chronicle` is traffic in which tasks arrive only because they are asked for, together with what
each task has been asked for and has not ended, and with everything that has ended, in order. It
says nothing about subscriptions: those are kept by the gateway (`WebhookRegistry`). Shown is that
they are what has ended well, read off the chronicle.

Results:
* `Chronicle.Faithful.step`: every deed keeps the chronicle faithful.
* **`subscriptions_exact`**: after every run the list of each name is what has ended well for it.
-/

namespace ChannelGateway

/-! ## Chronicles -/

/-- What happens at a gateway that is asked for things. -/
inductive Deed where
  /-- A call is made, by a task of its own. -/
  | call (ticket : Nat) (c : Call)
  /-- The startup channels are to be opened, one after the other by one task. -/
  | startup (ticket : Nat)
  /-- Anything else happens; tasks arrive by the two other deeds only. -/
  | other (m : Move)

/-- Traffic, and what its tasks are asked for. -/
structure Chronicle where
  traffic : Traffic
  /-- What each task has not ended, in order. -/
  asked : Nat → List Ask
  /-- What has ended, in order. -/
  ended : List Ending

namespace Chronicle

/-- A gateway at the beginning of time, which has not been asked for anything. -/
def ofGateway (gateway : Gateway) : Chronicle := ⟨.ofGateway gateway, fun _ => [], []⟩

/-- The subscriptions of a gateway. -/
def subscriptions (c : Chronicle) : Subscriptions := c.traffic.gateway.subscriptions

/-- A task is asked for some things, unless its ticket is taken. -/
def ask (c : Chronicle) (ticket : Nat) (asks : List Ask) (jobs : List Job) : Chronicle :=
  match c.traffic.task? ticket with
  | some _ => c
  | none =>
    { c with
      traffic := c.traffic.step (.arrive ticket jobs)
      asked := Function.update c.asked ticket asks }

/-- A task goes on. If its request ends, what it was asked for first has ended. -/
def advance (c : Chronicle) (ticket : Nat) (outside : Nat → Bool) : Chronicle :=
  let traffic := c.traffic.step (.advance ticket outside)
  match c.traffic.ending? ticket outside, c.asked ticket with
  | some outcome, ask :: rest =>
    { traffic
      asked := Function.update c.asked ticket rest
      ended := c.ended ++ [(ask, outcome)] }
  | _, _ => { c with traffic }

/-- What a deed does. A call that is refused before it makes a request has ended. -/
def step (c : Chronicle) : Deed → Chronicle
  | .call ticket call =>
    match call.job c.traffic.gateway.openTimeout with
    | .ok job => c.ask ticket [.call call] [job]
    | .error e => { c with ended := c.ended ++ [(.call call, .error e)] }
  | .startup ticket =>
    c.ask ticket (c.traffic.gateway.startup.map .startup) c.traffic.gateway.startupJobs
  | .other (.arrive _ _) => c
  | .other (.advance ticket outside) => c.advance ticket outside
  | .other (.cancel ticket) =>
    { c with
      traffic := c.traffic.step (.cancel ticket)
      asked := Function.update c.asked ticket [] }
  | .other m => { c with traffic := c.traffic.step m }

/-- Deeds one after the other. -/
def run (c : Chronicle) (deeds : List Deed) : Chronicle :=
  deeds.foldl step c

/-- The tasks are at what the chronicle says they are asked for, and what has ended well is
subscribed. -/
structure Faithful (c : Chronicle) : Prop where
  orderly : c.traffic.IsOrderly
  follows : ∀ {ticket u}, c.traffic.task? ticket = some u → u.Follows (c.asked ticket)
  subscribed : c.subscriptions = c.ended.foldl Subscriptions.record .empty

/-- What has ended and who is subscribed after a deed. -/
def Adds (c c' : Chronicle) (new : List Ending) : Prop :=
  c'.ended = c.ended ++ new ∧ c'.subscriptions = new.foldl Subscriptions.record c.subscriptions

/-- The chronicle after one task has moved, if it follows what it is then asked for and what has
ended with it is recorded. -/
theorem Faithful.moved {c : Chronicle} (h : c.Faithful) (new : List Ending) {t : Traffic}
    (horderly : t.IsOrderly) {ticket : Nat} {u : Option Task}
    (htasks : t.task? = Function.update c.traffic.task? ticket u) {asks : List Ask}
    (hu : ∀ v, u = some v → v.Follows asks)
    (hnew : t.gateway.subscriptions = new.foldl Subscriptions.record c.subscriptions) :
    Faithful ⟨t, Function.update c.asked ticket asks, c.ended ++ new⟩ where
  orderly := horderly
  follows {k v} hv := by
    dsimp only at hv ⊢
    rw [htasks] at hv
    by_cases hk : k = ticket
    · subst hk
      rw [Function.update_self] at hv ⊢
      exact hu v hv
    · rw [Function.update_of_ne hk] at hv ⊢
      exact h.follows hv
  subscribed := by
    rw [List.foldl_append, ← h.subscribed]
    exact hnew

/-- A chronicle in which nothing has happened to the tasks and the subscriptions. -/
theorem Faithful.stayed {c : Chronicle} (h : c.Faithful) {t : Traffic} (horderly : t.IsOrderly)
    (htasks : t.task? = c.traffic.task?)
    (hsubscriptions : t.gateway.subscriptions = c.subscriptions) :
    Faithful { c with traffic := t } where
  orderly := horderly
  follows {k v} hv := by
    dsimp only at hv
    rw [htasks] at hv
    exact h.follows hv
  subscribed := hsubscriptions.trans h.subscribed

theorem Adds.nil {c c' : Chronicle} (hended : c'.ended = c.ended)
    (hsubscriptions : c'.subscriptions = c.subscriptions) : c.Adds c' [] :=
  ⟨hended.trans (List.append_nil _).symm, hsubscriptions⟩

/-- **Being asked keeps a chronicle faithful**, and subscribes nothing. -/
theorem Faithful.ask {c : Chronicle} (h : c.Faithful) {ticket : Nat} {asks : List Ask}
    {jobs : List Job} (hserve : List.Forall₂ Job.Serves jobs asks) :
    (c.ask ticket asks jobs).Faithful ∧ c.Adds (c.ask ticket asks jobs) [] := by
  unfold Chronicle.ask
  cases hfree : c.traffic.task? ticket with
  | some u => exact ⟨h, .nil rfl rfl⟩
  | none =>
    have horderly : (c.traffic.arrive ticket jobs).IsOrderly := h.orderly.step (.arrive ticket jobs)
    have hsubscriptions : (c.traffic.arrive ticket jobs).gateway.subscriptions =
        c.subscriptions := by
      rcases c.traffic.arrive_cases ticket jobs with he | ⟨job, -, hg, -⟩
      · rw [he]
        rfl
      · rw [hg]
        rfl
    have hmoved : ∀ {u}, (c.traffic.arrive ticket jobs).task? =
        Function.update c.traffic.task? ticket u → (∀ v, u = some v → v.Follows asks) →
          Faithful ⟨c.traffic.arrive ticket jobs, Function.update c.asked ticket asks,
            c.ended⟩ := by
      intro u htasks hu
      have hmoved := h.moved [] horderly htasks hu hsubscriptions
      rwa [List.append_nil] at hmoved
    refine ⟨?_, .nil rfl hsubscriptions⟩
    cases hserve with
    | nil =>
      have hstay : c.traffic.arrive ticket [] = c.traffic := by rw [Traffic.arrive, hfree]; rfl
      refine hmoved (u := none) ?_ fun v hv => by cases hv
      rw [hstay, ← hfree, Function.update_eq_self]
    | cons hfirst hrest =>
      refine hmoved (Traffic.task?_arrive hfree rfl) ?_
      intro v hv
      cases hv
      exact .busy hfirst hrest

/-- **A task that goes on keeps a chronicle faithful**, and what it has ended is recorded. -/
theorem Faithful.advance {c : Chronicle} (h : c.Faithful) (ticket : Nat) (outside : Nat → Bool) :
    (c.advance ticket outside).Faithful ∧ ∃ new, c.Adds (c.advance ticket outside) new := by
  have horderly : (c.traffic.advance ticket outside).IsOrderly :=
    h.orderly.step (.advance ticket outside)
  have hstay : c.traffic.advance ticket outside = c.traffic →
      c.traffic.ending? ticket outside = none → c.advance ticket outside = c := by
    intro hstay hending
    simp only [Chronicle.advance, hending, Traffic.step, hstay]
  cases hu : c.traffic.task? ticket with
  | none =>
    have hsame : c.traffic.advance ticket outside = c.traffic := by rw [Traffic.advance, hu]
    rw [hstay hsame (by simp [Traffic.ending?, hsame, Traffic.standing, hu])]
    exact ⟨h, [], .nil rfl rfl⟩
  | some u =>
    have hfollows := h.follows hu
    -- what is asked for stays, unless the request ends
    have hgoes : ∀ {v : Task}, c.traffic.ending? ticket outside = none →
        (c.traffic.advance ticket outside).task? =
          Function.update c.traffic.task? ticket (some v) → v.Follows (c.asked ticket) →
        (c.traffic.advance ticket outside).gateway.subscriptions = c.subscriptions →
          (c.advance ticket outside).Faithful ∧ ∃ new, c.Adds (c.advance ticket outside) new := by
      intro v hending htasks hv hsubscriptions
      have he : c.advance ticket outside = ⟨c.traffic.advance ticket outside,
          Function.update c.asked ticket (c.asked ticket), c.ended ++ []⟩ := by
        simp only [Chronicle.advance, hending, Traffic.step, Function.update_eq_self,
          List.append_nil]
      rw [he]
      refine ⟨h.moved [] horderly htasks ?_ hsubscriptions, [], rfl, hsubscriptions⟩
      rintro w ⟨⟩
      exact hv
    cases Traffic.polled hu outside with
    | waits hsame hending =>
      rw [hstay hsame hending]
      exact ⟨h, [], .nil rfl rfl⟩
    | begins hdone hmore hgateway htasks hending =>
      refine hgoes hending htasks ?_ (congrArg Gateway.subscriptions hgateway)
      exact hfollows.begin hdone hmore _
    | @goes p' ha htasks hending =>
      obtain ⟨ask, rest, hasks, hserves, hrest⟩ := hfollows.exists_ask (by
        rintro outcome hdone
        rw [hdone] at ha
        cases ha)
      rcases Gateway.advance_served h.orderly.consistent hserves ha with
        ⟨hstill, hsubscriptions⟩ | ⟨outcome, rfl, hsubscriptions⟩
      · refine hgoes (hending.trans hstill.outcome?) htasks ?_ hsubscriptions
        rw [hasks]
        exact .busy hstill hrest
      · have he : c.advance ticket outside = ⟨c.traffic.advance ticket outside,
            Function.update c.asked ticket rest, c.ended ++ [(ask, outcome)]⟩ := by
          simp only [Chronicle.advance, hending, hasks, Progress.outcome?, Traffic.step]
        rw [he]
        refine ⟨h.moved [(ask, outcome)] horderly htasks ?_ hsubscriptions, [(ask, outcome)], rfl,
          hsubscriptions⟩
        rintro w ⟨⟩
        exact .idle rfl hrest

/-- **Every deed keeps a chronicle faithful**, and what it ends is recorded. -/
theorem Faithful.step {c : Chronicle} (h : c.Faithful) (d : Deed) :
    (c.step d).Faithful ∧ ∃ new, c.Adds (c.step d) new := by
  have hask : ∀ {ticket asks jobs}, List.Forall₂ Job.Serves jobs asks →
      (c.ask ticket asks jobs).Faithful ∧ ∃ new, c.Adds (c.ask ticket asks jobs) new :=
    fun hserve => ⟨(h.ask hserve).1, [], (h.ask hserve).2⟩
  cases d with
  | call ticket call =>
    simp only [Chronicle.step]
    cases hjob : call.job c.traffic.gateway.openTimeout with
    | ok job => exact hask (.cons (Call.job_serves hjob) .nil)
    | error e =>
      refine ⟨⟨h.orderly, h.follows, ?_⟩, [(.call call, .error e)], rfl, rfl⟩
      dsimp only
      rw [List.foldl_append, ← h.subscribed]
      rfl
  | startup ticket => exact hask c.traffic.gateway.startupJobs_serve
  | other m =>
    have hother : (∀ ticket jobs, m ≠ .arrive ticket jobs) →
        (∀ ticket outside, m ≠ .advance ticket outside) → (∀ ticket, m ≠ .cancel ticket) →
        Faithful { c with traffic := c.traffic.step m } ∧
          ∃ new, c.Adds { c with traffic := c.traffic.step m } new := by
      intro harrive hadvance hcancel
      obtain ⟨htasks, hsubscriptions⟩ := c.traffic.tasks_step harrive hadvance hcancel
      have htask? : (c.traffic.step m).task? = c.traffic.task? := by
        unfold Traffic.task?
        rw [htasks]
      exact ⟨h.stayed (h.orderly.step m) htask? hsubscriptions, [], .nil rfl hsubscriptions⟩
    cases m with
    | arrive ticket jobs => exact ⟨h, [], .nil rfl rfl⟩
    | advance ticket outside => exact h.advance ticket outside
    | cancel ticket =>
      have hsubscriptions := c.traffic.subscriptions_cancel ticket
      have hmoved : Faithful ⟨c.traffic.step (.cancel ticket), Function.update c.asked ticket [],
          c.ended ++ []⟩ :=
        h.moved [] (h.orderly.step (.cancel ticket)) (c.traffic.task?_cancel ticket) nofun
          hsubscriptions
      rw [List.append_nil] at hmoved
      exact ⟨hmoved, [], .nil rfl hsubscriptions⟩
    | _ => exact hother nofun nofun nofun

/-- **Every run keeps a chronicle faithful.** -/
theorem Faithful.run {c : Chronicle} (h : c.Faithful) (deeds : List Deed) :
    (c.run deeds).Faithful := by
  induction deeds generalizing c with
  | nil => exact h
  | cons d rest ih => exact ih (h.step d).1

theorem faithful_ofGateway (config : GatewayConfig) (hub : Hub) :
    (ofGateway (.ofConfig config hub)).Faithful where
  orderly := Traffic.isOrderly_ofGateway rfl .empty
  follows hu := by cases hu
  subscribed := rfl

theorem ended_ask (c : Chronicle) (ticket : Nat) (asks : List Ask) (jobs : List Job) :
    (c.ask ticket asks jobs).ended = c.ended := by
  unfold ask
  split <;> rfl

/-- **All that a deed ends**: nothing; a call that is refused; or the request of the task that it
polls. -/
theorem ended_cases (c : Chronicle) (d : Deed) :
    (c.step d).ended = c.ended ∨
      (∃ ask e, (c.step d).ended = c.ended ++ [(ask, .error e)]) ∨
      ∃ ask outcome ticket outside, (c.step d).ended = c.ended ++ [(ask, outcome)] ∧
        d = .other (.advance ticket outside) ∧
        (c.step d).traffic.standing ticket = some (.done outcome) := by
  cases d with
  | call ticket call =>
    simp only [step]
    cases call.job c.traffic.gateway.openTimeout with
    | ok job => exact .inl (c.ended_ask ..)
    | error e => exact .inr (.inl ⟨_, _, rfl⟩)
  | startup ticket => exact .inl (c.ended_ask ..)
  | other m =>
    cases m with
    | advance ticket outside =>
      simp only [step, advance]
      split
      · rename_i outcome ask rest hending hasks
        refine .inr (.inr ⟨ask, outcome, ticket, outside, rfl, rfl, ?_⟩)
        exact Traffic.standing_of_ending hending
      · exact .inl rfl
    | _ => exact .inl rfl

/-- Who is subscribed, told by what has ended. -/
structure Subscribed (c : Chronicle) : Prop where
  /-- The list of a name is what has ended well for it, in order. -/
  listFor_eq : ∀ name, c.subscriptions.listFor name =
    (c.ended.filter fun e => e.1.name = name ∧ e.2.isOk = true).flatMap fun e => e.1.urls
  /-- Everything is counted that has ended well, which is the total over the names that have
  lists. -/
  count_eq : c.subscriptions.count =
    ((c.ended.filter fun e => e.2.isOk).flatMap fun e => e.1.urls).length
  total : ∃ names : List String, names.Nodup ∧
    (∀ name, name ∉ names → c.subscriptions.listFor name = []) ∧
      c.subscriptions.count = (names.flatMap c.subscriptions.listFor).length
  /-- A deed adds what it ends well, after all that is there. -/
  grows : ∀ d, ∃ new, (c.step d).ended = c.ended ++ new ∧ new.length ≤ 1 ∧
    ∀ name, (c.step d).subscriptions.listFor name = c.subscriptions.listFor name ++
      (new.filter fun e => e.1.name = name ∧ e.2.isOk = true).flatMap fun e => e.1.urls
  /-- A deed that does not poll a request to a good end changes no list. -/
  stays : ∀ d, (∀ ticket outside r, d = .other (.advance ticket outside) →
      (c.step d).traffic.standing ticket ≠ some (.done (.ok r))) →
    (c.step d).subscriptions = c.subscriptions

/-- **The list of a name is what has ended well for it.** -/
theorem Faithful.isSubscribed {c : Chronicle} (h : c.Faithful) : c.Subscribed where
  listFor_eq name := by
    rw [h.subscribed, Subscriptions.listFor_foldl]
    rfl
  count_eq := by
    rw [h.subscribed, Subscriptions.count_foldl]
    exact Nat.zero_add _
  total := by
    have hdistinct : c.subscriptions.lists.Distinct := by
      rw [h.subscribed]
      exact Subscriptions.distinct_foldl .nil _
    refine ⟨c.subscriptions.lists.keys, hdistinct, fun name hname => ?_,
      Subscriptions.count_eq_length hdistinct⟩
    unfold Subscriptions.listFor
    rw [Table.get?_of_not_mem hname]
    rfl
  grows d := by
    obtain ⟨new, hended, hsubscriptions⟩ := (h.step d).2
    refine ⟨new, hended, ?_, fun name => ?_⟩
    · rcases c.ended_cases d with he | ⟨_, _, he⟩ | ⟨_, _, _, _, he, -⟩ <;> rw [he] at hended
      · obtain rfl : new = [] := by simpa using hended
        exact Nat.zero_le 1
      · obtain rfl := List.append_cancel_left hended
        exact Nat.le_refl 1
      · obtain rfl := List.append_cancel_left hended
        exact Nat.le_refl 1
    · rw [hsubscriptions, Subscriptions.listFor_foldl]
      rfl
  stays d hnot := by
    obtain ⟨new, hended, hsubscriptions⟩ := (h.step d).2
    rw [hsubscriptions]
    rcases c.ended_cases d with he | ⟨ask, e, he⟩ | ⟨ask, outcome, ticket, outside, he, hd, hs⟩
    · rw [he] at hended
      obtain rfl : new = [] := by simpa using hended
      rfl
    · rw [he] at hended
      obtain rfl := List.append_cancel_left hended
      rfl
    · rw [he] at hended
      obtain rfl := List.append_cancel_left hended
      cases outcome with
      | error e => rfl
      | ok r => exact absurd hs (hnot ticket outside r hd)

end Chronicle

/-- **Subscriptions are what has ended well.** After every run of calls, startups and whatever else
can happen to a gateway, the list of each name is made of the non-empty webhooks of the calls that
have opened it as an input and of the webhooks of the startup channels of that name that have
opened, in the order in which they have ended; a next deed only adds to it, and only what it ends
well. -/
theorem subscriptions_exact (config : GatewayConfig) (hub : Hub) (deeds : List Deed) :
    ((Chronicle.ofGateway (.ofConfig config hub)).run deeds).Subscribed :=
  ((Chronicle.faithful_ofGateway config hub).run deeds).isSubscribed

/-- A door that is opened, closed and opened again by a call without a webhook keeps its
subscriber. -/
example :
    let door (ticket : Nat) (webhook : Option String) : List Deed :=
      [.call ticket (.digitalIn "door" ⟨0, 0⟩ webhook), .other (.advance ticket fun _ => false)]
    let deeds := door 0 (some "http://hook/") ++
      [.call 1 (.close "door"), .other (.advance 1 fun _ => false)] ++ door 2 (some "")
    let c := (Chronicle.ofGateway (.ofConfig {} (.ofConfig {} 0))).run deeds
    c.subscriptions.listFor "door" = ["http://hook/"] ∧
      c.ended.map (·.2.isOk) = [true, true, true] := by
  decide +kernel

end ChannelGateway
