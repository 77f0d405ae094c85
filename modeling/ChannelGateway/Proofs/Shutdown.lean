import ChannelGateway.Proofs.Live
import ChannelGateway.Proofs.Opening
import ChannelGateway.Proofs.Served

/-!
# What a shutdown leaves behind

A shutdown forgets every name and then tries to close each channel that was registered, one after
the other and in any order; a channel that fails to close stays as it is, and the next one is tried.
Each attempt asks the injected faults once, so what comes of the attempt on a channel is decided by
how many were made before and by nothing else (`Gateway.Closes`).

The gateway goes on after it. Every identity that has been given out before is settled when no
request is under way (`Settled`), so it is registered under no name ever after: an event of an old
channel reaches nobody, and a name that is opened again has a channel of its own. Identities are
given out in order, hence the new one is none that any channel has had. The lists of subscribers
only grow, so an edge of the new channel is told to everybody who was subscribed to the name before.

Results:
* `Gateway.closes_closeAll`: what closing channels one after the other does to each of them.
* `Traffic.forgotten_run`: identities given out before a shutdown are not registered after it.
* `Traffic.grow_run`: no run takes a subscriber from a list.
* `Traffic.reopens`: a request for a name that is not open creates a channel.
* **`shutdown_leaves`**: a shutdown and the rest of the run; `shutdown_leaves_door` is one where a
  channel fails to close.
-/

namespace ChannelGateway

/-! ## Closing channels one after the other -/

/-- What closing a channel does to the hub. -/
theorem Hub.startClose_fst (h : Hub) (c : Channel) :
    (h.startClose c).1 =
      match (h.injection.check .closing).1 with
      | none => (h.withInjection (h.injection.check .closing).2).modify c.serial Channel.disconnect
      | some _ => h.withInjection (h.injection.check .closing).2 := by
  unfold startClose
  rw [check_eq]
  cases (h.injection.check .closing).1 <;> rfl

namespace Gateway

variable {g : Gateway}

/-- Forget every open name, then close the channels of resources in some order. -/
def shutdownIn (g : Gateway) (order : List Resource) : Gateway :=
  { g with registry := g.registry.drain.2 }.closeAll order

/-- What closing the channels of resources in some order makes of a gateway. -/
structure Closes (g : Gateway) (order : List Resource) (g' : Gateway) : Prop where
  /-- No channel is closed twice. -/
  once : (order.map Resource.serial).Nodup
  /-- The injected faults are asked once for each. -/
  asked : g'.hub.injection = g.hub.injection.after (List.replicate order.length .closing)
  /-- Each channel is closed if the faults let its own attempt pass, and stays as it is if they do
  not. -/
  each : ∀ {before r rest}, order = before ++ r :: rest →
    ∃ c, g.hub.channel? r.serial = some c ∧ c.spec = r.spec ∧
      match ((g.hub.injection.after (List.replicate before.length .closing)).check .closing).1 with
      | none => g'.hub.channel? r.serial = some c.disconnect
      | some f => f.isInjected = true ∧ g'.hub.channel? r.serial = some c
  /-- The other channels stay as they are. -/
  others : ∀ {serial}, (∀ r ∈ order, serial ≠ r.serial) →
    g'.hub.channel? serial = g.hub.channel? serial

theorem injection_closeAll (g : Gateway) (resources : List Resource) :
    (g.closeAll resources).hub.injection =
      g.hub.injection.after (List.replicate resources.length .closing) := by
  induction resources generalizing g with
  | nil => rfl
  | cons r rest ih =>
    have hfirst : (g.hub.startClose (g.channelOf r)).1.injection =
        (g.hub.injection.check .closing).2 := by
      rw [Hub.startClose_fst]
      split <;> rfl
    exact (ih { g with hub := (g.hub.startClose (g.channelOf r)).1 }).trans
      (congrArg (·.after (List.replicate rest.length .closing)) hfirst)

theorem channel?_closeAll_of_ne (g : Gateway) {resources : List Resource} {serial : Nat}
    (hne : ∀ r ∈ resources, serial ≠ r.serial) :
    (g.closeAll resources).hub.channel? serial = g.hub.channel? serial := by
  induction resources generalizing g with
  | nil => rfl
  | cons r rest ih =>
    have hfirst : serial ≠ (g.channelOf r).serial := by
      rw [serial_channelOf]
      exact hne r List.mem_cons_self
    exact (ih { g with hub := (g.hub.startClose (g.channelOf r)).1 } fun s hs =>
      hne s (List.mem_cons_of_mem r hs)).trans (g.hub.channel?_startClose_of_ne hfirst)

/-- **Closing channels one after the other** closes each one whose own attempt the faults let
pass. -/
theorem closes_closeAll {order : List Resource} (once : (order.map Resource.serial).Nodup)
    (found : ∀ r ∈ order, ∃ c, g.hub.channel? r.serial = some c ∧ c.spec = r.spec) :
    g.Closes order (g.closeAll order) where
  once := once
  asked := g.injection_closeAll order
  others := g.channel?_closeAll_of_ne
  each {before r rest} hsplit := by
    subst hsplit
    obtain ⟨c, hc, hspec⟩ := found r (by simp)
    rw [List.map_append, List.map_cons, List.nodup_append] at once
    obtain ⟨-, hrest, hbefore⟩ := once
    have hne : ∀ s ∈ rest, r.serial ≠ s.serial := fun s hs he =>
      (List.nodup_cons.mp hrest).1 (he ▸ List.mem_map_of_mem hs)
    -- the attempts before do not reach the channel, and neither do those after
    have hc' : (g.closeAll before).hub.channel? r.serial = some c :=
      (g.channel?_closeAll_of_ne fun s hs he =>
        hbefore _ (List.mem_map_of_mem hs) _ List.mem_cons_self he.symm).trans hc
    have hlater : (g.closeAll (before ++ r :: rest)).hub.channel? r.serial =
        ((g.closeAll before).hub.startClose c).1.channel? r.serial := by
      have happend : g.closeAll (before ++ r :: rest) =
          ({ g.closeAll before with hub := ((g.closeAll before).hub.startClose
            ((g.closeAll before).channelOf r)).1 } : Gateway).closeAll rest := List.foldl_append
      rw [happend, channel?_closeAll_of_ne _ hne, Setting.eq_channelOf hc']
    refine ⟨c, hc, hspec, ?_⟩
    rw [hlater, Hub.startClose_fst, injection_closeAll]
    split
    · rename_i hpasses
      have hmodify := Hub.channel?_modify ((g.closeAll before).hub.withInjection
        ((g.hub.injection.after (List.replicate before.length .closing)).check .closing).2)
        c.serial r.serial (f := Channel.disconnect) fun _ => rfl
      rw [if_pos (Hub.serial_of_channel? hc).symm] at hmodify
      exact hmodify.trans (congrArg (Option.map Channel.disconnect) hc')
    · rename_i f hfails
      exact ⟨Injection.isInjected_of_check hfails, hc'⟩

/-- Forgetting the names does not touch the hub. -/
theorem closes_shutdownIn {order : List Resource} (once : (order.map Resource.serial).Nodup)
    (found : ∀ r ∈ order, ∃ c, g.hub.channel? r.serial = some c ∧ c.spec = r.spec) :
    g.Closes order (g.shutdownIn order) := by
  have hcloses := closes_closeAll (g := { g with registry := g.registry.drain.2 }) once found
  exact ⟨hcloses.once, hcloses.asked, hcloses.each, hcloses.others⟩

end Gateway

/-! ## Identities and events -/

/-- The channel that an event is about. -/
def HubEvent.id : HubEvent → ChannelId
  | attached id => id
  | detached id => id
  | fault id _ _ => id
  | changed id _ => id

/-- An event of a channel that is not registered does nothing. -/
theorem Gateway.observe_of_unregistered {g : Gateway} {e : HubEvent}
    (hn : g.registry.nameFor e.id = none) : g.observe e = g := by
  cases e with
  | attached id => rfl
  | fault id code text => rfl
  | detached id =>
    have hremove : g.registry.removeChannel id = (none, g.registry) := by
      unfold Registry.removeChannel
      rw [show g.registry.nameFor id = none from hn]
    unfold observe
    dsimp only
    rw [hremove]
  | changed id state =>
    unfold observe
    dsimp only
    rw [show g.registry.nameFor id = none from hn]

namespace Traffic

variable {t : Traffic} {order : List Resource}

/-- The gateway is shut down, and its channels are closed in some order. -/
def shutdownIn (t : Traffic) (order : List Resource) : Traffic :=
  { t with gateway := t.gateway.shutdownIn order }

/-- A run has had a channel with an identity at some moment. -/
def Had (t : Traffic) (moves : List Move) (id : ChannelId) : Prop :=
  ∃ before, before <+: moves ∧ ∃ c ∈ (t.run before).gateway.hub.tracked, c.spec.id = id

theorem gateway_shutdownIn (t : Traffic) (order : List Resource) :
    (t.shutdownIn order).gateway =
      { t.gateway with
        hub := (t.shutdownIn order).gateway.hub, registry := t.gateway.registry.drain.2 } :=
  Gateway.closeAll_eq { t.gateway with registry := t.gateway.registry.drain.2 } order

theorem IsOrderly.shutdownIn (h : t.IsOrderly) (order : List Resource) :
    (t.shutdownIn order).IsOrderly := by
  unfold IsOrderly
  rw [gateway_shutdownIn]
  exact Orderly.drain h

theorem IsBacked.shutdownIn (h : t.IsBacked) (order : List Resource) :
    (t.shutdownIn order).IsBacked := by
  have hledger : (t.shutdownIn order).gateway.hub.ledger = t.gateway.hub.ledger :=
    Gateway.closeAll_keeps (P := fun h => h.ledger = t.gateway.hub.ledger)
      (g := { t.gateway with registry := t.gateway.registry.drain.2 })
      (fun _ _ he => (Hub.ledger_startClose ..).trans he) rfl order
  refine h.removal hledger ?_ rfl
  rw [gateway_shutdownIn]
  exact .single (.all _)

/-- Identities are given out in order, and none is taken back. -/
theorem IsOrderly.nextId_le (h : t.IsOrderly) (moves : List Move) :
    t.gateway.registry.nextId ≤ (t.run moves).gateway.registry.nextId := by
  induction moves generalizing t with
  | nil => exact Nat.le_refl _
  | cons m moves ih =>
    refine Nat.le_trans ?_ (ih (h.step m))
    rcases h.keeps_or_creates m with ⟨hnext, -⟩ | ⟨_, _, hcreates⟩
    · exact Nat.le_of_eq hnext.symm
    · rw [hcreates.nextId]
      exact Nat.le_succ _

/-- The identities of all channels that there have been are below the next one. -/
theorem Had.lt_nextId {moves : List Move} {id : ChannelId} (hhad : t.Had moves id)
    (ho : t.IsOrderly) (hb : t.IsBacked) (own : ∀ m ∈ moves, ∀ hub, m ≠ .meddle hub) :
    id < (t.run moves).gateway.registry.nextId := by
  obtain ⟨before, ⟨rest, rfl⟩, c, hc, rfl⟩ := hhad
  have hbefore : (t.run before).IsBacked :=
    hb.later fun m hm => own m (List.mem_append_left rest hm)
  have hentry : (c.serial, c.spec) ∈ (t.run before).gateway.hub.ledger.specs :=
    List.mem_map.mpr ⟨c, hc, rfl⟩
  have hlt : c.spec.id < (t.run before).gateway.registry.nextId := by
    rw [hbefore.paired hentry, hbefore.next]
    exact Nat.succ_lt_succ (hbefore.given hentry)
  rw [run_append]
  exact Nat.lt_of_lt_of_le hlt ((ho.run before).nextId_le rest)

/-- A task stands after a request, once the requests of every task have ended. -/
theorem done_of_idle (idle : ∀ u ∈ t.tasks, u.outcomes?.isSome = true) {k : Nat} {p : Progress}
    (hs : t.standing k = some p) : ∃ outcome, p = .done outcome := by
  obtain ⟨u, hu, rfl⟩ := Option.map_eq_some_iff.mp hs
  exact Task.done_of_outcomes? (idle u (mem_of_task? hu))

/-- Nobody stands at a gate, once the requests of every task have ended. -/
theorem IsOrderly.tickets_of_idle (h : t.IsOrderly)
    (idle : ∀ u ∈ t.tasks, u.outcomes?.isSome = true) (name : String) :
    t.gateway.gates.tickets name = [] := by
  refine List.eq_nil_iff_forall_not_mem.mpr fun k hk => ?_
  rw [Orderly.mem_tickets h] at hk
  obtain ⟨p, hp, hgate⟩ := Option.bind_eq_some_iff.mp hk
  obtain ⟨outcome, rfl⟩ := done_of_idle idle hp
  cases hgate

/-- **Identities that were given out before a shutdown** are registered under no name after it. -/
theorem forgotten_run (idle : ∀ u ∈ t.tasks, u.outcomes?.isSome = true) {id : ChannelId}
    (given : id < t.gateway.registry.nextId) (order : List Resource) (more : List Move) :
    ((t.shutdownIn order).run more).gateway.registry.nameFor id = none := by
  have hsettled :
      Settled (t.shutdownIn order).gateway.registry (t.shutdownIn order).standing id := by
    rw [gateway_shutdownIn]
    refine ⟨given, fun {k r f w} hk => ?_⟩
    obtain ⟨outcome, he⟩ := done_of_idle (t := t) idle hk
    cases he
  cases hagain : ((t.shutdownIn order).run more).gateway.registry.nameFor id with
  | none => rfl
  | some name =>
    have hback := (hsettled.run more).2 name hagain
    rw [gateway_shutdownIn, Registry.nameFor_drain] at hback
    cases hback

end Traffic

/-! ## Lists of subscribers -/

/-- No list has lost a subscriber, and what is new stands at the end. -/
def Subscriptions.Grow (old new : Subscriptions) : Prop :=
  ∀ name, old.listFor name <+: new.listFor name

namespace Subscriptions

theorem Grow.of_eq {old new : Subscriptions} (h : new = old) : old.Grow new := by
  subst h
  exact fun _ => List.prefix_rfl

theorem Grow.trans {old middle new : Subscriptions} (h : old.Grow middle) (h' : middle.Grow new) :
    old.Grow new :=
  fun name => (h name).trans (h' name)

theorem grow_subscribeAll (s : Subscriptions) (name : String) (urls : List String) :
    s.Grow (s.subscribeAll name urls) := by
  intro other
  rw [listFor_subscribeAll]
  split
  · rename_i hname
    rw [hname]
    exact List.prefix_append ..
  · exact List.prefix_rfl

end Subscriptions

namespace Gateway

variable {g g' : Gateway} {now ticket : Nat} {held : Nat → Bool} {p p' : Progress}

theorem grow_follow (g : Gateway) (now : Nat) (r : Resource) (followup : Followup) :
    g.subscriptions.Grow (g.follow now r followup).1.subscriptions := by
  cases followup with
  | nothing => exact .of_eq rfl
  | subscribe urls => exact g.subscriptions.grow_subscribeAll r.name urls
  | write w =>
    simp only [follow]
    rcases g.hub.startWrite now (g.channelOf r) w with ⟨hub, result | w⟩
    · cases result <;> exact .of_eq rfl
    · exact .of_eq rfl

theorem grow_piece (hp : g.Piece now held ticket p g' p') :
    g.subscriptions.Grow g'.subscriptions := by
  cases hp with
  | @reuse request followup r found => exact grow_follow g now r followup
  | @join request followup r turn found =>
    exact grow_follow (g.leaveGate request.name ticket) now r followup
  | @createOpen request followup hub events reply turn free known attempt =>
    let created := { g.enlist held request with hub }
    exact grow_follow (({ created with registry := created.registry.insert (g.newcomer request) } :
      Gateway).leaveGate request.name ticket) now (g.newcomer request) followup
  | @attached r followup w hub events reply due result =>
    exact grow_follow (({ g with hub, registry := g.registry.insert r } : Gateway).leaveGate r.name
      ticket) now r followup
  | _ => exact .of_eq rfl

end Gateway

namespace Traffic

theorem grow_step (t : Traffic) (m : Move) :
    t.gateway.subscriptions.Grow (t.step m).gateway.subscriptions := by
  cases m with
  | arrive ticket jobs =>
    rcases t.arrive_cases ticket jobs with he | ⟨_, _, hg, _⟩
    · exact .of_eq (by simp only [step, he])
    · exact .of_eq (by simp only [step, hg])
  | advance ticket outside =>
    rcases t.advance_cases ticket outside with he | ⟨_, _, _, hg, _⟩ | ⟨_, _, _, _, ha, hg, _⟩
    · exact .of_eq (by simp only [step, he])
    · exact .of_eq (by simp only [step, hg])
    · obtain ⟨gates, q, hp, -⟩ := Gateway.advance_last ha
      simp only [step, hg]
      exact Gateway.grow_piece (g := { t.gateway with gates }) hp
  | cancel ticket => exact .of_eq (t.subscriptions_cancel ticket)
  | _ => exact .of_eq (t.tasks_step (by simp) (by simp) (by simp)).2

/-- **No run takes a subscriber from a list.** -/
theorem grow_run (t : Traffic) (moves : List Move) :
    t.gateway.subscriptions.Grow (t.run moves).gateway.subscriptions :=
  run_induction (P := fun u => t.gateway.subscriptions.Grow u.gateway.subscriptions) (.of_eq rfl)
    (fun u m h => h.trans (u.grow_step m)) moves

end Traffic

/-! ## Opening a name again -/

namespace Gateway

variable {g g' : Gateway} {now ticket : Nat} {held : Nat → Bool} {request : OpenRequest}
  {followup : Followup} {p' : Progress}

/-- A request that holds the gate of a name that is not open creates a channel. -/
theorem ledger_create (free : g.registry.resolve request.name = none)
    (known : request.address.isMissing = false)
    (hp : g.Piece now held ticket (.queued (.use request followup)) g' p') :
    g'.hub.ledger = g.hub.ledger.add (g.holds held) (g.newcomer request).spec := by
  cases hp with
  | join turn found =>
    rw [free] at found
    cases found
  | refuse turn free missing =>
    rw [known] at missing
    cases missing
  | create turn free known attempt => exact ledger_attempt attempt
  | createOpen turn free known attempt => exact (ledger_register ..).trans (ledger_attempt attempt)
  | createFailed turn free known attempt => exact (ledger_abandon ..).trans (ledger_attempt attempt)

/-- A new channel opens at once or attaches at a time, if the hub admits it and the faults let it
pass. -/
theorem attempt_admitted (hn : g.hub.Numbered)
    (admits : g.hub.config.Admits request.address request.timeout)
    (passes : (g.hub.check .opening).1 = none) {hub : Hub} {events : List HubEvent}
    {status : IoStatus} (attempt : g.attempt now held request = (hub, events, status)) :
    status = .finished (.ok .done) ∨
      status = .waiting (.attaching
        (now + g.hub.config.openTime request.address request.timeout)) := by
  have hstart := attempt_start hn passes now held request
  rw [attempt] at hstart
  cases hstart with
  | opened i admits swift => exact .inl rfl
  | attaching i admits slow => exact .inr rfl
  | refused i refuses swift => exact absurd admits refuses
  | absent i refuses slow => exact absurd admits refuses

/-- A request that creates a channel is given it at once or waits for it to attach, if the hub
admits it and the faults let it pass. -/
theorem piece_admitted (hn : g.hub.Numbered)
    (admits : g.hub.config.Admits request.address request.timeout)
    (passes : (g.hub.check .opening).1 = none)
    (free : g.registry.resolve request.name = none) (known : request.address.isMissing = false)
    (hp : g.Piece now held ticket (.queued (.use request followup)) g' p') :
    p'.Got (g.newcomer request) ∧ g'.registry.resolve request.name = some (g.newcomer request) ∨
      p' = .opening (g.newcomer request) followup
        (.attaching (now + g.hub.config.openTime request.address request.timeout)) := by
  cases hp with
  | join turn found =>
    rw [free] at found
    cases found
  | refuse turn free missing =>
    rw [known] at missing
    cases missing
  | create turn free known attempt =>
    rcases attempt_admitted hn admits passes attempt with he | he
    · cases he
    · cases he
      exact .inr rfl
  | createOpen turn free known attempt =>
    refine .inl ⟨got_follow .., ?_⟩
    rw [registry_register, Registry.resolve_insert]
    exact if_pos rfl
  | createFailed turn free known attempt =>
    rcases attempt_admitted hn admits passes attempt with he | he <;> cases he

end Gateway

namespace Traffic

variable {t : Traffic} {ticket : Nat} {request : OpenRequest}

/-- The request of a task has been given a resource, which is registered under its name. -/
def Gained (t : Traffic) (ticket : Nat) (r : Resource) : Prop :=
  ∃ p, t.standing ticket = some p ∧ p.Got r ∧ t.gateway.registry.resolve r.name = some r

/-- A request whose channel attaches is given it when it goes on at its time. -/
theorem gained_of_due {r : Resource} {f : Followup} {due : Nat}
    (stood : t.standing ticket = some (.opening r f (.attaching due))) (hdue : due ≤ t.now)
    (outside : Nat → Bool) : (t.step (.advance ticket outside)).Gained ticket r := by
  have ha : t.gateway.advance t.now (t.held outside) ticket (.opening r f (.attaching due)) =
      some (({ t.gateway with hub := (t.gateway.hub.connect (t.gateway.channelOf r)).1 } :
        Gateway).register t.now ticket r f) := if_pos hdue
  obtain ⟨hg, hs⟩ := step_of_gateway stood ha
  have hregistry : (t.step (.advance ticket outside)).gateway.registry =
      t.gateway.registry.insert r := by
    rw [hg]
    exact Gateway.registry_register ..
  refine ⟨_, hs, Gateway.got_follow .., ?_⟩
  rw [hregistry, Registry.resolve_insert, if_pos rfl]

/-- **A request whose channel attaches** is given it, in every run that does not give it up and in
which it goes on when its time has come. -/
theorem gained_run {r : Resource} {f : Followup} {due : Nat}
    (stood : t.standing ticket = some (.opening r f (.attaching due))) {more : List Move}
    (kept : ∀ m ∈ more, m ≠ .cancel ticket) :
    (∃ before, before <+: more ∧ (t.run before).Gained ticket r) ∨
      (due ≤ (t.run more).now →
        ∀ outside, ((t.run more).step (.advance ticket outside)).Gained ticket r) := by
  rcases opening_run stood kept with hstands | ⟨before, outside, hbefore, hstands, hdue⟩
  · exact .inr fun hdue => gained_of_due hstands hdue
  · refine .inl ⟨_, hbefore, ?_⟩
    rw [run_append]
    exact gained_of_due hstands hdue outside

/-- A channel of its own is created for the request of a task when it goes on. -/
structure Reopens (t : Traffic) (ticket : Nat) (outside : Nat → Bool) (request : OpenRequest) :
    Prop where
  /-- It is the next channel, under the next identity, of the kind and at the address asked for. -/
  channel : ∃ c, (t.step (.advance ticket outside)).gateway.hub.channel?
      (t.gateway.newcomer request).serial = some c ∧ c.spec = (t.gateway.newcomer request).spec
  /-- It is the only one. -/
  count : (t.step (.advance ticket outside)).gateway.hub.created = t.gateway.hub.created + 1
  /-- If the hub admits it and the faults let it pass, the request is given it and the name is open,
  at once or when the time is over that it takes. -/
  opens : t.gateway.hub.config.Admits request.address request.timeout →
    (t.gateway.hub.check .opening).1 = none → ∀ rest, (∀ m ∈ rest, m ≠ .cancel ticket) →
      let next := t.step (.advance ticket outside)
      (∃ before, before <+: rest ∧ (next.run before).Gained ticket (t.gateway.newcomer request)) ∨
        (t.now + t.gateway.hub.config.openTime request.address request.timeout ≤
          (next.run rest).now →
          ∀ outside, ((next.run rest).step (.advance ticket outside)).Gained ticket
            (t.gateway.newcomer request))

/-- **A request that nobody is before** at the gate of a name that is not open creates a channel. -/
theorem reopens (ho : t.IsOrderly) (hb : t.IsBacked) {p : Progress}
    (stood : t.standing ticket = some p) (asks : p.Asks request)
    (alone : ∀ k, t.gateway.gates.holds request.name k = true → k = ticket)
    (free : t.gateway.registry.resolve request.name = none)
    (known : request.address.isMissing = false) (outside : Nat → Bool) :
    t.Reopens ticket outside request := by
  obtain ⟨gates, followup, g, p', ha, hp⟩ := ho.passes stood asks alone free outside
  obtain ⟨hg, hs⟩ := step_of_gateway stood ha
  have hledger : (t.step (.advance ticket outside)).gateway.hub.ledger = t.gateway.hub.ledger.add
      (t.gateway.holds (t.held outside)) (t.gateway.newcomer request).spec := by
    rw [hg]
    exact Gateway.ledger_create (g := { t.gateway with gates }) free known hp
  refine ⟨?_, congrArg Ledger.created hledger, fun admits passes rest kept => ?_⟩
  · have hnext : (t.step (.advance ticket outside)).IsBacked := hb.step (by simp)
    have hentry : ((t.gateway.newcomer request).serial, (t.gateway.newcomer request).spec) ∈
        (t.step (.advance ticket outside)).gateway.hub.ledger.specs := by
      rw [hledger]
      exact List.mem_append_right _ List.mem_cons_self
    have hget := Table.get?_of_mem hnext.distinct hentry
    rw [Hub.get?_specs] at hget
    exact Option.map_eq_some_iff.mp hget
  · have hplace := Gateway.piece_admitted (g := { t.gateway with gates }) (Backed.numbered hb)
      admits passes free known hp
    rcases hplace with ⟨hgot, hregistered⟩ | rfl
    · exact .inl ⟨[], List.nil_prefix, p', hs, hgot, hg ▸ hregistered⟩
    · exact gained_run hs kept

end Traffic

/-! ## Shutdowns -/

namespace Traffic

variable {t : Traffic} {order : List Resource}

/-- What a shutdown leaves behind that closes channels in some order, and what can be counted on in
the rest of the run; `had` tells which identities channels have had before. -/
structure ShutsDown (had : ChannelId → Prop) (t : Traffic) (order : List Resource) : Prop where
  /-- Both indexes of the registry are empty. -/
  emptied : (t.shutdownIn order).gateway.registry.byName = [] ∧
    (t.shutdownIn order).gateway.registry.byChannel = []
  /-- Each registered channel is closed, unless an injected fault fails the one attempt on it. -/
  closes : t.gateway.Closes order (t.shutdownIn order).gateway
  /-- Subscriptions, deliveries and their counts stay. -/
  kept : (t.shutdownIn order).gateway.subscriptions = t.gateway.subscriptions ∧
    (t.shutdownIn order).gateway.dispatcher = t.gateway.dispatcher
  /-- No gate is held. -/
  vacant : ∀ name, (t.shutdownIn order).gateway.gates.tickets name = []
  /-- No event of a channel that was registered does anything, ever after. -/
  deaf : ∀ more, ∀ r ∈ order, ∀ e : HubEvent, e.id = r.id →
    let later := ((t.shutdownIn order).run more).gateway
    later.observe e = later
  /-- Whatever happens to a channel that was registered, nothing is delivered. -/
  silent : ∀ more, (∀ m ∈ more, ∀ hub, m ≠ .meddle hub) → ∀ r ∈ order, ∀ what,
    let later := (t.shutdownIn order).run more
    (later.step (.intervene r.serial what)).gateway.dispatcher = later.gateway.dispatcher
  /-- A request for a name that is not open, and that nobody is before, creates a channel under an
  identity that no channel has had. -/
  reopens : ∀ more, (∀ m ∈ more, ∀ hub, m ≠ .meddle hub) → ∀ ticket request p outside,
    let later := (t.shutdownIn order).run more
    later.standing ticket = some p → p.Asks request →
    (∀ k, later.gateway.gates.holds request.name k = true → k = ticket) →
    later.gateway.registry.resolve request.name = none → request.address.isMissing = false →
      later.Reopens ticket outside request ∧ ¬ had (later.gateway.newcomer request).id ∧
        ¬ (t.shutdownIn order).Had more (later.gateway.newcomer request).id
  /-- While a name is open again, it has another channel, and an edge of it is told to all that were
  subscribed to the name before and to those that have subscribed since. -/
  applies : ∀ more, ∀ r ∈ order, ∀ new,
    let later := ((t.shutdownIn order).run more).gateway
    later.registry.resolve r.name = some new → ¬ had new.id ∧
      t.gateway.subscriptions.listFor r.name <+: later.subscriptions.listFor r.name ∧
      ∀ state, (later.observe (.changed new.id state)).dispatcher = later.dispatcher.announce
        ((later.subscriptions.listFor r.name).map fun url => ⟨url, r.name, state⟩)

/-- What happens to a channel that is not registered calls for nothing. -/
theorem dispatcher_of_unregistered {serial : Nat}
    (hn : ∀ c, t.gateway.hub.channel? serial = some c → t.gateway.registry.nameFor c.spec.id = none)
    (what : Intervention) :
    (t.step (.intervene serial what)).gateway.dispatcher = t.gateway.dispatcher := by
  have howed : t.owed (.intervene serial what) = [] := by
    cases what with
    | change state =>
      cases hc : t.gateway.hub.channel? serial with
      | none => simp [owed, edge?, hc]
      | some c => exact owed_of_unregistered hc (hn c hc) state
    | _ => rfl
  rw [dispatcher_intervene, howed]
  rfl

/-- **A shutdown when no request is under way**, in order and with a channel for each name in
use. -/
theorem shutsDown {had : ChannelId → Prop} (ho : t.IsOrderly) (hb : t.IsBacked)
    (given : ∀ {id}, had id → id < t.gateway.registry.nextId)
    (idle : ∀ u ∈ t.tasks, u.outcomes?.isSome = true)
    (perm : order.Perm t.gateway.registry.resources) : t.ShutsDown had order := by
  have hc : t.gateway.registry.Consistent := Orderly.consistent ho
  have hgateway := t.gateway_shutdownIn order
  have hs := ho.shutdownIn order
  have hresolve : ∀ {r}, r ∈ order → t.gateway.registry.resolve r.name = some r :=
    fun hr => hc.resolve_of_mem (perm.mem_iff.mp hr)
  have hgone : ∀ more {r}, r ∈ order →
      ((t.shutdownIn order).run more).gateway.registry.nameFor r.id = none := fun more r hr =>
    forgotten_run idle (hc.lt_nextId (hc.nameFor_eq (hresolve hr))) order more
  refine ⟨?_, ?_, ?_, ?_, ?_, ?_, ?_, ?_⟩
  · rw [hgateway]
    exact ⟨rfl, rfl⟩
  · refine Gateway.closes_shutdownIn
      ((perm.map Resource.serial).nodup_iff.mpr (Backed.nodup_serials hb hc)) fun r hr => ?_
    exact Backed.channel? hb (Backed.known_resolve (hresolve hr))
  · rw [hgateway]
    exact ⟨rfl, rfl⟩
  · intro name
    rw [hgateway]
    exact ho.tickets_of_idle idle name
  · intro more r hr e he
    exact Gateway.observe_of_unregistered (he ▸ hgone more hr)
  · intro more own r hr what
    have hlater := (hb.shutdownIn order).later own
    refine dispatcher_of_unregistered (fun c hchannel => ?_) what
    rw [Backed.id_channel hlater hchannel,
      ← Backed.id_eq hb (Backed.known_resolve (hresolve hr))]
    exact hgone more hr
  · intro more own ticket request p outside later stood asks alone free known
    have hlater := (hb.shutdownIn order).later own
    refine ⟨Traffic.reopens (hs.run more) hlater stood asks alone free known outside,
      fun hhad => ?_, fun hhad => ?_⟩
    · have hnext := hs.nextId_le more
      rw [hgateway] at hnext
      exact Nat.lt_irrefl _ (Nat.lt_of_lt_of_le (given hhad) hnext)
    · exact Nat.lt_irrefl _ (hhad.lt_nextId hs (hb.shutdownIn order) own)
  · intro more r hr new later hnew
    have hname : later.registry.nameFor new.id = some r.name :=
      (Orderly.consistent (hs.run more)).nameFor_eq hnew
    refine ⟨fun hhad => ?_, ?_, fun state => ?_⟩
    · have hnone := forgotten_run idle (given hhad) order more
      rw [hname] at hnone
      cases hnone
    · have hgrow := (t.shutdownIn order).grow_run more r.name
      rwa [hgateway] at hgrow
    · rw [Gateway.dispatcher_observe_changed, Gateway.owed, hname]

end Traffic

/-- **What a shutdown leaves behind.** After every run that puts no other hub in place, and once no
request is under way, a shutdown empties the registry and tries once to close each channel that was
registered, in any order and whatever comes of the others; subscriptions and deliveries stay. In the
rest of the run no event of those channels is noticed. A name that is opened again has a channel
under an identity that no channel has had, and everybody who was subscribed to the name is told of
its edges. -/
theorem shutdown_leaves (gateway : GatewayConfig) (config : HubConfig) (seed : UInt64)
    (moves : List Move) (own : ∀ m ∈ moves, ∀ hub, m ≠ .meddle hub) :
    let start := Traffic.ofGateway (.ofConfig gateway (.ofConfig config seed))
    let t := start.run moves
    (∀ u ∈ t.tasks, u.outcomes?.isSome = true) →
      t.step .shutdown = t.shutdownIn t.gateway.registry.resources ∧
        ∀ order, order.Perm t.gateway.registry.resources → t.ShutsDown (start.Had moves) order := by
  intro start t idle
  have ho : start.IsOrderly := Traffic.isOrderly_run gateway _ []
  have hb : start.IsBacked := Traffic.IsBacked.run gateway config seed (by simp : ∀ m ∈ [], _)
  exact ⟨rfl, fun order perm => Traffic.shutsDown (ho.run moves) (hb.later own)
    (fun hhad => hhad.lt_nextId ho hb own) idle perm⟩

/-- The second closing fails on a hub where a door and a lamp are open. The lamp is closed first,
and the door stays open. It is opened again by another channel: an edge of the old one is told to
nobody, an edge of the new one to the subscriber of the door. -/
theorem shutdown_leaves_door :
    let door (followup : Followup) : Job :=
      .use ⟨"door", .digitalInput, ⟨0, 0⟩, 1000⟩ followup
    let lamp : Job := .use ⟨"lamp", .digitalOutput, ⟨1, 0⟩, 1000⟩ .nothing
    let go (ticket : Nat) : Move := .advance ticket fun serial => serial = 0
    let config : HubConfig := { faults := [.failAfter .closing 1] }
    let moves : List Move := [.arrive 0 [door (.subscribe ["http://a"]), lamp], go 0, go 0, go 0]
    let start := Traffic.ofGateway (.ofConfig {} (.ofConfig config 0))
    let t := start.run moves
    let order := t.gateway.registry.resources.reverse
    let s := t.shutdownIn order
    let reopened := s.run [.arrive 1 [door .nothing], go 1]
    (∀ m ∈ moves, ∀ hub, m ≠ .meddle hub) ∧ (∀ u ∈ t.tasks, u.outcomes?.isSome = true) ∧
      order.map Resource.name = ["lamp", "door"] ∧ t.ShutsDown (start.Had moves) order ∧
      (s.gateway.hub.channel? 1).map Channel.isOpen = some false ∧
      (s.gateway.hub.channel? 0).map Channel.isOpen = some true ∧
      (reopened.edge? (.intervene 0 (.change true))).isSome = true ∧
      (reopened.step (.intervene 0 (.change true))).gateway.dispatcher.scheduled = [] ∧
      (reopened.step (.intervene 2 (.change true))).gateway.dispatcher.scheduled =
        [⟨0, "http://a", "door", true⟩] := by
  intro door lamp go config moves start t order s reopened
  have own : ∀ m ∈ moves, ∀ hub, m ≠ .meddle hub := by simp [moves, go]
  have idle : ∀ u ∈ t.tasks, u.outcomes?.isSome = true := by
    have hall : t.tasks.all (fun u => u.outcomes?.isSome) = true := by decide +kernel
    exact List.all_eq_true.mp hall
  have hdown : t.ShutsDown (start.Had moves) order :=
    (shutdown_leaves {} config 0 moves own idle).2 order (List.reverse_perm _)
  exact ⟨own, idle, by decide +kernel, hdown, by decide +kernel, by decide +kernel,
    by decide +kernel, by decide +kernel, by decide +kernel⟩

end ChannelGateway
