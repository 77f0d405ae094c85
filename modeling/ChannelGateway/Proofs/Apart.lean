import ChannelGateway.Proofs.Backing
import ChannelGateway.Proofs.Orderly
import ChannelGateway.Proofs.Writes

/-!
# What requests for one name leave alone

A request reads and changes what the gateway has under its own name: the entry of the registry, the
gate, the subscriptions and the channel of the resource. What it shares with the requests for other
names is the count of channels, the identities, and the list of channels that the hub goes through
when it forgets some. The frame lemmas say that a piece of a request leaves everything under another
name as it was: `Gateway.SameFor` is about the name, and `Gateway.KeepsChannel` about a channel that
the request does not use. That a request for another name does not use it is where `Backed` comes
in.

Results:
* `Gateway.piece_sameFor`, `Gateway.piece_keepsChannel`: the frame of a piece.
* **`Gateway.advance_sameFor`**, **`Gateway.advance_keepsChannel`**: the frame of a call of
  `Gateway.advance`.
* `Gateway.piece_name`: a request stays with its name until it is done.
* `Task.advance_apart`: a task that is not for a name leaves what is under it, and stays apart from
  it.
-/

namespace ChannelGateway

namespace Subscriptions

theorem listFor_subscribe (s : Subscriptions) (name other url : String) :
    (s.subscribe name url).listFor other =
      if name = other then s.listFor name ++ [url] else s.listFor other := by
  unfold subscribe listFor
  rw [Table.get?_insert]
  split <;> rfl

theorem listFor_subscribeAll (s : Subscriptions) (name other : String) (urls : List String) :
    (s.subscribeAll name urls).listFor other =
      if name = other then s.listFor name ++ urls else s.listFor other := by
  induction urls generalizing s with
  | nil =>
    split
    · rename_i hn
      rw [hn, List.append_nil]
      rfl
    · rfl
  | cons url rest ih =>
    refine (ih (s.subscribe name url)).trans ?_
    rw [listFor_subscribe, if_pos rfl, listFor_subscribe]
    split
    · rw [List.append_assoc, List.singleton_append]
    · rfl

end Subscriptions

namespace Hub

variable {h : Hub} {c : Channel}

/-- The channels that were there before, after another one has been created. -/
theorem channel?_create {serial : Nat} (h : Hub) (held : Nat → Bool) (spec : ChannelSpec)
    (hne : serial ≠ h.created) :
    (h.create held spec).channel? serial = if held serial then h.channel? serial else none := by
  by_cases hheld : held serial = true
  · rw [if_pos hheld, channel?_create_of_ne spec hheld hne]
  · rw [if_neg hheld, channel?, List.find?_eq_none]
    intro c hc hserial
    rw [decide_eq_true_eq] at hserial
    subst hserial
    rcases List.mem_append.mp hc with hlive | hfresh
    · exact hheld (List.mem_filter.mp hlive).2
    · rw [List.mem_singleton.mp hfresh] at hne
      exact hne rfl

theorem channel?_startClose_of_ne (h : Hub) {serial : Nat} (hne : serial ≠ c.serial) :
    (h.startClose c).1.channel? serial = h.channel? serial := by
  have ho := h.startClose_outcome c
  generalize h.startClose c = result at ho ⊢
  cases ho with
  | failed i f => rfl
  | closed i => exact channel?_modify_of_ne _ hne (f := Channel.disconnect) fun _ => rfl

theorem channel?_startOpen_of_ne (h : Hub) (now timeout : Nat) {serial : Nat}
    (hne : serial ≠ c.serial) :
    (h.startOpen now c timeout).1.channel? serial = h.channel? serial := by
  have ho := h.startOpen_outcome now c timeout
  generalize h.startOpen now c timeout = result at ho ⊢
  cases ho with
  | opened i place => exact channel?_modify_of_ne _ hne (f := Channel.connect) fun _ => rfl
  | _ => rfl

end Hub

namespace Gateway

variable {g g' g'' : Gateway} {now ticket : Nat} {held : Nat → Bool} {name : String}
  {p p' : Progress} {serial : Nat}

/-! ## What is under a name -/

/-- Two gateways have the same under a name, its channel apart. -/
structure SameFor (name : String) (g g' : Gateway) : Prop where
  resolve : g'.registry.resolve name = g.registry.resolve name
  tickets : g'.gates.tickets name = g.gates.tickets name
  listFor : g'.subscriptions.listFor name = g.subscriptions.listFor name

namespace SameFor

theorem refl (name : String) (g : Gateway) : SameFor name g g := ⟨rfl, rfl, rfl⟩

theorem trans (h : SameFor name g g') (h' : SameFor name g' g'') : SameFor name g g'' :=
  ⟨h'.resolve.trans h.resolve, h'.tickets.trans h.tickets, h'.listFor.trans h.listFor⟩

theorem withHub (name : String) (g : Gateway) (hub : Hub) : SameFor name g { g with hub } :=
  ⟨rfl, rfl, rfl⟩

theorem leaveGate (g : Gateway) {other : String} (hne : other ≠ name) (ticket : Nat) :
    SameFor name g (g.leaveGate other ticket) :=
  ⟨rfl, (Gates.tickets_leave ..).trans (if_neg hne), rfl⟩

theorem follow (g : Gateway) (now : Nat) {r : Resource} (hne : r.name ≠ name)
    (followup : Followup) : SameFor name g (g.follow now r followup).1 := by
  refine ⟨by rw [registry_follow], by rw [gates_follow], ?_⟩
  cases followup with
  | nothing => rfl
  | subscribe urls => exact (Subscriptions.listFor_subscribeAll ..).trans (if_neg hne)
  | write w =>
    simp only [Gateway.follow]
    split <;> rfl

theorem register (g : Gateway) (now ticket : Nat) {r : Resource} (hne : r.name ≠ name)
    (followup : Followup) : SameFor name g (g.register now ticket r followup).1 := by
  have hinsert : SameFor name g { g with registry := g.registry.insert r } :=
    ⟨(Registry.resolve_insert ..).trans (if_neg hne), rfl, rfl⟩
  exact (hinsert.trans (leaveGate _ hne ticket)).trans (follow _ now hne followup)

theorem abandon (g : Gateway) (ticket : Nat) {r : Resource} (hne : r.name ≠ name)
    (f : HubFailure) : SameFor name g (g.abandon ticket r f).1 :=
  (withHub name g _).trans (leaveGate _ hne ticket)

end SameFor

/-- **A piece of a request leaves what is under another name.** -/
theorem piece_sameFor (hc : g.registry.Consistent) (hp : g.Piece now held ticket p g' p')
    (hname : p.name? ≠ some name) : SameFor name g g' := by
  have hne : ∀ {other}, p.name? = some other → other ≠ name := by
    rintro other ho rfl
    exact hname ho
  cases hp with
  | enter job => exact ⟨rfl, (Gates.tickets_enter ..).trans (if_neg (hne rfl)), rfl⟩
  | @reuse request followup r found =>
    exact .follow g now (by rw [hc.name_eq found]; exact hne rfl) followup
  | @join request followup r turn found =>
    exact (SameFor.leaveGate g (hne rfl) ticket).trans
      (.follow _ now (by rw [hc.name_eq found]; exact hne rfl) followup)
  | refuse turn free missing => exact .leaveGate g (hne rfl) ticket
  | create turn free known attempt => exact ⟨rfl, rfl, rfl⟩
  | @createOpen request followup hub events reply turn free known attempt =>
    have henlist : SameFor name g { g.enlist held request with hub } := ⟨rfl, rfl, rfl⟩
    exact henlist.trans (.register _ now ticket (r := g.newcomer request) (hne rfl) followup)
  | @createFailed request followup hub events f turn free known attempt =>
    have henlist : SameFor name g { g.enlist held request with hub } := ⟨rfl, rfl, rfl⟩
    exact henlist.trans (.abandon _ ticket (r := g.newcomer request) (hne rfl) f)
  | @attached r followup w hub events reply due result =>
    exact (SameFor.withHub name g hub).trans (.register _ now ticket (hne rfl) followup)
  | @unattached r followup w hub events f due result =>
    exact (SameFor.withHub name g hub).trans (.abandon _ ticket (hne rfl) f)
  | written due result => exact ⟨rfl, rfl, rfl⟩
  | unwritten due result => exact ⟨rfl, rfl, rfl⟩
  | notFound turn free => exact .leaveGate g (hne rfl) ticket
  | @closeFailed other r hub f turn found result =>
    exact (SameFor.withHub name g hub).trans (.leaveGate _ (hne rfl) ticket)
  | @closed other r hub reply turn found result =>
    have hdrop : SameFor name g { g with hub, registry := g.registry.drop other r.id } :=
      ⟨(Registry.resolve_drop ..).trans (if_neg (hne rfl)), rfl, rfl⟩
    exact hdrop.trans (.leaveGate _ (hne rfl) ticket)

/-- **A request that goes on leaves what is under another name.** -/
theorem advance_sameFor (hc : g.registry.Consistent)
    (ha : g.advance now held ticket p = some (g', p')) (hname : p.name? ≠ some name) :
    SameFor name g g' := by
  rcases advance_piece ha with hone | ⟨job, rfl, htwo⟩
  · exact piece_sameFor hc hone hname
  · have henter : g.Piece now held ticket (.ready job)
        { g with gates := g.gates.enter job.name ticket } (.queued job) := .enter job
    exact (piece_sameFor hc henter hname).trans (piece_sameFor hc htwo hname)

/-- Giving up a request leaves what is under another name. -/
theorem cancel_sameFor (g : Gateway) (ticket : Nat) (hname : p.name? ≠ some name) :
    SameFor name g (g.cancel ticket p) := by
  unfold cancel
  split
  · rename_i other hgate
    refine .leaveGate g ?_ ticket
    rintro rfl
    cases p <;> first | exact hname hgate | cases hgate
  · exact .refl name g

/-! ## A channel -/

/-- A channel is as it was, or nobody holds it and it has been forgotten. -/
def KeepsChannel (held : Nat → Bool) (serial : Nat) (g g' : Gateway) : Prop :=
  g'.hub.channel? serial = g.hub.channel? serial ∨
    g.holds held serial = false ∧ g'.hub.channel? serial = none

/-- A held channel is as it was. -/
theorem KeepsChannel.of_holds (h : KeepsChannel held serial g g')
    (hheld : g.holds held serial = true) : g'.hub.channel? serial = g.hub.channel? serial := by
  refine h.resolve_right fun ⟨hnot, _⟩ => ?_
  rw [hheld] at hnot
  cases hnot

/-- A channel that is there is as it was. -/
theorem KeepsChannel.of_some (h : KeepsChannel held serial g g') {c : Channel}
    (hc : g'.hub.channel? serial = some c) : g.hub.channel? serial = some c := by
  rcases h with he | ⟨-, hn⟩
  · rwa [he] at hc
  · rw [hn] at hc
    cases hc

/-- The channels that a request may change: that of its resource, and that of its name. -/
def Touches (g : Gateway) (p : Progress) (r : Resource) : Prop :=
  p.resource? = some r ∨ ∃ name, p.name? = some name ∧ g.registry.resolve name = some r

theorem channel?_follow_of_ne (g : Gateway) (now : Nat) {r : Resource} (hne : serial ≠ r.serial)
    (followup : Followup) :
    (g.follow now r followup).1.hub.channel? serial = g.hub.channel? serial := by
  have ho := follow_outcome g now r followup
  generalize g.follow now r followup = result at ho ⊢
  cases ho with
  | written i w => exact Hub.channel?_modify_of_ne _ hne fun c => by cases w <;> rfl
  | _ => rfl

theorem channel?_register_of_ne (g : Gateway) (now ticket : Nat) {r : Resource}
    (hne : serial ≠ r.serial) (followup : Followup) :
    (g.register now ticket r followup).1.hub.channel? serial = g.hub.channel? serial :=
  channel?_follow_of_ne
    (({ g with registry := g.registry.insert r } : Gateway).leaveGate r.name ticket) now hne
    followup

theorem channel?_startClose_of_ne {r : Resource} {hub : Hub} {status : IoStatus}
    (result : g.hub.startClose (g.channelOf r) = (hub, status)) (hne : serial ≠ r.serial) :
    hub.channel? serial = g.hub.channel? serial := by
  rw [← g.serial_channelOf r] at hne
  have hclose := g.hub.channel?_startClose_of_ne hne
  rwa [result] at hclose

theorem channel?_abandon_of_ne (g : Gateway) (ticket : Nat) {r : Resource}
    (hne : serial ≠ r.serial) (f : HubFailure) :
    (g.abandon ticket r f).1.hub.channel? serial = g.hub.channel? serial :=
  channel?_startClose_of_ne (g := g) (Prod.eta (g.hub.startClose (g.channelOf r))).symm hne

/-- The channels that were there before, after another one has been created and has begun to
open. -/
theorem keepsChannel_attempt {request : OpenRequest} {hub : Hub} {events : List HubEvent}
    {status : IoStatus} (attempt : g.attempt now held request = (hub, events, status))
    (hne : serial ≠ g.hub.created) :
    hub.channel? serial = g.hub.channel? serial ∨
      g.holds held serial = false ∧ hub.channel? serial = none := by
  have hopen : hub.channel? serial = (g.enlist held request).hub.channel? serial := by
    have hchannel : serial ≠ ((g.enlist held request).channelOf (g.newcomer request)).serial := by
      rw [serial_channelOf]
      exact hne
    have ho := Hub.channel?_startOpen_of_ne (g.enlist held request).hub now request.timeout hchannel
    exact (congrArg (fun result => result.1.channel? serial) attempt).symm.trans ho
  rw [hopen, show (g.enlist held request).hub.channel? serial = _ from
    Hub.channel?_create g.hub (g.holds held) (g.newcomer request).spec hne]
  cases g.holds held serial with
  | true => exact .inl rfl
  | false => exact .inr ⟨rfl, rfl⟩

/-- **A piece of a request leaves the channels that it does not touch.** -/
theorem piece_keepsChannel (hp : g.Piece now held ticket p g' p')
    (hother : ∀ {r}, g.Touches p r → serial ≠ r.serial) (hlt : serial < g.hub.created) :
    KeepsChannel held serial g g' := by
  have hne := Nat.ne_of_lt hlt
  cases hp with
  | enter job => exact .inl rfl
  | reuse found =>
    exact .inl (channel?_follow_of_ne g now (hother (.inr ⟨_, rfl, found⟩)) _)
  | @join request followup r turn found =>
    exact .inl (channel?_follow_of_ne (g.leaveGate request.name ticket) now
      (hother (.inr ⟨_, rfl, found⟩)) followup)
  | refuse turn free missing => exact .inl rfl
  | create turn free known attempt => exact keepsChannel_attempt attempt hne
  | @createOpen request followup hub events reply turn free known attempt =>
    have hregister := channel?_register_of_ne { g.enlist held request with hub } now ticket
      (r := g.newcomer request) hne followup
    unfold KeepsChannel
    rw [hregister]
    exact keepsChannel_attempt attempt hne
  | @createFailed request followup hub events f turn free known attempt =>
    have habandon := channel?_abandon_of_ne { g.enlist held request with hub } ticket
      (r := g.newcomer request) hne f
    unfold KeepsChannel
    rw [habandon]
    exact keepsChannel_attempt attempt hne
  | @attached r followup w hub events reply due result =>
    have hr : serial ≠ r.serial := hother (.inl rfl)
    exact .inl ((channel?_register_of_ne { g with hub } now ticket hr followup).trans
      (channel?_resume_of_ne result hr))
  | @unattached r followup w hub events f due result =>
    have hr : serial ≠ r.serial := hother (.inl rfl)
    exact .inl ((channel?_abandon_of_ne { g with hub } ticket hr f).trans
      (channel?_resume_of_ne result hr))
  | written due result => exact .inl (channel?_resume_of_ne result (hother (.inl rfl)))
  | unwritten due result => exact .inl (channel?_resume_of_ne result (hother (.inl rfl)))
  | notFound turn free => exact .inl rfl
  | closeFailed turn found result =>
    exact .inl (channel?_startClose_of_ne result (hother (.inr ⟨_, rfl, found⟩)))
  | closed turn found result =>
    exact .inl (channel?_startClose_of_ne result (hother (.inr ⟨_, rfl, found⟩)))

/-- **A request that goes on leaves the channels that it does not touch.** -/
theorem advance_keepsChannel (ha : g.advance now held ticket p = some (g', p'))
    (hother : ∀ {r}, g.Touches p r → serial ≠ r.serial) (hlt : serial < g.hub.created) :
    KeepsChannel held serial g g' := by
  rcases advance_piece ha with hone | ⟨job, rfl, htwo⟩
  · exact piece_keepsChannel hone hother hlt
  · exact piece_keepsChannel (g := { g with gates := g.gates.enter job.name ticket }) htwo
      (fun htouch => hother (htouch.imp_left fun h => by cases h)) hlt

/-! ## Names along a request -/

theorem name?_follow (g : Gateway) (now : Nat) (r : Resource) (followup : Followup) :
    (g.follow now r followup).2.name? = none ∨
      (g.follow now r followup).2.name? = some r.name := by
  have ho := follow_outcome g now r followup
  generalize g.follow now r followup = result at ho ⊢
  cases ho <;> simp [Progress.name?]

/-- **A request stays with its name until it is done.** -/
theorem piece_name (hc : g.registry.Consistent) (hp : g.Piece now held ticket p g' p') :
    p'.name? = none ∨ p'.name? = p.name? := by
  cases hp with
  | @reuse request followup r found =>
    have hf := name?_follow g now r followup
    rwa [hc.name_eq found] at hf
  | @join request followup r turn found =>
    have hf := name?_follow (g.leaveGate request.name ticket) now r followup
    rwa [hc.name_eq found] at hf
  | createOpen turn free known attempt => exact name?_follow ..
  | attached due result => exact name?_follow ..
  | enter job => exact .inr rfl
  | create turn free known attempt => exact .inr rfl
  | _ => exact .inl rfl

/-- A call of `Gateway.advance` stays with the name of the request until it is done. -/
theorem advance_name (hc : g.registry.Consistent)
    (ha : g.advance now held ticket p = some (g', p')) : p'.name? = none ∨ p'.name? = p.name? := by
  rcases advance_piece ha with hone | ⟨job, rfl, htwo⟩
  · exact piece_name hc hone
  · -- the name of a queued request is that of the request
    have hname : p'.name? = none ∨ p'.name? = (Progress.queued job).name? :=
      piece_name (g := { g with gates := g.gates.enter job.name ticket }) hc htwo
    exact hname

end Gateway

/-! ## Tasks -/

namespace Task

variable {g g' : Gateway} {now : Nat} {held : Nat → Bool} {name : String} {u u' : Task}

/-- Whether a task still has a request for a name. -/
def concerns (u : Task) (name : String) : Bool :=
  u.progress.name? = some name || u.rest.any fun job => job.name = name

theorem concerns_eq_false_iff :
    u.concerns name = false ↔ u.progress.name? ≠ some name ∧ ∀ job ∈ u.rest, job.name ≠ name := by
  simp [concerns]

/-- **All that a task does when it goes on**: its next request begins, or its request is
advanced. -/
theorem advance_cases (ha : u.advance now held g = some (g', u')) :
    (∃ outcome job rest, u.progress = .done outcome ∧ u.rest = job :: rest ∧ g' = g ∧
        u' = { u with progress := .ready job, rest, outcomes := u.outcomes ++ [outcome] }) ∨
      ∃ p', g.advance now held u.ticket u.progress = some (g', p') ∧
        u' = { u with progress := p' } := by
  unfold advance at ha
  split at ha
  · rename_i outcome job rest hdone hrest
    cases ha
    exact .inl ⟨outcome, job, rest, hdone, hrest, rfl, rfl⟩
  · obtain ⟨⟨_, p'⟩, hg, he⟩ := Option.map_eq_some_iff.mp ha
    cases he
    exact .inr ⟨p', hg, rfl⟩

theorem ticket_advance (ha : u.advance now held g = some (g', u')) : u'.ticket = u.ticket := by
  rcases advance_cases ha with ⟨_, _, _, _, _, _, rfl⟩ | ⟨_, _, rfl⟩ <;> rfl

/-- **A task that is not for a name leaves what is under it**, and stays apart from it. -/
theorem advance_apart (hc : g.registry.Consistent) (ha : u.advance now held g = some (g', u'))
    (hu : u.concerns name = false) : g.SameFor name g' ∧ u'.concerns name = false := by
  rw [concerns_eq_false_iff] at hu ⊢
  rcases advance_cases ha with ⟨outcome, job, rest, hdone, hrest, rfl, rfl⟩ | ⟨p', hp, rfl⟩
  · refine ⟨.refl name _, ?_, fun j hj => hu.2 j (by rw [hrest]; exact List.mem_cons_of_mem _ hj)⟩
    have hjob := hu.2 job (by rw [hrest]; exact List.mem_cons_self)
    simpa [Progress.name?] using hjob
  · refine ⟨Gateway.advance_sameFor hc hp hu.1, ?_, hu.2⟩
    rcases Gateway.advance_name hc hp with hn | hn
    · simp [hn]
    · rw [hn]
      exact hu.1

end Task

namespace Traffic

variable {t : Traffic} {ticket : Nat} {outside : Nat → Bool} {u v : Task}

/-- A task goes on, or has to wait where it is. -/
theorem advance_of_task? (hu : t.task? ticket = some u) (outside : Nat → Bool) :
    (u.advance t.now (t.held outside) t.gateway = none ∧ t.advance ticket outside = t) ∨
      ∃ g v, u.advance t.now (t.held outside) t.gateway = some (g, v) ∧ v.ticket = ticket ∧
        t.advance ticket outside = { t with gateway := g, tasks := t.replace v } := by
  unfold advance
  rw [hu]
  dsimp only
  cases ha : u.advance t.now (t.held outside) t.gateway with
  | none => exact .inl ⟨rfl, rfl⟩
  | some result =>
    exact .inr ⟨_, _, rfl, (Task.ticket_advance ha).trans (ticket_of_task? hu), rfl⟩

theorem tickets_replace (t : Traffic) (v : Task) :
    (t.replace v).map Task.ticket = t.tasks.map Task.ticket := by
  unfold replace
  rw [List.map_map]
  refine List.map_congr_left fun w _ => ?_
  dsimp only [Function.comp]
  split
  · rename_i hw
    exact hw.symm
  · rfl

theorem mem_replace {w : Task} (h : w ∈ t.replace v) :
    w = v ∨ w ∈ t.tasks ∧ w.ticket ≠ v.ticket := by
  obtain ⟨x, hx, rfl⟩ := List.mem_map.mp h
  split
  · exact .inl rfl
  · rename_i hne
    exact .inr ⟨hx, hne⟩

/-- The tasks after one has been put in the place of another. -/
theorem task?_replace (hv : t.task? ticket = some v) (hu : u.ticket = ticket) (g : Gateway) :
    ({ t with gateway := g, tasks := t.replace u } : Traffic).task? =
      Function.update t.task? ticket (some u) := by
  subst hu
  funext k
  unfold task? replace at *
  rw [find?_map_of_keeps fun w => by by_cases hw : w.ticket = u.ticket <;> simp [hw]]
  by_cases hk : k = u.ticket
  · subst hk
    have hvu : v.ticket = u.ticket := by simpa using List.find?_some hv
    rw [hv, Function.update_self]
    simp [hvu]
  · rw [Function.update_of_ne hk]
    cases hf : t.tasks.find? fun w => decide (w.ticket = k) with
    | none => rfl
    | some w =>
      have hw : w.ticket = k := by simpa using List.find?_some hf
      simp [hw, hk]

end Traffic

end ChannelGateway
