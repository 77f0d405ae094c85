import ChannelGateway.Proofs.Renumber
import ChannelGateway.Proofs.Spared

/-!
# A gateway that has one name only

`Gateway.Mirrors name own g g'` says that `g'` has under a name what `g` has, with the channels that
have been created for the name renumbered: the entry of the registry, the gate, the webhook list and
the channels. Nothing is said of other names. Each piece of a request for the name has a square:
from two gateways in this relation it comes to the same answer, and to two gateways in this relation
again. What happens to a channel of the name by itself has one too.

Results:
* **`Gateway.Mirrors.advance`**: the square of a request for the name.
* **`Gateway.Mirrors.intervene`**: the square of what happens to a channel of the name.
-/

namespace ChannelGateway

/-! ## Gateways -/

namespace Gateway

variable {name : String} {own : List Nat} {g g' : Gateway} {now ticket : Nat}
  {held held' : Nat → Bool} {r : Resource} {p : Progress}

/-- A gateway has under a name what another one has, with the channels renumbered. -/
structure Mirrors (name : String) (own : List Nat) (g g' : Gateway) : Prop where
  hub : g.hub.Mirrors own g'.hub
  resolve : g'.registry.resolve name = (g.registry.resolve name).map (Resource.among own)
  tickets : g'.gates.tickets name = g.gates.tickets name
  listFor : g'.subscriptions.listFor name = g.subscriptions.listFor name
  next : g'.registry.nextId = own.length + 1
  alone : ∀ {other r}, g'.registry.resolve other = some r → other = name

/-- Two gateways give a request for the name the same answer. -/
def Answers (name : String) (own : List Nat) (a a' : Gateway × Progress) : Prop :=
  a.1.Mirrors name own a'.1 ∧ a'.2 = a.2.among own

/-- The channels that have been created for a name after a request for it has gone on. -/
def grown (own : List Nat) (g g' : Gateway) : List Nat :=
  if g'.hub.created = g.hub.created then own else own ++ [g.hub.created]

/-- A resource is of the name, and its channel is on the hub. -/
structure Owns (name : String) (own : List Nat) (g : Gateway) (r : Resource) : Prop where
  name_eq : r.name = name
  mem : r.serial ∈ own
  present : (g.hub.channel? r.serial).isSome

/-- The channels stay where a hub neither creates nor forgets. -/
theorem Owns.of_ledger (h : g.Owns name own r) {hub : Hub} (he : hub.ledger = g.hub.ledger) :
    { g with hub }.Owns name own r := by
  refine ⟨h.name_eq, h.mem, ?_⟩
  have hspecs := congrArg (fun l => (l.specs.get? r.serial).isSome) he
  simp only [Hub.get?_specs, Option.isSome_map] at hspecs
  exact hspecs.trans h.present

namespace Answers

/-- No channel has been created on the way. -/
theorem stays {a a' : Gateway × Progress} (h : Answers name own a a')
    (created : a.1.hub.created = g.hub.created) : Answers name (grown own g a.1) a a' := by
  unfold grown
  rwa [if_pos created]

/-- A channel has been created on the way. -/
theorem grows {a a' : Gateway × Progress} (h : Answers name (own ++ [g.hub.created]) a a')
    (created : a.1.hub.created = g.hub.created + 1) : Answers name (grown own g a.1) a a' := by
  unfold grown
  rwa [if_neg (created ▸ Nat.succ_ne_self _)]

end Answers

namespace Mirrors

theorem holds (M : g.Mirrors name own g') (ticket : Nat) :
    g'.gates.holds name ticket = g.gates.holds name ticket := by
  unfold Gates.holds
  rw [M.tickets]

/-- The channel of a resource of the name. -/
theorem channelOf (M : g.Mirrors name own g') (h : g.Owns name own r) :
    g'.channelOf (r.among own) =
      (g.channelOf r).renumber (own.idxOf (g.channelOf r).serial) := by
  obtain ⟨c, hc⟩ := Option.isSome_iff_exists.mp h.present
  have hc' : g'.hub.channel? (r.among own).serial = _ := M.hub.channel h.mem hc
  unfold Gateway.channelOf
  rw [hc', hc, Option.getD_some, Option.getD_some, Hub.serial_of_channel? hc]

theorem withHub (M : g.Mirrors name own g') {hub hub' : Hub} (h : hub.Mirrors own hub') :
    { g with hub }.Mirrors name own { g' with hub := hub' } :=
  ⟨h, M.resolve, M.tickets, M.listFor, M.next, M.alone⟩

/-- What is not under the name changes, and its channels stay. -/
theorem frame (M : g.Mirrors name own g') {other : Gateway} (same : g.SameFor name other)
    (h : other.hub.Mirrors own g'.hub) : other.Mirrors name own g' := by
  refine ⟨h, ?_, M.tickets.trans same.tickets.symm, M.listFor.trans same.listFor.symm, M.next,
    M.alone⟩
  rw [same.resolve, M.resolve]

theorem enter (M : g.Mirrors name own g') (ticket : Nat) :
    { g with gates := g.gates.enter name ticket }.Mirrors name own
      { g' with gates := g'.gates.enter name ticket } := by
  refine ⟨M.hub, M.resolve, ?_, M.listFor, M.next, M.alone⟩
  rw [Gates.tickets_enter, Gates.tickets_enter, if_pos rfl, if_pos rfl, M.tickets]

theorem leaveGate (M : g.Mirrors name own g') (ticket : Nat) :
    (g.leaveGate name ticket).Mirrors name own (g'.leaveGate name ticket) := by
  refine ⟨M.hub, M.resolve, ?_, M.listFor, M.next, M.alone⟩
  refine (Gates.tickets_leave ..).trans ?_
  rw [if_pos rfl, M.tickets]
  exact ((Gates.tickets_leave ..).trans (if_pos rfl)).symm

/-! ### Squares -/

/-- Using a resource of the name. -/
theorem follow (M : g.Mirrors name own g') (h : g.Owns name own r) (now : Nat)
    (followup : Followup) :
    Answers name own (g.follow now r followup) (g'.follow now (r.among own) followup) := by
  cases followup with
  | nothing => exact ⟨M, rfl⟩
  | subscribe urls =>
    have hname := h.name_eq
    refine ⟨⟨M.hub, M.resolve, M.tickets, ?_, M.next, M.alone⟩, rfl⟩
    refine (Subscriptions.listFor_subscribeAll ..).trans ?_
    refine .trans ?_ (Subscriptions.listFor_subscribeAll ..).symm
    rw [if_pos hname, if_pos (show (r.among own).name = name from hname), hname]
    exact congrArg (· ++ urls) (hname ▸ M.listFor)
  | write w =>
    obtain ⟨hstatus, hhub⟩ := M.hub.startWrite now (g.channelOf r) w
    simp only [Gateway.follow]
    rw [M.channelOf h]
    generalize g.hub.startWrite now (g.channelOf r) w = result at hstatus hhub ⊢
    generalize g'.hub.startWrite now _ w = result' at hstatus hhub ⊢
    obtain ⟨hub, status⟩ := result
    obtain ⟨hub', status'⟩ := result'
    dsimp only at hstatus hhub
    subst hstatus
    rcases status' with (_ | _) | _ <;> exact ⟨M.withHub hhub, rfl⟩

/-- Registering a resource of the name, and using it. -/
theorem register (M : g.Mirrors name own g') (h : g.Owns name own r) (now ticket : Nat)
    (followup : Followup) :
    Answers name own (g.register now ticket r followup)
      (g'.register now ticket (r.among own) followup) := by
  have hname := h.name_eq
  have hinsert : ({ g with registry := g.registry.insert r } : Gateway).Mirrors name own
      { g' with registry := g'.registry.insert (r.among own) } := by
    refine ⟨M.hub, ?_, M.tickets, M.listFor, M.next, fun {other s} hs => ?_⟩
    · refine (Registry.resolve_insert ..).trans ?_
      refine .trans ?_ (congrArg (Option.map _) (Registry.resolve_insert ..)).symm
      rw [if_pos hname, if_pos (show (r.among own).name = name from hname)]
      rfl
    · rw [Registry.resolve_insert] at hs
      split at hs
      · rename_i hother
        exact hother.symm.trans hname
      · exact M.alone hs
  subst hname
  exact (hinsert.leaveGate ticket).follow ⟨rfl, h.mem, h.present⟩ now followup

/-- Giving up a channel of the name. -/
theorem abandon (M : g.Mirrors name own g') (h : g.Owns name own r) (ticket : Nat)
    (f : HubFailure) :
    Answers name own (g.abandon ticket r f) (g'.abandon ticket (r.among own) f) := by
  obtain ⟨-, hhub⟩ := M.hub.startClose (g.channelOf r)
  unfold Gateway.abandon
  rw [M.channelOf h]
  obtain rfl := h.name_eq
  exact ⟨(M.withHub hhub).leaveGate ticket, rfl⟩

/-- Closing the name. -/
theorem close (M : g.Mirrors name own g')
    (h : ∀ {r}, g.registry.resolve name = some r → g.Owns name own r) (ticket : Nat) :
    Answers name own (g.close ticket name) (g'.close ticket name) := by
  have hr' := M.resolve
  unfold Gateway.close
  cases hr : g.registry.resolve name with
  | none =>
    rw [hr] at hr'
    rw [hr']
    exact ⟨M.leaveGate ticket, rfl⟩
  | some r =>
    rw [hr] at hr'
    rw [hr']
    obtain ⟨-, hhub⟩ := M.hub.startClose (g.channelOf r)
    dsimp only [Option.map_some]
    rw [M.channelOf (h hr)]
    rw [Hub.startClose_silent M.hub.silent, Hub.startClose_silent M.hub.silent'] at hhub ⊢
    dsimp only at hhub ⊢
    rw [Registry.removeIfBound_bound hr, Registry.removeIfBound_bound hr']
    have hdrop : ({ g with
          hub := g.hub.modify (g.channelOf r).serial Channel.disconnect
          registry := g.registry.drop name r.id } : Gateway).Mirrors name own
        { g' with
          hub := g'.hub.modify (own.idxOf (g.channelOf r).serial) Channel.disconnect
          registry := g'.registry.drop name (r.among own).id } := by
      refine ⟨hhub, ?_, M.tickets, M.listFor, M.next, fun {other s} hs => ?_⟩
      · refine (Registry.resolve_drop ..).trans ((if_pos rfl).trans ?_)
        exact (congrArg (Option.map _) ((Registry.resolve_drop ..).trans (if_pos rfl))).symm
      · rw [Registry.resolve_drop] at hs
        split at hs
        · cases hs
        · exact M.alone hs
    exact ⟨hdrop.leaveGate ticket, rfl⟩

/-- Creating a channel for the name: the hubs afterwards, and the resource. -/
theorem enlist (M : g.Mirrors name own g') (request : OpenRequest)
    (free : g.registry.resolve name = none)
    (hheld : ∀ serial ∈ own, g.holds held serial = true →
      g'.holds held' (own.idxOf serial) = true) :
    (g.enlist held request).Mirrors name (own ++ [g.hub.created]) (g'.enlist held' request) ∧
      g'.newcomer request = (g.newcomer request).among (own ++ [g.hub.created]) := by
  have hnew : g.hub.created ∉ own := fun hmem => Nat.lt_irrefl _ (M.hub.given _ hmem)
  have hlast : (own ++ [g.hub.created]).idxOf g.hub.created = own.length := by
    rw [List.idxOf_append_of_notMem hnew]
    simp
  have hnewcomer : g'.newcomer request =
      (g.newcomer request).among (own ++ [g.hub.created]) := by
    unfold newcomer Resource.among
    rw [hlast, M.next, M.hub.created]
  refine ⟨⟨?_, ?_, M.tickets, M.listFor, ?_, M.alone⟩, hnewcomer⟩
  · have hcreate := M.hub.create (g.newcomer request).spec hheld
    have hspec : (g'.newcomer request).spec =
        { (g.newcomer request).spec with id := own.length + 1 } := by
      unfold newcomer
      rw [M.next]
    unfold Gateway.enlist
    dsimp only
    rwa [hspec]
  · have hresolve := M.resolve
    have hfree : (g.enlist held request).registry.resolve name = none := free
    rw [free] at hresolve
    rw [hfree]
    exact hresolve
  · rw [List.length_append]
    exact congrArg (· + 1) M.next

end Mirrors

/-- Creating a channel for a request, in terms of what beginning to open it comes to. -/
theorem create_eq (g : Gateway) (now : Nat) (held : Nat → Bool) (ticket : Nat)
    (request : OpenRequest) (followup : Followup) :
    g.create now held ticket request followup =
      match g.attempt now held request with
      | (hub, _, .finished (.ok _)) =>
        { g.enlist held request with hub }.register now ticket (g.newcomer request) followup
      | (hub, _, .finished (.error f)) =>
        { g.enlist held request with hub }.abandon ticket (g.newcomer request) f
      | (hub, _, .waiting w) =>
        ({ g.enlist held request with hub }, .opening (g.newcomer request) followup w) := by
  rcases hattempt : g.attempt now held request with ⟨hub, events, status⟩
  have hevents := Hub.startOpen_events hattempt
  -- `attempt` is how `create` begins the opening
  unfold attempt enlist newcomer Registry.takeId at hattempt
  unfold create Registry.takeId
  dsimp only at hattempt ⊢
  rw [hattempt]
  rcases status with (_ | _) | _ <;> (dsimp only; rw [observeAll_attached _ hevents]; rfl)

theorem created_create (g : Gateway) (now : Nat) (held : Nat → Bool) (ticket : Nat)
    (request : OpenRequest) (followup : Followup) :
    (g.create now held ticket request followup).1.hub.created = g.hub.created + 1 := by
  rcases hattempt : g.attempt now held request with ⟨hub, events, status⟩
  have hledger := ledger_attempt hattempt
  rw [create_eq, hattempt]
  rcases status with (f | reply) | w
  · have habandon := ledger_abandon { g.enlist held request with hub } ticket
      (g.newcomer request) f
    exact congrArg Ledger.created (habandon.trans hledger)
  · have hregister := ledger_register { g.enlist held request with hub } now ticket
      (g.newcomer request) followup
    exact congrArg Ledger.created (hregister.trans hledger)
  · exact congrArg Ledger.created hledger

theorem created_close (g : Gateway) (ticket : Nat) (name : String) :
    (g.close ticket name).1.hub.created = g.hub.created := by
  unfold close
  cases g.registry.resolve name with
  | none => rfl
  | some r =>
    have hledger := g.hub.ledger_startClose (g.channelOf r)
    dsimp only
    generalize g.hub.startClose (g.channelOf r) = result at hledger ⊢
    obtain ⟨hub, status⟩ := result
    rcases status with (_ | _) | _ <;> exact congrArg Ledger.created hledger

/-- Going on with a request that has waited for its channel to attach. -/
theorem advance_opening {r : Resource} {followup : Followup} {w : Waiting} (g : Gateway)
    (held : Nat → Bool) (ticket : Nat) (due : w.due ≤ now) :
    g.advance now held ticket (.opening r followup w) =
      match g.hub.resume (g.channelOf r) w with
      | (hub, _, .ok _) => some ({ g with hub }.register now ticket r followup)
      | (hub, _, .error f) => some ({ g with hub }.abandon ticket r f) := by
  simp only [advance, if_pos due]
  rcases hresume : g.hub.resume (g.channelOf r) w with ⟨hub, events, result⟩
  dsimp only
  rw [observeAll_attached _ (Hub.resume_events hresume)]
  cases result <;> rfl

/-- Going on with a request that has waited for its channel to take a value. -/
theorem advance_writing {r : Resource} {w : Waiting} (g : Gateway) (held : Nat → Bool)
    (ticket : Nat) (due : w.due ≤ now) :
    g.advance now held ticket (.writing r w) =
      match g.hub.resume (g.channelOf r) w with
      | (hub, _, .ok _) => some ({ g with hub }, .done (.ok (some r)))
      | (hub, _, .error f) =>
        some ({ g with hub }, .done (.error (.deviceFailed r.name f.error))) := by
  simp only [advance, if_pos due]
  rcases hresume : g.hub.resume (g.channelOf r) w with ⟨hub, events, result⟩
  dsimp only
  rw [observeAll_attached _ (Hub.resume_events hresume)]
  cases result <;> rfl

namespace Mirrors

/-- Opening a channel that has been created for the name. -/
theorem create (M : g.Mirrors name own g') {request : OpenRequest} (hname : request.name = name)
    (free : g.registry.resolve name = none)
    (hheld : ∀ serial ∈ own, g.holds held serial = true →
      g'.holds held' (own.idxOf serial) = true) (now ticket : Nat) (followup : Followup) :
    Answers name (own ++ [g.hub.created]) (g.create now held ticket request followup)
      (g'.create now held' ticket request followup) := by
  obtain ⟨henlist, hnewcomer⟩ := M.enlist request free hheld
  have howns : (g.enlist held request).Owns name (own ++ [g.hub.created]) (g.newcomer request) := by
    refine ⟨hname, List.mem_append_right _ List.mem_cons_self, ?_⟩
    exact congrArg Option.isSome (Hub.channel?_create_self _ M.hub.numbered)
  have hledger : (g.attempt now held request).1.ledger = (g.enlist held request).hub.ledger :=
    Hub.ledger_startOpen ..
  obtain ⟨hstatus, hhub⟩ := henlist.hub.startOpen now
    ((g.enlist held request).channelOf (g.newcomer request)) request.timeout
  rw [← henlist.channelOf howns, ← hnewcomer] at hstatus hhub
  change (g'.attempt now held' request).2.2 = (g.attempt now held request).2.2 at hstatus
  change Hub.Mirrors _ (g.attempt now held request).1 (g'.attempt now held' request).1 at hhub
  rw [create_eq, create_eq, hnewcomer]
  generalize g.attempt now held request = result at hstatus hhub hledger ⊢
  generalize g'.attempt now held' request = result' at hstatus hhub ⊢
  obtain ⟨hub, events, status⟩ := result
  obtain ⟨hub', events', status'⟩ := result'
  dsimp only at hstatus hhub hledger
  subst hstatus
  have hhubs := henlist.withHub hhub
  have hopened := howns.of_ledger hledger
  rcases status' with (f | reply) | w
  · exact hhubs.abandon hopened ticket f
  · exact hhubs.register hopened now ticket followup
  · exact ⟨hhubs, rfl⟩

/-- Going on with a request for the name whose ticket holds the gate. -/
theorem pass (M : g.Mirrors name own g') {job : Job} (hname : job.name = name)
    (h : ∀ {r}, g.registry.resolve name = some r → g.Owns name own r)
    (hheld : ∀ serial ∈ own, g.holds held serial = true →
      g'.holds held' (own.idxOf serial) = true) (now ticket : Nat) :
    Answers name (grown own g (g.pass now held ticket job).1) (g.pass now held ticket job)
      (g'.pass now held' ticket job) := by
  cases job with
  | close other =>
    obtain rfl : other = name := hname
    exact (M.close h ticket).stays (g.created_close ticket other)
  | use request followup =>
    replace hname : request.name = name := hname
    have hr' := M.resolve
    unfold Gateway.pass
    dsimp only
    rw [hname]
    cases hr : g.registry.resolve name with
    | some r =>
      rw [hr] at hr'
      rw [hr']
      have howns : (g.leaveGate name ticket).Owns name own r :=
        ⟨(h hr).name_eq, (h hr).mem, (h hr).present⟩
      exact ((M.leaveGate ticket).follow howns now followup).stays
        (congrArg Prod.snd (frame_follow ..))
    | none =>
      rw [hr] at hr'
      rw [hr']
      dsimp only [Option.map_none]
      by_cases hmissing : request.address.isMissing = true
      · rw [if_pos hmissing, if_pos hmissing]
        exact Answers.stays (a := (g.leaveGate name ticket, _)) ⟨M.leaveGate ticket, rfl⟩ rfl
      · rw [if_neg hmissing, if_neg hmissing]
        exact (M.create hname hr hheld now ticket followup).grows
          (g.created_create now held ticket request followup)

/-- Taking a ticket for the name. -/
theorem queue (M : g.Mirrors name own g') {job : Job} (hname : job.name = name)
    (h : ∀ {r}, g.registry.resolve name = some r → g.Owns name own r)
    (hheld : ∀ serial ∈ own, g.holds held serial = true →
      g'.holds held' (own.idxOf serial) = true) (now ticket : Nat) :
    Answers name (grown own g (g.queue now held ticket job).1) (g.queue now held ticket job)
      (g'.queue now held' ticket job) := by
  have henter := M.enter ticket
  have hturn := henter.holds ticket
  unfold Gateway.queue
  rw [hname]
  dsimp only at hturn ⊢
  rw [hturn]
  by_cases hholds : (g.gates.enter name ticket).holds name ticket = true
  · rw [if_pos hholds, if_pos hholds]
    exact henter.pass hname
      (fun hr => ⟨(h hr).name_eq, (h hr).mem, (h hr).present⟩) hheld now ticket
  · rw [if_neg hholds, if_neg hholds]
    exact Answers.stays (a := ({ g with gates := g.gates.enter name ticket }, _)) ⟨henter, rfl⟩ rfl

/-- Beginning a request for the name. -/
theorem begin (M : g.Mirrors name own g') {job : Job} (hname : job.name = name)
    (h : ∀ {r}, g.registry.resolve name = some r → g.Owns name own r)
    (hheld : ∀ serial ∈ own, g.holds held serial = true →
      g'.holds held' (own.idxOf serial) = true) (now ticket : Nat) :
    Answers name (grown own g (g.begin now held ticket job).1) (g.begin now held ticket job)
      (g'.begin now held' ticket job) := by
  cases job with
  | close other => exact M.queue hname h hheld now ticket
  | use request followup =>
    have hr' := M.resolve
    have hqueue := M.queue hname h hheld now ticket
    replace hname : request.name = name := hname
    unfold Gateway.begin
    dsimp only
    rw [hname]
    cases hr : g.registry.resolve name with
    | some r =>
      rw [hr] at hr'
      rw [hr']
      exact (M.follow (h hr) now followup).stays (congrArg Prod.snd (frame_follow ..))
    | none =>
      rw [hr] at hr'
      rw [hr']
      exact hqueue

/-- **The square of a request for the name**: it has to wait on both sides, or it goes on to the
same answer. -/
theorem advance (M : g.Mirrors name own g') (hname : p.name? = some name)
    (h : ∀ {r}, g.Touches p r → g.Owns name own r)
    (hheld : ∀ serial ∈ own, g.holds held serial = true →
      g'.holds held' (own.idxOf serial) = true) (now ticket : Nat) :
    Option.Rel (fun a a' => Answers name (grown own g a.1) a a') (g.advance now held ticket p)
      (g'.advance now held' ticket (p.among own)) := by
  have hresolve : ∀ {r}, g.registry.resolve name = some r → g.Owns name own r := fun hr =>
    h (.inr ⟨name, hname, hr⟩)
  cases p with
  | ready job => exact .some (M.begin (Option.some.inj hname) hresolve hheld now ticket)
  | queued job =>
    have hjob : job.name = name := Option.some.inj hname
    have hturn := M.holds ticket
    change Option.Rel _ (g.advance now held ticket (.queued job))
      (g'.advance now held' ticket (.queued job))
    simp only [Gateway.advance]
    rw [hjob, hturn]
    by_cases hholds : g.gates.holds name ticket = true
    · rw [if_pos hholds, if_pos hholds]
      exact .some (M.pass hjob hresolve hheld now ticket)
    · rw [if_neg hholds, if_neg hholds]
      exact .none
  | opening r followup w =>
    change Option.Rel _ (g.advance now held ticket (.opening r followup w))
      (g'.advance now held' ticket (.opening (r.among own) followup w))
    by_cases due : w.due ≤ now
    · have howns := h (.inl rfl)
      obtain ⟨hstatus, hhub⟩ := M.hub.resume (g.channelOf r) w
      have hledger := g.hub.ledger_resume (g.channelOf r) w
      rw [advance_opening g held ticket due, advance_opening g' held' ticket due, M.channelOf howns]
      generalize g.hub.resume (g.channelOf r) w = result at hstatus hhub hledger ⊢
      generalize g'.hub.resume _ w = result' at hstatus hhub ⊢
      obtain ⟨hub, events, answer⟩ := result
      obtain ⟨hub', events', answer'⟩ := result'
      dsimp only at hstatus hhub hledger
      subst hstatus
      have hhubs := M.withHub hhub
      have hcreated := congrArg Ledger.created hledger
      cases answer' with
      | ok reply =>
        exact .some (((hhubs.register (howns.of_ledger hledger) now ticket followup).stays
          ((congrArg Prod.snd (frame_register ..)).trans hcreated)))
      | error f =>
        exact .some (((hhubs.abandon (howns.of_ledger hledger) ticket f).stays
          ((congrArg Prod.snd (frame_abandon ..)).trans hcreated)))
    · simp only [Gateway.advance, if_neg due]
      exact .none
  | writing r w =>
    change Option.Rel _ (g.advance now held ticket (.writing r w))
      (g'.advance now held' ticket (.writing (r.among own) w))
    by_cases due : w.due ≤ now
    · have howns := h (.inl rfl)
      obtain ⟨hstatus, hhub⟩ := M.hub.resume (g.channelOf r) w
      have hledger := g.hub.ledger_resume (g.channelOf r) w
      rw [advance_writing g held ticket due, advance_writing g' held' ticket due, M.channelOf howns]
      generalize g.hub.resume (g.channelOf r) w = result at hstatus hhub hledger ⊢
      generalize g'.hub.resume _ w = result' at hstatus hhub ⊢
      obtain ⟨hub, events, answer⟩ := result
      obtain ⟨hub', events', answer'⟩ := result'
      dsimp only at hstatus hhub hledger
      subst hstatus
      have hcreated := congrArg Ledger.created hledger
      cases answer' <;> exact .some (Answers.stays ⟨M.withHub hhub, rfl⟩ hcreated)
    · simp only [Gateway.advance, if_neg due]
      exact .none
  | done outcome => cases hname

end Mirrors

/-- The square of giving up a request for the name. -/
theorem Mirrors.cancel (M : g.Mirrors name own g')
    (hname : ∀ {other}, p.name? = some other → other = name) (ticket : Nat) :
    (g.cancel ticket p).Mirrors name own (g'.cancel ticket (p.among own)) := by
  cases p with
  | queued job =>
    obtain rfl := hname rfl
    exact M.leaveGate ticket
  | opening r followup w =>
    obtain rfl := hname rfl
    exact M.leaveGate ticket
  | _ => exact M

/-! ## What happens to channels -/

/-- Events of the hub leave the subscriptions. -/
theorem subscriptions_observeAll (g : Gateway) (events : List HubEvent) :
    (g.observeAll events).subscriptions = g.subscriptions := by
  induction events generalizing g with
  | nil => rfl
  | cons e rest ih =>
    refine (ih (g.observe e)).trans ?_
    cases e with
    | changed id state =>
      unfold observe
      dsimp only
      split <;> rfl
    | _ => rfl

namespace Mirrors

/-- Events that detach nothing. -/
theorem observeAll_quiet (M : g.Mirrors name own g') {events events' : List HubEvent}
    (quiet : ∀ id, .detached id ∉ events) (quiet' : ∀ id, .detached id ∉ events') :
    (g.observeAll events).Mirrors name own (g'.observeAll events') := by
  obtain ⟨d, hd⟩ := g.observeAll_of_quiet quiet
  obtain ⟨d', hd'⟩ := g'.observeAll_of_quiet quiet'
  rw [hd, hd']
  exact ⟨M.hub, M.resolve, M.tickets, M.listFor, M.next, M.alone⟩

/-- A channel of the name is detached. -/
theorem observeAll_detached (M : g.Mirrors name own g') (hc : g.registry.Consistent)
    (hc' : g'.registry.Consistent)
    (h : ∀ {r}, g.registry.resolve name = some r → r.serial ∈ own ∧ r.id = r.serial + 1)
    (serial : Nat) :
    (g.observeAll [.detached (serial + 1)]).Mirrors name own
      (g'.observeAll [.detached (own.idxOf serial + 1)]) := by
  have hloses := Registry.removal_loses (g'.registry.removal_channel (own.idxOf serial + 1))
  refine ⟨M.hub, ?_, M.tickets, M.listFor, hloses.1.trans M.next, fun hs => M.alone (hloses.2 hs)⟩
  · refine (resolve_detached hc' _ name).trans ?_
    refine .trans ?_ (congrArg (Option.map _) (resolve_detached hc _ name)).symm
    rw [M.resolve]
    cases hr : g.registry.resolve name with
    | none => rfl
    | some r =>
      obtain ⟨hrmem, hrid⟩ := h hr
      have hid : (r.among own).id = own.idxOf r.serial + 1 := rfl
      by_cases hs : r.serial = serial
      · simp [Option.filter, hid, hrid, hs]
      · have hidx : own.idxOf r.serial ≠ own.idxOf serial := fun he =>
          hs ((List.idxOf_inj hrmem).mp he)
        simp [Option.filter, hid, hrid, hs, hidx]

/-- **The square of what happens to a channel of the name** by itself. -/
theorem intervene (M : g.Mirrors name own g') (hc : g.registry.Consistent)
    (hc' : g'.registry.Consistent)
    (h : ∀ {r}, g.registry.resolve name = some r → r.serial ∈ own ∧ r.id = r.serial + 1)
    {c : Channel} (hid : c.spec.id = c.serial + 1) {what : Intervention}
    (hwhat : ∀ io, what ≠ .operate io) (now : Nat) :
    let n := own.idxOf c.serial
    let after := g.hub.intervene now c what
    let after' := g'.hub.intervene now (c.renumber n) what
    ({ g with hub := after.1 }.observeAll after.2.1).Mirrors name own
        ({ g' with hub := after'.1 }.observeAll after'.2.1) ∧
      after'.2.2 = after.2.2.renumber n := by
  dsimp only
  cases what with
  | change state =>
    generalize hren : c.renumber (own.idxOf c.serial) = c'
    have hsame : c'.spec.kind = c.spec.kind ∧ c'.attached = c.attached ∧ c'.state = c.state ∧
        c'.serial = own.idxOf c.serial := by
      subst hren
      exact ⟨rfl, rfl, rfl, rfl⟩
    have hunsupported : c'.unsupported "simulate_state_change" =
        c.unsupported "simulate_state_change" := by rw [← hren, Channel.renumber_unsupported]
    have hnotAttached : c'.notAttached = c.notAttached := by
      rw [← hren, Channel.renumber_notAttached]
    simp only [Hub.intervene, Hub.changeInput]
    rw [hsame.1, hsame.2.1, hsame.2.2.1, hsame.2.2.2, hunsupported, hnotAttached]
    split_ifs
    · exact ⟨M, rfl⟩
    · exact ⟨M, rfl⟩
    · exact ⟨M, rfl⟩
    · have hhub := M.hub.modify c.serial (f := fun c => { c with state }) (fun _ => rfl)
        fun _ _ => rfl
      exact ⟨(M.withHub hhub).observeAll_quiet (by simp) (by simp), rfl⟩
  | detach =>
    have hhub := M.hub.modify c.serial (f := fun c => { c with attached := false }) (fun _ => rfl)
      fun _ _ => rfl
    have hdetached := (M.withHub hhub).observeAll_detached hc hc' h c.serial
    rw [← hid] at hdetached
    exact ⟨hdetached, rfl⟩
  | attach =>
    have hhub := M.hub.modify c.serial (f := fun c => { c with attached := true }) (fun _ => rfl)
      fun _ _ => rfl
    generalize hren : c.renumber (own.idxOf c.serial) = c'
    have hsame : c'.isOpen = c.isOpen ∧ c'.serial = own.idxOf c.serial := by
      subst hren
      exact ⟨rfl, rfl⟩
    simp only [Hub.intervene, Hub.reattach]
    rw [hsame.1, hsame.2]
    split_ifs
    · exact ⟨(M.withHub hhub).observeAll_quiet (by simp) (by simp), rfl⟩
    · exact ⟨M, rfl⟩
  | fault code text =>
    exact ⟨M.observeAll_quiet (by simp [Hub.intervene, Hub.raise])
      (by simp [Hub.intervene, Hub.raise]), rfl⟩
  | inspect => exact ⟨M, rfl⟩
  | operate io => exact absurd rfl (hwhat io)

/-! ## Shutting down -/

/-- Which channels of the name are registered. -/
theorem registers (M : g.Mirrors name own g') (hc : g.registry.Consistent)
    (hc' : g'.registry.Consistent)
    (h : ∀ {r}, g.registry.resolve r.name = some r → (r.serial ∈ own ↔ r.name = name))
    {serial : Nat}
    (hmem : serial ∈ own) : g'.registers (own.idxOf serial) = g.registers serial := by
  have hresolve := M.resolve
  unfold Gateway.registers
  rw [Bool.eq_iff_iff, List.any_eq_true, List.any_eq_true]
  simp only [decide_eq_true_eq]
  constructor
  · rintro ⟨r', hr', hs⟩
    have hfound' := hc'.resolve_of_mem hr'
    rw [M.alone hfound', hresolve] at hfound'
    obtain ⟨r, hr, rfl⟩ := Option.map_eq_some_iff.mp hfound'
    have hname := hc.name_eq hr
    have hrmem := (h (hname ▸ hr)).mpr hname
    exact ⟨r, List.mem_map.mpr ⟨(name, r), Table.mem_of_get? hr, rfl⟩,
      (List.idxOf_inj hrmem).mp hs⟩
  · rintro ⟨r, hr, rfl⟩
    have hfound := hc.resolve_of_mem hr
    rw [(h hfound).mp hmem] at hfound
    rw [hfound] at hresolve
    exact ⟨r.among own,
      List.mem_map.mpr ⟨(name, r.among own), Table.mem_of_get? hresolve, rfl⟩, rfl⟩

/-- **The square of shutting down.** -/
theorem shutdown (M : g.Mirrors name own g') (hc : g.registry.Consistent)
    (hc' : g'.registry.Consistent)
    (h : ∀ {r}, g.registry.resolve r.name = some r → (r.serial ∈ own ↔ r.name = name)) :
    g.shutdown.Mirrors name own g'.shutdown := by
  rw [shutdown_silent M.hub.silent, shutdown_silent M.hub.silent']
  exact ⟨M.hub.disconnects fun serial hs => M.registers hc hc' h hs, rfl, M.tickets, M.listFor,
    M.next, fun hs => by cases hs⟩

end Mirrors

end Gateway

end ChannelGateway
