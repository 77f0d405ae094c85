import ChannelGateway.Proofs.Apart
import ChannelGateway.Proofs.Usable

/-!
# Moves that have nothing to do with a name

`Move.spares name t` tells whether a move, made in `t`, is about other names: a task arrives that
has no request for the name, or one goes on or is given up that has none left; something happens to
a channel that is not that of the name; time passes, the open names are listed, webhooks are
delivered. What the gateway has under the name, `Gateway.under`, is its resource and the resource's
channel as the hub has it. The frame of a request (`Gateway.SameFor`, `Gateway.KeepsChannel`) and
the invariants that keep channels apart (`Backed`, `Orderly`) make a frame of whole runs.

Results:
* `Traffic.IsCoupled.run`: the invariants together, over every run that operates no channel
  directly.
* **`Traffic.under_step`**, **`Traffic.under_run`**: moves that spare a name leave what is under it.
-/

namespace ChannelGateway

/-! ## The invariants together -/

/-- The gateway agrees with where the tasks stand, with its hub, and has a channel for each name in
use. -/
structure Traffic.IsCoupled (config : HubConfig) (t : Traffic) : Prop where
  orderly : t.IsOrderly
  sound : Sound config t.gateway.hub t.gateway.registry t.standing
  backed : t.IsBacked

namespace Traffic.IsCoupled

variable {config : HubConfig} {t : Traffic}

theorem step (h : t.IsCoupled config) {m : Move} (own : m.isForeign = false) :
    (t.step m).IsCoupled config where
  orderly := h.orderly.step m
  sound := h.sound.step h.orderly own
  backed := h.backed.step fun hub he => by
    subst he
    cases own

theorem run (h : t.IsCoupled config) {moves : List Move}
    (own : ∀ m ∈ moves, m.isForeign = false) : (t.run moves).IsCoupled config :=
  run_induction_of h (fun _ _ own h => h.step own) own

theorem ofConfig (gateway : GatewayConfig) (config : HubConfig) (seed : UInt64) :
    (ofGateway (.ofConfig gateway (.ofConfig config seed))).IsCoupled config :=
  ⟨isOrderly_run gateway _ [], Sound.ofConfig gateway config seed,
    IsBacked.run gateway config seed fun m (hm : m ∈ []) => nomatch hm⟩

theorem consistent (h : t.IsCoupled config) : t.gateway.registry.Consistent :=
  Orderly.consistent h.orderly

/-- The identity of a channel comes with its serial number. -/
theorem id_channel (h : t.IsCoupled config) {serial : Nat} {c : Channel}
    (hc : t.gateway.hub.channel? serial = some c) : c.spec.id = serial + 1 :=
  Backed.id_channel h.backed hc

end Traffic.IsCoupled

/-! ## What is under a name -/

/-- What happens to a channel by itself leaves the others. -/
theorem Hub.channel?_disturbance {h hub : Hub} {c : Channel} {events : List HubEvent} {serial : Nat}
    (hd : Disturbance h c (hub, events)) (hne : serial ≠ c.serial) :
    hub.channel? serial = h.channel? serial := by
  cases hd with
  | still _ quiet => rfl
  | changed state => exact channel?_modify_of_ne _ hne fun _ => rfl
  | detached => exact channel?_modify_of_ne _ hne fun _ => rfl
  | attached isOpen => exact channel?_modify_of_ne _ hne fun _ => rfl

namespace Gateway

variable {g g' : Gateway} {held : Nat → Bool} {name : String}

/-- The resource of a name, and its channel as the hub has it. -/
def under (g : Gateway) (name : String) : Option (Resource × Option Channel) :=
  (g.registry.resolve name).map fun r => (r, g.hub.channel? r.serial)

theorem resource_under (g : Gateway) (name : String) :
    (g.under name).map Prod.fst = g.registry.resolve name := by
  unfold under
  cases g.registry.resolve name <;> rfl

theorem under_eq_none {g : Gateway} {name : String} :
    g.under name = none ↔ g.registry.resolve name = none := by
  unfold under
  rw [Option.map_eq_none_iff]

theorem under_of_resolve {r : Resource} (hr : g.registry.resolve name = some r) :
    g.under name = some (r, g.hub.channel? r.serial) := by
  unfold under
  rw [hr]
  rfl

theorem of_under {r : Resource} {c : Option Channel} (he : g.under name = some (r, c)) :
    g.registry.resolve name = some r ∧ g.hub.channel? r.serial = c := by
  obtain ⟨s, hs, heq⟩ := Option.map_eq_some_iff.mp he
  cases heq
  exact ⟨hs, rfl⟩

/-- What is under a name is the same if its resource is, and the resource's channel. -/
theorem under_congr (resolve : g'.registry.resolve name = g.registry.resolve name)
    (channel : ∀ {r}, g.registry.resolve name = some r →
      g'.hub.channel? r.serial = g.hub.channel? r.serial) : g'.under name = g.under name := by
  cases hr : g.registry.resolve name with
  | none => rw [under_eq_none.mpr hr, under_eq_none.mpr (resolve.trans hr)]
  | some r => rw [under_of_resolve hr, under_of_resolve (resolve.trans hr), channel hr]

/-- The registry holds the channels of its resources. -/
theorem holds_of_resolve (held : Nat → Bool) {r : Resource}
    (hr : g.registry.resolve name = some r) : g.holds held r.serial = true := by
  have hregisters : g.registers r.serial = true :=
    List.any_eq_true.mpr ⟨r, List.mem_map.mpr ⟨(name, r), Table.mem_of_get? hr, rfl⟩, by simp⟩
  unfold holds
  rw [hregisters, Bool.true_or]

/-- A request does not touch the channels of the known resources of other names. -/
theorem serial_ne_of_touches {standing : Nat → Option Progress} {ticket : Nat} {p : Progress}
    (hb : Backed g.hub.ledger g.registry standing) (hc : g.registry.Consistent)
    (hs : standing ticket = some p) {r s : Resource} (hr : Known g.registry standing r)
    (hname : p.name? ≠ some r.name) (hts : g.Touches p s) : r.serial ≠ s.serial := by
  intro he
  rcases hts with hp | ⟨other, hother, hresolve⟩
  · obtain rfl := hb.inj hr (Backed.known_standing hs hp) he
    exact hname (Progress.name?_of_resource? hp)
  · obtain rfl := hb.inj hr (Backed.known_resolve hresolve) he
    rw [hc.name_eq hresolve] at hname
    exact hname hother

/-! ## Events -/

/-- Events that detach nothing change nothing but what is to be delivered. -/
theorem observeAll_of_quiet (g : Gateway) {events : List HubEvent}
    (quiet : ∀ id, .detached id ∉ events) :
    ∃ dispatcher, g.observeAll events = { g with dispatcher } := by
  induction events generalizing g with
  | nil => exact ⟨g.dispatcher, rfl⟩
  | cons e rest ih =>
    have hrest : ∀ id, .detached id ∉ rest := fun id hid => quiet id (List.mem_cons_of_mem e hid)
    have hfirst : ∃ dispatcher, g.observe e = { g with dispatcher } := by
      cases e with
      | detached id => exact absurd List.mem_cons_self (quiet id)
      | changed id state =>
        unfold observe
        dsimp only
        split
        · exact ⟨_, rfl⟩
        · exact ⟨g.dispatcher, rfl⟩
      | _ => exact ⟨g.dispatcher, rfl⟩
    obtain ⟨d, hd⟩ := hfirst
    obtain ⟨d', hd'⟩ := ih (g.observe e) hrest
    refine ⟨d', hd'.trans ?_⟩
    rw [hd]

/-- A name is forgotten when its own channel is detached, and only then. -/
theorem resolve_detached (hc : g.registry.Consistent) (id : ChannelId) (name : String) :
    (g.registry.removeChannel id).2.resolve name =
      (g.registry.resolve name).filter fun r => r.id ≠ id := by
  cases hr : g.registry.resolve name with
  | none =>
    have hloses := Registry.removal_loses (g.registry.removal_channel id)
    cases hn : (g.registry.removeChannel id).2.resolve name with
    | none => rfl
    | some r => exact absurd (hr.symm.trans (hloses.2 hn)) nofun
  | some r =>
    by_cases hid : r.id = id
    · subst hid
      simp [hc.removeChannel_self hr, Option.filter]
    · simp [(hc.removeChannel_ne hr hid).1, hid, Option.filter]

/-- What happens to a channel of another name leaves what is under a name. -/
theorem under_disturbance (hc : g.registry.Consistent) {c : Channel} {hub : Hub}
    {events : List HubEvent} (hd : Hub.Disturbance g.hub c (hub, events))
    (hother : ∀ {r}, g.registry.resolve name = some r → r.serial ≠ c.serial ∧ r.id ≠ c.spec.id) :
    ({ g with hub }.observeAll events).under name = g.under name := by
  have hchannel : ∀ {r}, g.registry.resolve name = some r →
      hub.channel? r.serial = g.hub.channel? r.serial := fun hr =>
    Hub.channel?_disturbance hd (hother hr).1
  have hhub : ({ g with hub }.observeAll events).hub = hub := hub_observeAll ..
  refine under_congr ?_ fun hr => by rw [hhub, hchannel hr]
  by_cases hdetached : ∃ id, .detached id ∈ events
  · -- the only event that detaches is the one of `c`
    have hevents : events = [.detached c.spec.id] := by
      obtain ⟨id, hid⟩ := hdetached
      cases hd with
      | still _ quiet => exact absurd hid (quiet id)
      | changed state => simp at hid
      | attached isOpen => simp at hid
      | detached => rfl
    rw [hevents]
    refine (resolve_detached hc c.spec.id name).trans ?_
    cases hr : g.registry.resolve name with
    | none => rfl
    | some r => simp [(hother hr).2]
  · obtain ⟨d, hd⟩ := observeAll_of_quiet { g with hub } fun id hid => hdetached ⟨id, hid⟩
    rw [hd]

end Gateway

/-! ## Moves -/

/-- Whether a move has nothing to do with a name. -/
def Move.spares (name : String) (t : Traffic) : Move → Bool
  | arrive _ jobs => jobs.all fun job => job.name ≠ name
  | advance ticket _ => (t.task? ticket).all fun u => !u.concerns name
  | cancel ticket => (t.task? ticket).all fun u => !u.concerns name
  | intervene _ (.operate _) => false
  | intervene serial _ => (t.gateway.registry.resolve name).all fun r => r.serial ≠ serial
  | wait _ => true
  | snapshot => true
  | deliver _ => true
  | settle => true
  | _ => false

theorem Move.isForeign_of_spares {name : String} {t : Traffic} {m : Move}
    (h : m.spares name t = true) : m.isForeign = false := by
  cases m with
  | intervene serial what => cases what <;> first | rfl | cases h
  | meddle hub => cases h
  | _ => rfl

namespace Traffic

variable {config : HubConfig} {t : Traffic} {name : String}

/-- Whether moves, made one after the other, have nothing to do with a name. -/
def spares (name : String) (t : Traffic) : List Move → Bool
  | [] => true
  | m :: rest => m.spares name t && (t.step m).spares name rest

/-- A task that is not for a name leaves what is under it. -/
theorem under_advance (h : t.IsCoupled config) {ticket : Nat} (outside : Nat → Bool) {u : Task}
    (hu : t.task? ticket = some u) (hname : u.concerns name = false) :
    (t.advance ticket outside).gateway.under name = t.gateway.under name := by
  rcases advance_of_task? hu outside with ⟨-, he⟩ | ⟨g, v, ha, -, he⟩
  · rw [he]
  rw [he]
  have hstanding : t.standing ticket = some u.progress := by rw [standing, hu]; rfl
  rcases Task.advance_cases ha with ⟨_, _, _, _, _, rfl, _⟩ | ⟨p', hp, -⟩
  · rfl
  obtain ⟨hsame, -⟩ := Task.advance_apart h.consistent ha hname
  refine Gateway.under_congr hsame.resolve fun {r} hr => ?_
  have hknown : Known t.gateway.registry t.standing r := .inl ⟨name, hr⟩
  have hother : u.progress.name? ≠ some r.name := by
    rw [h.consistent.name_eq hr]
    exact (Task.concerns_eq_false_iff.mp hname).1
  have hkeeps := Gateway.advance_keepsChannel hp
    (Gateway.serial_ne_of_touches h.backed h.consistent hstanding hknown hother)
    (h.backed.lt_created hknown)
  exact hkeeps.of_holds (Gateway.holds_of_resolve _ hr)

/-- What is done to a channel of another name leaves what is under a name. -/
theorem under_intervene (h : t.IsCoupled config) {serial : Nat} {what : Intervention}
    (hwhat : ∀ io, what ≠ .operate io)
    (hother : ∀ {r}, t.gateway.registry.resolve name = some r → r.serial ≠ serial) :
    (t.intervene serial what).gateway.under name = t.gateway.under name := by
  rcases t.intervene_cases serial what with he | ⟨c, hub, events, effect, hc, hi, he⟩
  · rw [he]
  have hd := t.gateway.hub.intervene_disturbance t.now c hwhat
  rw [hi] at hd
  rw [he]
  have hserial := Hub.serial_of_channel? hc
  refine Gateway.under_disturbance h.consistent hd fun {r} hr => ?_
  have hne := hother hr
  have hid := h.id_channel hc
  have hrid := h.backed.id_eq (.inl ⟨name, hr⟩)
  rw [hserial]
  exact ⟨hne, fun he => hne (Nat.succ.inj (hrid.symm.trans (he.trans hid)))⟩

/-- **A move that spares a name leaves what is under it.** -/
theorem under_step (h : t.IsCoupled config) {m : Move} (hm : m.spares name t = true) :
    (t.step m).gateway.under name = t.gateway.under name := by
  cases m with
  | arrive ticket jobs =>
    simp only [step]
    rcases t.arrive_cases ticket jobs with he | ⟨_, _, hg, _⟩
    · rw [he]
    · rw [hg]
  | advance ticket outside =>
    simp only [step]
    cases hu : t.task? ticket with
    | none => rw [advance, hu]
    | some u =>
      rw [Move.spares, hu] at hm
      exact under_advance h outside hu (by simpa using hm)
  | cancel ticket =>
    simp only [step, cancel]
    cases hu : t.task? ticket with
    | none => rfl
    | some u =>
      rw [Move.spares, hu] at hm
      have hname : u.concerns name = false := by simpa using hm
      have hsame := t.gateway.cancel_sameFor ticket (Task.concerns_eq_false_iff.mp hname).1
      exact Gateway.under_congr hsame.resolve fun _ => by rw [Gateway.hub_cancel]
  | intervene serial what =>
    have hwhat : ∀ io, what ≠ .operate io := by
      rintro io rfl
      cases hm
    refine under_intervene h hwhat fun {r} hr => ?_
    cases what with
    | operate io => cases hm
    | _ =>
      simp only [Move.spares, hr, Option.all_some, decide_eq_true_eq] at hm
      exact hm
  | snapshot =>
    obtain ⟨i, hi⟩ := t.gateway.snapshot_snd
    simp only [step]
    rw [hi]
    rfl
  | wait ms => rfl
  | deliver receivers => rfl
  | settle => rfl
  | tell event => cases hm
  | forget other id => cases hm
  | drain => cases hm
  | shutdown => cases hm
  | meddle hub => cases hm

theorem isForeign_of_spares {moves : List Move} (h : t.spares name moves = true) :
    ∀ m ∈ moves, m.isForeign = false := by
  induction moves generalizing t with
  | nil =>
    intro m hm
    cases hm
  | cons m rest ih =>
    unfold spares at h
    rw [Bool.and_eq_true] at h
    intro m' hm'
    rcases List.mem_cons.mp hm' with rfl | hm'
    · exact Move.isForeign_of_spares h.1
    · exact ih h.2 m' hm'

/-- **A run that spares a name leaves what is under it.** -/
theorem under_run (h : t.IsCoupled config) {moves : List Move}
    (hm : t.spares name moves = true) :
    (t.run moves).gateway.under name = t.gateway.under name := by
  induction moves generalizing t with
  | nil => rfl
  | cons m rest ih =>
    unfold spares at hm
    rw [Bool.and_eq_true] at hm
    have hrest := ih (h.step (Move.isForeign_of_spares hm.1)) hm.2
    exact hrest.trans (under_step h hm.1)

end Traffic

end ChannelGateway
