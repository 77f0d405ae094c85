import ChannelGateway.Proofs.Dispatch
import ChannelGateway.Proofs.Indexes

/-!
# Fan-out: the deliveries that a run calls for

An edge of an input calls for one delivery to each subscriber that the name of its channel has at
that moment; nothing else calls for any. The law is about whole runs: the deliveries that have
begun, followed by those that are still scheduled, are the ones that the edges of the run call for,
in order and numbered from zero. So none is lost, none is made twice, and a later subscription gets
no earlier edge.

A channel that has left the registry has no name to be found by, and identities do not come back, so
its edges call for nothing from then on, whoever has its name. This is about channels that were
registered: an event of a channel that is still being opened removes nothing, and the channel is
registered when it opens.

Results:
* `parted`: a registered channel that is closed, detached or drained leaves the registry.
* **`fan_out_exact`**: the law from the beginning, and that a channel that has left is not heard
  again.
-/

namespace ChannelGateway

/-- After an identity has been taken out, it is registered under no name. -/
theorem Registry.Consistent.nameFor_removeChannel {r : Registry} (h : r.Consistent)
    (id : ChannelId) : (r.removeChannel id).2.nameFor id = none := by
  unfold removeChannel
  cases hn : r.nameFor id with
  | none => exact hn
  | some name =>
    obtain ⟨resource, hr, rfl⟩ := h.resolve_eq hn
    dsimp only
    rw [removeIfBound_bound hr, nameFor_drop, if_pos rfl]

/-- A request to close a name that has succeeded has dropped the resource of the name. -/
theorem Gateway.closed_of_advance {g g' : Gateway} {now ticket : Nat} {held : Nat → Bool}
    {p : Progress} {name : String} (hp : p = .ready (.close name) ∨ p = .queued (.close name))
    (ha : g.advance now held ticket p = some (g', .done (.ok none))) :
    ∃ r, g.registry.resolve name = some r ∧ g'.registry = g.registry.drop name r.id := by
  obtain ⟨gates, q, hpiece, hq⟩ := advance_last ha
  obtain rfl | rfl : q = .ready (.close name) ∨ q = .queued (.close name) := by
    obtain rfl | ⟨job, hready, rfl⟩ := hq
    · exact hp
    · obtain rfl | rfl := hp <;> cases hready
      exact .inr rfl
  · cases hpiece
  · cases hpiece with
    | closed turn found result => exact ⟨_, found, rfl⟩

namespace Traffic

/-- A move closes, detaches or drains the channel with an identity. -/
inductive Parts (t : Traffic) (id : ChannelId) : Move → Prop
  /-- A request to close the name that it is registered under succeeds. -/
  | closed {ticket : Nat} {outside : Nat → Bool} {name : String}
    (bound : t.gateway.registry.nameFor id = some name)
    (stood : t.standing ticket = some (.ready (.close name)) ∨
      t.standing ticket = some (.queued (.close name)))
    (done : (t.step (.advance ticket outside)).standing ticket = some (.done (.ok none))) :
    Parts t id (.advance ticket outside)
  /-- It loses its hardware. -/
  | detached {serial : Nat} {c : Channel} (channel : t.gateway.hub.channel? serial = some c)
    (own : c.spec.id = id) : Parts t id (.intervene serial .detach)
  /-- Every name is forgotten. -/
  | drained : Parts t id .drain
  /-- Every name is forgotten, and its channel closed. -/
  | shutdown : Parts t id .shutdown

/-- A registered channel that is closed, detached or drained leaves the registry. -/
theorem parted {t : Traffic} (h : t.IsOrderly) {id : ChannelId} {m : Move} (hm : t.Parts id m) :
    (t.step m).gateway.registry.nameFor id = none := by
  have hc : t.gateway.registry.Consistent := Orderly.consistent h
  cases hm with
  | @closed ticket outside name bound stood done =>
    simp only [step] at done ⊢
    rcases t.advance_cases ticket outside with
      he | ⟨_, job, _, _, hstanding⟩ | ⟨p, g, p', hs, ha, hg, hstanding⟩
    · rw [he] at done
      obtain hs | hs := stood <;> (rw [hs] at done; cases done)
    · rw [hstanding, Function.update_self] at done
      cases done
    · rw [hstanding, Function.update_self] at done
      cases done
      have hp : p = .ready (.close name) ∨ p = .queued (.close name) := by
        rw [hs] at stood
        exact stood.imp Option.some.inj Option.some.inj
      obtain ⟨r, hr, hdrop⟩ := Gateway.closed_of_advance hp ha
      obtain ⟨r', hr', hid⟩ := hc.resolve_eq bound
      rw [hr] at hr'
      cases hr'
      rw [hg, hdrop, Registry.nameFor_drop, if_pos hid]
  | @detached serial c channel own =>
    subst own
    simp only [step, intervene, channel]
    exact hc.nameFor_removeChannel c.spec.id
  | drained => rfl
  | shutdown =>
    simp only [step]
    rw [Gateway.shutdown_eq]
    exact Registry.nameFor_drain ..

/-- An input whose identity is not registered calls for nothing. -/
theorem owed_of_unregistered {t : Traffic} {serial : Nat} {c : Channel}
    (hc : t.gateway.hub.channel? serial = some c)
    (hn : t.gateway.registry.nameFor c.spec.id = none) (state : Bool) :
    t.owed (.intervene serial (.change state)) = [] := by
  have howed : t.gateway.owed c.spec.id state = [] := by
    unfold Gateway.owed
    rw [hn]
  simp only [owed, edge?, hc]
  rcases t.gateway.hub.changeInput_cases c state with ⟨result, he, hne⟩ | ⟨_, he⟩
  · rw [he]
    dsimp only
    split
    · rename_i heq
      split at heq
      · exact absurd rfl hne
      · cases heq
    · rfl
  · rw [he]
    exact howed

end Traffic

/-- **Fan-out is exact.** After every run, the deliveries that have begun and those still scheduled
are the ones that the edges of the run call for: one to each subscriber that the name of a
registered channel has at the moment of its edge, in order and numbered from zero. A channel that
was registered and has been closed, detached or drained calls for nothing ever after. -/
theorem fan_out_exact (config : GatewayConfig) (hub : Hub) (moves : List Move)
    (own : ∀ m ∈ moves, ∀ e, m ≠ .tell e) :
    let start := Traffic.ofGateway (.ofConfig config hub)
    let t := start.run moves
    start.collect Traffic.begun moves ++ t.gateway.dispatcher.scheduled =
        Notice.deliveries 0 (start.collect Traffic.owed moves) ∧
      ∀ id name m more, t.gateway.registry.nameFor id = some name → t.Parts id m →
        let later := (t.step m).run more
        ∀ serial c state, later.gateway.hub.channel? serial = some c → c.spec.id = id →
          later.owed (.intervene serial (.change state)) = [] := by
  intro start t
  obtain ⟨notices, hnotices, hbegun⟩ := start.begun_run moves
  refine ⟨hnotices own ▸ hbegun, ?_⟩
  intro id name m more hn hm later serial c state hc hid
  subst hid
  have h : t.IsOrderly := Traffic.isOrderly_run config hub moves
  have hgone : (t.run [m]).gateway.registry.nameFor c.spec.id = none := Traffic.parted h hm
  exact Traffic.owed_of_unregistered hc (h.gone hn hgone more) state

/-- A door is opened and reports an edge. It is detached, opened again by another channel, and the
old channel gets its hardware back: an edge of it calls for nothing, an edge of the new one does. -/
theorem fan_out_exact_door :
    let door : Job := .use ⟨"door", .digitalInput, ⟨0, 0⟩, 1000⟩
      (.subscribe ["http://a", "http://a"])
    let nobody : Nat → Bool := fun _ => false
    let first : List Move := [.arrive 0 [door, door], .advance 0 nobody,
      .intervene 0 (.change true), .deliver fun _ => {}, .intervene 0 (.change true)]
    let again : List Move := [.advance 0 nobody, .advance 0 fun serial => serial = 0,
      .intervene 0 .attach]
    let start := Traffic.ofGateway (.ofConfig {} (.ofConfig {} 0))
    let opened := start.run first
    let reopened := (opened.step (.intervene 0 .detach)).run again
    (∀ m ∈ first, ∀ e, m ≠ .tell e) ∧
      start.collect Traffic.begun first ++ opened.gateway.dispatcher.scheduled =
        [⟨0, "http://a", "door", true⟩, ⟨1, "http://a", "door", true⟩] ∧
      (reopened.gateway.hub.channel? 0).map Channel.attached = some true ∧
      reopened.owed (.intervene 0 (.change false)) = [] ∧
      (reopened.owed (.intervene 1 (.change true))).length = 4 := by
  intro door nobody first again start opened reopened
  have own : ∀ m ∈ first, ∀ e, m ≠ .tell e := by simp [first]
  have hexact := fan_out_exact {} (.ofConfig {} 0) first own
  have hstart : Traffic.ofGateway (.ofConfig {} (.ofConfig {} 0)) = start := rfl
  have hopened : start.run first = opened := rfl
  have hreopened : (opened.step (.intervene 0 .detach)).run again = reopened := rfl
  simp only [hstart, hopened] at hexact
  obtain ⟨hbegun, hgone⟩ := hexact
  have hnamed : opened.gateway.registry.nameFor 1 = some "door" := by decide +kernel
  have hchannel : (opened.gateway.hub.channel? 0).map (·.spec.id) = some 1 := by decide +kernel
  obtain ⟨c, hc, hid⟩ := Option.map_eq_some_iff.mp hchannel
  have hback : (reopened.gateway.hub.channel? 0).map (·.spec.id) = some 1 := by decide +kernel
  obtain ⟨c', hc', hid'⟩ := Option.map_eq_some_iff.mp hback
  have hquiet := hgone 1 "door" _ again hnamed (.detached hc hid) 0 c' false
  rw [hreopened] at hquiet
  refine ⟨own, ?_, by decide +kernel, hquiet hc' hid', by decide +kernel⟩
  rw [hbegun]
  decide +kernel

/-- A door is detached while it is being opened. The event reaches no registered channel; the door
opens and is registered, and its next edge is delivered. -/
theorem detached_while_opening :
    let door : Job := .use ⟨"door", .digitalInput, ⟨0, 0⟩, 5000⟩ (.subscribe ["http://a"])
    let nobody : Nat → Bool := fun _ => false
    let start := Traffic.ofGateway (.ofConfig {} (.ofConfig { mode := .realistic } 0))
    let opening := start.run [.arrive 0 [door], .advance 0 nobody]
    let detached := opening.step (.intervene 0 .detach)
    let later := detached.run [.wait 250, .advance 0 nobody]
    (opening.gateway.hub.channel? 0).isSome = true ∧
      later.owed (.intervene 0 (.change true)) = [⟨"http://a", "door", true⟩] ∧
      (later.step (.intervene 0 (.change true))).gateway.dispatcher.scheduled =
        [⟨0, "http://a", "door", true⟩] := by
  decide +kernel

end ChannelGateway
