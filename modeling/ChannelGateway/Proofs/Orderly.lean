import ChannelGateway.Proofs.Traffic

/-!
# The registry and the gates agree with where the tasks stand

`Registry.Consistent` says that the two indexes of the registry are each other's inverse.
Registering a resource alone does not keep it: a name that is registered twice leaves an old
identity behind. It is kept because a resource is registered by a request that has held the gate of
the name since it found the name free. `Orderly` is the invariant that carries this: the tickets of
each gate are those of the tasks that stand at it, and a request that waits for its channel holds
the gate of a name that is not open, with an identity that nobody else has.

The invariant is about the registry, the gates and `Traffic.standing` only. What the hub does, and
who holds which channel, plays no part, so it holds of every hub.

Results:
* `Orderly.piece`: a piece of a request keeps the invariant.
* **`Traffic.IsOrderly.step`**, **`Traffic.isOrderly_run`**: so does every move, hence every run.
-/

namespace ChannelGateway

/-- The two indexes of a registry are each other's inverse, and every identity has been given
out. -/
structure Registry.Consistent (r : Registry) : Prop where
  distinct : r.byName.Distinct
  name_eq : ∀ {name resource}, r.resolve name = some resource → resource.name = name
  nameFor_eq : ∀ {name resource}, r.resolve name = some resource → r.nameFor resource.id = some name
  resolve_eq : ∀ {id name}, r.nameFor id = some name →
    ∃ resource, r.resolve name = some resource ∧ resource.id = id
  lt_nextId : ∀ {id name}, r.nameFor id = some name → id < r.nextId

namespace Registry.Consistent

variable {r : Registry}

theorem empty : Registry.empty.Consistent :=
  ⟨.nil, fun h => by simp at h, fun h => by simp at h, fun h => by simp at h,
    fun h => by simp at h⟩

theorem insert (h : r.Consistent) {resource : Resource} (free : r.resolve resource.name = none)
    (unused : r.nameFor resource.id = none) (given : resource.id < r.nextId) :
    (r.insert resource).Consistent where
  distinct := h.distinct.insert _ _
  name_eq {name other} hr := by
    rw [resolve_insert] at hr
    split at hr
    · rename_i hn
      cases hr
      exact hn
    · exact h.name_eq hr
  nameFor_eq {name other} hr := by
    rw [resolve_insert] at hr
    rw [nameFor_insert]
    split at hr
    · rename_i hn
      cases hr
      rw [if_pos rfl, hn]
    · have ho := h.nameFor_eq hr
      rw [if_neg, ho]
      rintro he
      rw [← he, unused] at ho
      cases ho
  resolve_eq {id name} hn := by
    rw [nameFor_insert] at hn
    split at hn
    · rename_i hid
      cases hn
      exact ⟨resource, by rw [resolve_insert, if_pos rfl], hid⟩
    · obtain ⟨other, hr, hid⟩ := h.resolve_eq hn
      refine ⟨other, ?_, hid⟩
      rw [resolve_insert, if_neg, hr]
      rintro rfl
      rw [free] at hr
      cases hr
  lt_nextId {id name} hn := by
    rw [nameFor_insert] at hn
    split at hn
    · rename_i hid
      exact hid ▸ given
    · exact h.lt_nextId hn

theorem drop (h : r.Consistent) {name : String} {resource : Resource}
    (bound : r.resolve name = some resource) : (r.drop name resource.id).Consistent where
  distinct := h.distinct.erase _
  name_eq {other _} hr := by
    rw [resolve_drop] at hr
    split at hr
    · cases hr
    · exact h.name_eq hr
  nameFor_eq {other kept} hr := by
    rw [resolve_drop] at hr
    split at hr
    · cases hr
    · rename_i hne
      rw [nameFor_drop, if_neg, h.nameFor_eq hr]
      intro hid
      have hn := h.nameFor_eq bound
      rw [hid, h.nameFor_eq hr] at hn
      exact hne (Option.some.inj hn).symm
  resolve_eq {id other} hn := by
    rw [nameFor_drop] at hn
    split at hn
    · cases hn
    · rename_i hne
      obtain ⟨kept, hr, hid⟩ := h.resolve_eq hn
      refine ⟨kept, ?_, hid⟩
      rw [resolve_drop, if_neg, hr]
      rintro rfl
      rw [bound] at hr
      cases hr
      exact hne hid
  lt_nextId {id other} hn := by
    rw [nameFor_drop] at hn
    split at hn
    · cases hn
    · exact h.lt_nextId hn

theorem drain (r : Registry) : r.drain.2.Consistent :=
  ⟨.nil, fun h => by simp at h, fun h => by simp at h, fun h => by simp at h,
    fun h => by simp at h⟩

theorem takeId (h : r.Consistent) : r.takeId.2.Consistent :=
  ⟨h.distinct, h.name_eq, h.nameFor_eq, h.resolve_eq,
    fun hn => Nat.lt_succ_of_lt (h.lt_nextId hn)⟩

/-- Names that hold the same channel are the same name. -/
theorem name_inj (h : r.Consistent) {name other : String} {a b : Resource}
    (ha : r.resolve name = some a) (hb : r.resolve other = some b) (hid : a.id = b.id) :
    name = other := by
  have hn := h.nameFor_eq ha
  rw [hid, h.nameFor_eq hb] at hn
  exact (Option.some.inj hn).symm

/-- The registered resources are those that their names resolve to. -/
theorem resolve_of_mem (h : r.Consistent) {resource : Resource} (hm : resource ∈ r.resources) :
    r.resolve resource.name = some resource := by
  obtain ⟨⟨name, other⟩, hentry, rfl⟩ := List.mem_map.mp hm
  have hr : r.resolve name = some other := Table.get?_of_mem h.distinct hentry
  rw [h.name_eq hr, hr]

/-- Removing an identity forgets the name that is bound to it. -/
theorem removeChannel_self (h : r.Consistent) {name : String} {resource : Resource}
    (hr : r.resolve name = some resource) :
    (r.removeChannel resource.id).2.resolve name = none := by
  unfold Registry.removeChannel
  rw [h.nameFor_eq hr]
  dsimp only
  rw [removeIfBound_bound hr, resolve_drop, if_pos rfl]

/-- Removing an identity leaves every name that is bound to another one. -/
theorem removeChannel_ne (h : r.Consistent) {name : String} {resource : Resource} {id : ChannelId}
    (hr : r.resolve name = some resource) (hne : resource.id ≠ id) :
    (r.removeChannel id).2.resolve name = some resource ∧
      (r.removeChannel id).2.nameFor resource.id = some name := by
  rcases r.removeChannel_cases id with hn | ⟨other, gone, _, hgone, hid, hs⟩
  · rw [hn]
    exact ⟨hr, h.nameFor_eq hr⟩
  · rw [hs, resolve_drop, nameFor_drop, if_neg, if_neg (Ne.symm hne)]
    · exact ⟨hr, h.nameFor_eq hr⟩
    · rintro rfl
      rw [hgone] at hr
      cases hr
      exact hne hid

end Registry.Consistent

/-- What a request that waits for its channel has: the gate of a name that is not open, and an
identity that is given out and not registered. -/
structure Registry.Awaits (registry : Registry) (gates : Gates) (ticket : Nat) (r : Resource) :
    Prop where
  turn : gates.holds r.name ticket = true
  free : registry.resolve r.name = none
  unused : registry.nameFor r.id = none
  given : r.id < registry.nextId

/-- The registry and the gates agree with where the tasks stand. -/
structure Orderly (registry : Registry) (gates : Gates) (standing : Nat → Option Progress) :
    Prop where
  consistent : registry.Consistent
  nodup : ∀ name, (gates.tickets name).Nodup
  mem_tickets : ∀ name k, k ∈ gates.tickets name ↔ (standing k).bind Progress.gate? = some name
  awaits : ∀ {k r f w}, standing k = some (.opening r f w) → registry.Awaits gates k r
  inj : ∀ {k r f w k' r' f' w'}, standing k = some (.opening r f w) →
    standing k' = some (.opening r' f' w') → r.id = r'.id → k = k'

namespace Orderly

variable {registry : Registry} {gates : Gates} {standing : Nat → Option Progress} {ticket : Nat}

theorem empty (registry : Registry) (h : registry.Consistent) :
    Orderly registry [] fun _ => none where
  consistent := h
  nodup _ := List.nodup_nil
  mem_tickets name k := by simp [Gates.tickets]
  awaits h := by simp at h
  inj h := by simp at h

/-- A task that has been put at no gate is not one that waits for its channel. -/
theorem opening_of_update {q : Option Progress} (hq : ∀ r f w, q ≠ some (.opening r f w)) {k : Nat}
    {r : Resource} {f : Followup} {w : Waiting}
    (hk : Function.update standing ticket q k = some (.opening r f w)) :
    k ≠ ticket ∧ standing k = some (.opening r f w) := by
  by_cases hkt : k = ticket
  · subst hkt
    rw [Function.update_self] at hk
    exact absurd hk (hq r f w)
  · rw [Function.update_of_ne hkt] at hk
    exact ⟨hkt, hk⟩

theorem ne_opening_of_gate {q : Option Progress} (hq : q.bind Progress.gate? = none) (r : Resource)
    (f : Followup) (w : Waiting) : q ≠ some (.opening r f w) := by
  rintro rfl
  cases hq

/-- A task that is at no gate goes to a place that is at no gate. -/
theorem stay (h : Orderly registry gates standing)
    (out : (standing ticket).bind Progress.gate? = none) {q : Option Progress}
    (hq : q.bind Progress.gate? = none) :
    Orderly registry gates (Function.update standing ticket q) where
  consistent := h.consistent
  nodup := h.nodup
  mem_tickets name k := by
    rw [h.mem_tickets]
    by_cases hk : k = ticket
    · subst hk
      rw [Function.update_self, out, hq]
    · rw [Function.update_of_ne hk]
  awaits hk := h.awaits (opening_of_update (ne_opening_of_gate hq) hk).2
  inj hk hk' := h.inj (opening_of_update (ne_opening_of_gate hq) hk).2
    (opening_of_update (ne_opening_of_gate hq) hk').2

/-- A task that is at no gate takes a ticket. -/
theorem enter (h : Orderly registry gates standing)
    (out : (standing ticket).bind Progress.gate? = none) (job : Job) :
    Orderly registry (gates.enter job.name ticket)
      (Function.update standing ticket (some (.queued job))) where
  consistent := h.consistent
  nodup name := by
    rw [Gates.tickets_enter]
    split
    · refine List.nodup_append.mpr ⟨h.nodup _, by simp, ?_⟩
      intro a ha b hb hab
      rw [List.mem_singleton] at hb
      subst hab hb
      rw [h.mem_tickets, out] at ha
      cases ha
    · exact h.nodup name
  mem_tickets name k := by
    rw [Gates.tickets_enter]
    by_cases hk : k = ticket
    · subst hk
      have hout : ∀ n, k ∉ gates.tickets n := by
        intro n hn
        rw [h.mem_tickets, out] at hn
        cases hn
      rw [Function.update_self]
      by_cases hn : job.name = name
      · simp [hn, Progress.gate?]
      · simp [hn, Progress.gate?, hout name]
    · rw [Function.update_of_ne hk, ← h.mem_tickets]
      split
      · rename_i hn
        simp [hn, hk]
      · exact Iff.rfl
  awaits {k r f w} hk := by
    have ha := h.awaits (opening_of_update (by simp) hk).2
    exact ⟨Gates.holds_enter ha.turn .., ha.free, ha.unused, ha.given⟩
  inj hk hk' := h.inj (opening_of_update (by simp) hk).2 (opening_of_update (by simp) hk').2

/-- After a ticket has been given back, the tickets are those of the tasks that stand at the
gates. -/
theorem mem_tickets_leave (h : Orderly registry gates standing) {name : String}
    (at_gate : (standing ticket).bind Progress.gate? = some name) {q : Option Progress}
    (hq : q.bind Progress.gate? = none) (other : String) (k : Nat) :
    k ∈ (gates.leave name ticket).tickets other ↔
      (Function.update standing ticket q k).bind Progress.gate? = some other := by
  rw [Gates.tickets_leave]
  by_cases hk : k = ticket
  · subst hk
    rw [Function.update_self, hq]
    refine ⟨fun hmem => ?_, fun hmem => by cases hmem⟩
    split at hmem
    · exact absurd hmem (h.nodup name).not_mem_erase
    · rename_i hn
      rw [h.mem_tickets, at_gate] at hmem
      exact absurd (Option.some.inj hmem) hn
  · rw [Function.update_of_ne hk, ← h.mem_tickets]
    split
    · rename_i hn
      rw [List.mem_erase_of_ne hk, hn]
    · exact Iff.rfl

theorem nodup_leave (h : Orderly registry gates standing) (name other : String) :
    ((gates.leave name ticket).tickets other).Nodup := by
  rw [Gates.tickets_leave]
  split
  · exact (h.nodup name).erase ticket
  · exact h.nodup other

/-- A task gives its ticket back. -/
theorem leave (h : Orderly registry gates standing) {name : String}
    (at_gate : (standing ticket).bind Progress.gate? = some name) {q : Option Progress}
    (hq : q.bind Progress.gate? = none) :
    Orderly registry (gates.leave name ticket) (Function.update standing ticket q) where
  consistent := h.consistent
  nodup := h.nodup_leave name
  mem_tickets := h.mem_tickets_leave at_gate hq
  awaits hk := by
    obtain ⟨hne, hk⟩ := opening_of_update (ne_opening_of_gate hq) hk
    have ha := h.awaits hk
    exact ⟨Gates.holds_leave ha.turn hne, ha.free, ha.unused, ha.given⟩
  inj hk hk' := h.inj (opening_of_update (ne_opening_of_gate hq) hk).2
    (opening_of_update (ne_opening_of_gate hq) hk').2

/-- A task that holds the gate of a free name is given an identity and waits for its channel. -/
theorem issue (h : Orderly registry gates standing) {name : String}
    (at_gate : (standing ticket).bind Progress.gate? = some name)
    (turn : gates.holds name ticket = true) (free : registry.resolve name = none) {r : Resource}
    (hname : r.name = name) (hid : r.id = registry.nextId) (f : Followup) (w : Waiting) :
    Orderly registry.takeId.2 gates (Function.update standing ticket (some (.opening r f w))) where
  consistent := h.consistent.takeId
  nodup := h.nodup
  mem_tickets other k := by
    rw [h.mem_tickets]
    by_cases hk : k = ticket
    · subst hk
      rw [Function.update_self, at_gate, ← hname]
      rfl
    · rw [Function.update_of_ne hk]
  awaits {k r' f' w'} hk := by
    by_cases hkt : k = ticket
    · subst hkt
      rw [Function.update_self] at hk
      cases hk
      refine ⟨by rw [hname]; exact turn, by rw [hname]; exact free, ?_, by simp [hid]⟩
      cases hn : registry.takeId.2.nameFor r.id with
      | none => rfl
      | some other =>
        have hlt := h.consistent.lt_nextId hn
        rw [hid] at hlt
        exact absurd hlt (Nat.lt_irrefl _)
    · rw [Function.update_of_ne hkt] at hk
      have ha := h.awaits hk
      exact ⟨ha.turn, ha.free, ha.unused, Nat.lt_succ_of_lt ha.given⟩
  inj {k r₁ f₁ w₁ k' r₂ f₂ w₂} hk hk' heq := by
    -- the new identity is above every one that has been given out
    by_cases hkt : k = ticket <;> by_cases hkt' : k' = ticket
    · rw [hkt, hkt']
    · subst hkt
      rw [Function.update_self] at hk
      rw [Function.update_of_ne hkt'] at hk'
      cases hk
      have hlt := (h.awaits hk').given
      rw [← heq, hid] at hlt
      exact absurd hlt (Nat.lt_irrefl _)
    · subst hkt'
      rw [Function.update_self] at hk'
      rw [Function.update_of_ne hkt] at hk
      cases hk'
      have hlt := (h.awaits hk).given
      rw [heq, hid] at hlt
      exact absurd hlt (Nat.lt_irrefl _)
    · rw [Function.update_of_ne hkt] at hk
      rw [Function.update_of_ne hkt'] at hk'
      exact h.inj hk hk' heq

/-- The channel that a task waits for has opened: its resource is registered, and the gate given
back. -/
theorem register (h : Orderly registry gates standing) {r : Resource} {f : Followup} {w : Waiting}
    (hs : standing ticket = some (.opening r f w)) {q : Option Progress}
    (hq : q.bind Progress.gate? = none) :
    Orderly (registry.insert r) (gates.leave r.name ticket)
      (Function.update standing ticket q) where
  consistent := by
    have ha := h.awaits hs
    exact h.consistent.insert ha.free ha.unused ha.given
  nodup := h.nodup_leave r.name
  mem_tickets := h.mem_tickets_leave (by rw [hs]; rfl) hq
  awaits {k r' f' w'} hk := by
    obtain ⟨hne, hk⟩ := opening_of_update (ne_opening_of_gate hq) hk
    have ha := h.awaits hk
    refine ⟨Gates.holds_leave ha.turn hne, ?_, ?_, ha.given⟩
    · -- two tasks that wait for channels of one name would both hold its gate
      rw [Registry.resolve_insert, if_neg, ha.free]
      intro hn
      have turn := (h.awaits hs).turn
      rw [hn] at turn
      exact hne (Gates.holds_inj ha.turn turn)
    · rw [Registry.nameFor_insert, if_neg, ha.unused]
      intro hid
      exact hne (h.inj hs hk hid).symm
  inj hk hk' := h.inj (opening_of_update (ne_opening_of_gate hq) hk).2
    (opening_of_update (ne_opening_of_gate hq) hk').2

/-- A name is removed together with its channel. -/
theorem drop (h : Orderly registry gates standing) {name : String} {r : Resource}
    (bound : registry.resolve name = some r) :
    Orderly (registry.drop name r.id) gates standing where
  consistent := h.consistent.drop bound
  nodup := h.nodup
  mem_tickets := h.mem_tickets
  awaits hk := by
    have ha := h.awaits hk
    refine ⟨ha.turn, ?_, ?_, ha.given⟩
    · rw [Registry.resolve_drop]
      split
      · rfl
      · exact ha.free
    · rw [Registry.nameFor_drop]
      split
      · rfl
      · exact ha.unused
  inj := h.inj

theorem removeIfBound (h : Orderly registry gates standing) (name : String) (id : ChannelId) :
    Orderly (registry.removeIfBound name id).2 gates standing := by
  rcases registry.removeIfBound_cases name id with hn | ⟨r, hr, rfl, hs⟩
  · rwa [hn]
  · rw [hs]
    exact h.drop hr

theorem drain (h : Orderly registry gates standing) : Orderly registry.drain.2 gates standing where
  consistent := .drain registry
  nodup := h.nodup
  mem_tickets := h.mem_tickets
  awaits hk := ⟨(h.awaits hk).turn, rfl, rfl, (h.awaits hk).given⟩
  inj := h.inj

/-- **A piece of a request keeps order.** -/
theorem piece {g g' : Gateway} {p p' : Progress} {now : Nat} {held : Nat → Bool}
    (h : Orderly g.registry g.gates standing) (hs : standing ticket = some p)
    (hp : g.Piece now held ticket p g' p') :
    Orderly g'.registry g'.gates (Function.update standing ticket (some p')) := by
  cases hp with
  | enter job => exact h.enter (by rw [hs]; rfl) job
  | reuse found =>
    rw [Gateway.registry_follow, Gateway.gates_follow]
    exact h.stay (by rw [hs]; rfl) (by simp)
  | join turn found =>
    rw [Gateway.registry_follow, Gateway.gates_follow]
    exact h.leave (by rw [hs]; rfl) (by simp)
  | refuse turn free missing => exact h.leave (by rw [hs]; rfl) rfl
  | create turn free known attempt => exact h.issue (by rw [hs]; rfl) turn free rfl rfl _ _
  | @createOpen request followup hub _ _ turn free known attempt =>
    -- a channel that opens at once is one that is waited for no time
    have hi := h.issue (by rw [hs]; rfl) turn free (r := g.newcomer request) rfl rfl followup
      (.absent 0 0)
    have hr := fun q hq => hi.register (q := q) (Function.update_self ..) hq
    simp only [Function.update_idem] at hr
    rw [Gateway.registry_register, Gateway.gates_register]
    exact hr _ (by simp)
  | @createFailed request followup _ _ f turn free known attempt =>
    have hi := h.issue (by rw [hs]; rfl) turn free (r := g.newcomer request) rfl rfl followup
      (.absent 0 0)
    have at_gate : (Function.update standing ticket (some (.opening (g.newcomer request) followup
        (.absent 0 0))) ticket).bind Progress.gate? = some request.name := by
      rw [Function.update_self]
      rfl
    have hl := hi.leave at_gate (q := some (.done (.error (.openFailed request.name f.error)))) rfl
    rw [Function.update_idem] at hl
    exact hl
  | attached due result =>
    rw [Gateway.registry_register, Gateway.gates_register]
    exact h.register hs (by simp)
  | unattached due result => exact h.leave (by rw [hs]; rfl) rfl
  | written due result => exact h.stay (by rw [hs]; rfl) rfl
  | unwritten due result => exact h.stay (by rw [hs]; rfl) rfl
  | notFound turn free => exact h.leave (by rw [hs]; rfl) rfl
  | closeFailed turn found result => exact h.leave (by rw [hs]; rfl) rfl
  | closed turn found result => exact (h.drop found).leave (by rw [hs]; rfl) rfl

/-- What is taken from the registry keeps order. -/
theorem removal (h : Orderly registry gates standing) {registry' : Registry}
    (taken : Relation.ReflTransGen Registry.Removal registry registry') :
    Orderly registry' gates standing := by
  induction taken with
  | refl => exact h
  | tail _ last ih =>
    cases last with
    | bound name id => exact ih.removeIfBound name id
    | all => exact ih.drain

end Orderly

/-- The gateway agrees with where its tasks stand. -/
def Traffic.IsOrderly (t : Traffic) : Prop :=
  Orderly t.gateway.registry t.gateway.gates t.standing

/-- **Every move keeps order.** -/
theorem Traffic.IsOrderly.step {t : Traffic} (h : t.IsOrderly) (m : Move) :
    (t.step m).IsOrderly := by
  have hc := t.step_change m
  unfold IsOrderly at h ⊢
  generalize t.step m = t' at hc ⊢
  cases hc with
  | removal taken gates standing frame =>
    rw [gates, standing]
    exact h.removal taken
  | @begins ticket job idle gateway standing =>
    rw [gateway, standing]
    refine h.stay ?_ rfl
    cases hs : t.standing ticket with
    | none => rfl
    | some p =>
      obtain ⟨outcome, rfl⟩ := idle hs
      rfl
  | ends stood gateway standing =>
    rw [gateway, standing]
    unfold Gateway.cancel
    split
    · rename_i name hname
      exact h.leave (by rw [stood]; exact hname) rfl
    · rename_i hname
      exact h.stay (by rw [stood]; exact hname) rfl
  | advances own stood advance standing =>
    rw [standing]
    exact Gateway.advance_induction (P := fun g standing => Orderly g.registry g.gates standing)
      (fun hs hp h => h.piece hs hp) stood advance h

theorem Traffic.isOrderly_ofGateway {g : Gateway} (hg : g.gates = [])
    (hr : g.registry.Consistent) : (Traffic.ofGateway g).IsOrderly := by
  unfold IsOrderly ofGateway
  rw [hg]
  exact .empty _ hr

/-- **Every run keeps order.** -/
theorem Traffic.IsOrderly.run {t : Traffic} (h : t.IsOrderly) (moves : List Move) :
    (t.run moves).IsOrderly :=
  run_induction h (fun _ m h => h.step m) moves

/-- A gateway is in order after every run from its beginning. -/
theorem Traffic.isOrderly_run (config : GatewayConfig) (hub : Hub) (moves : List Move) :
    ((ofGateway (.ofConfig config hub)).run moves).IsOrderly :=
  (isOrderly_ofGateway rfl .empty).run moves

end ChannelGateway
