import ChannelGateway.Proofs.Orderly

/-!
# The indexes of the registry

What `Orderly` says of the registry, for callers: after every run the index by name and the index by
identity are each other's inverse, so a name and a channel determine each other. An event of a
channel that is no longer registered then finds nothing, also when the name that it had has been
opened again: identities are given out in order, so the name has another one.

That an identity does not come back is about runs and not about one state. `Settled` carries it: an
identity that has been given out, and that no task waits for a channel with, can only be lost.

Results:
* `Settled.step`: a settled identity stays settled and is not registered anew.
* **`indexes_inverse`**: the indexes after every run.
-/

namespace ChannelGateway

/-- An identity has been given out, and no task waits for a channel with it. -/
structure Settled (registry : Registry) (standing : Nat → Option Progress) (id : ChannelId) :
    Prop where
  given : id < registry.nextId
  idle : ∀ {k r f w}, standing k = some (.opening r f w) → r.id ≠ id

/-- An identity is registered under no name that it did not have. -/
def Registry.Loses (old new : Registry) (id : ChannelId) : Prop :=
  ∀ name, new.nameFor id = some name → old.nameFor id = some name

namespace Registry.Loses

variable {old new : Registry} {id : ChannelId}

theorem refl (registry : Registry) (id : ChannelId) : registry.Loses registry id :=
  fun _ hn => hn

theorem trans {middle : Registry} (h : old.Loses middle id) (h' : middle.Loses new id) :
    old.Loses new id :=
  fun name hn => h name (h' name hn)

/-- Registering another identity. -/
theorem insert (h : old.Loses new id) {r : Resource} (hr : r.id ≠ id) :
    old.Loses (new.insert r) id := by
  intro name hn
  rw [nameFor_insert, if_neg hr] at hn
  exact h name hn

theorem drop (h : old.Loses new id) (name : String) (other : ChannelId) :
    old.Loses (new.drop name other) id := by
  intro n hn
  rw [nameFor_drop] at hn
  split at hn
  · cases hn
  · exact h n hn

theorem removeIfBound (registry : Registry) (id : ChannelId) (name : String) (other : ChannelId) :
    registry.Loses (registry.removeIfBound name other).2 id := by
  rcases registry.removeIfBound_cases name other with hn | ⟨_, _, _, hs⟩
  · rw [hn]
    exact .refl registry id
  · rw [hs]
    exact (refl registry id).drop name other

theorem drain (registry : Registry) (id : ChannelId) : registry.Loses registry.drain.2 id :=
  fun _ hn => by simp at hn

end Registry.Loses

namespace Settled

variable {registry : Registry} {standing : Nat → Option Progress} {ticket : Nat} {id : ChannelId}

/-- A task goes where it does not wait for a channel with the identity. -/
theorem update (h : Settled registry standing id) {q : Option Progress}
    (hq : ∀ {r f w}, q = some (.opening r f w) → r.id ≠ id) :
    Settled registry (Function.update standing ticket q) id where
  given := h.given
  idle {k r f w} hk := by
    by_cases hkt : k = ticket
    · subst hkt
      rw [Function.update_self] at hk
      exact hq hk
    · rw [Function.update_of_ne hkt] at hk
      exact h.idle hk

/-- A task goes to a place at no gate. -/
theorem outside (h : Settled registry standing id) {q : Option Progress}
    (hq : q.bind Progress.gate? = none) : Settled registry (Function.update standing ticket q) id :=
  h.update fun {r f w} he => absurd he (Orderly.ne_opening_of_gate hq r f w)

/-- Another registry has given out as many identities. -/
theorem of_le (h : Settled registry standing id) {other : Registry}
    (hle : registry.nextId ≤ other.nextId) : Settled other standing id :=
  ⟨Nat.lt_of_lt_of_le h.given hle, h.idle⟩

theorem takeId (h : Settled registry standing id) : Settled registry.takeId.2 standing id :=
  h.of_le (Nat.le_succ _)

theorem insert (h : Settled registry standing id) (r : Resource) :
    Settled (registry.insert r) standing id :=
  ⟨h.given, h.idle⟩

theorem drop (h : Settled registry standing id) (name : String) (other : ChannelId) :
    Settled (registry.drop name other) standing id :=
  ⟨h.given, h.idle⟩

/-- The identity that is given out next is another one. -/
theorem newcomer_ne {g : Gateway} (h : Settled g.registry standing id) (request : OpenRequest) :
    (g.newcomer request).id ≠ id :=
  fun he => absurd h.given (he ▸ Nat.lt_irrefl _)

/-- **A piece of a request keeps an identity settled**, and does not register it. -/
theorem piece {g g' : Gateway} {p p' : Progress} {now : Nat} {held : Nat → Bool}
    (h : Settled g.registry standing id) (hs : standing ticket = some p)
    (hp : g.Piece now held ticket p g' p') :
    Settled g'.registry (Function.update standing ticket (some p')) id ∧
      g.registry.Loses g'.registry id := by
  cases hp with
  | enter job => exact ⟨h.update (by simp), .refl _ _⟩
  | reuse found =>
    rw [Gateway.registry_follow]
    exact ⟨h.outside (by simp), .refl _ _⟩
  | join turn found =>
    rw [Gateway.registry_follow]
    exact ⟨h.outside (by simp), .refl _ _⟩
  | refuse turn free missing => exact ⟨h.outside rfl, .refl _ _⟩
  | @create request _ _ _ _ turn free known attempt =>
    refine ⟨h.takeId.update fun he => ?_, .refl _ _⟩
    cases he
    exact h.newcomer_ne request
  | @createOpen request _ _ _ _ turn free known attempt =>
    rw [Gateway.registry_register]
    exact ⟨(h.takeId.insert _).outside (by simp),
      (Registry.Loses.refl _ _).insert (h.newcomer_ne request)⟩
  | createFailed turn free known attempt => exact ⟨h.takeId.outside rfl, .refl _ _⟩
  | attached due result =>
    rw [Gateway.registry_register]
    exact ⟨(h.insert _).outside (by simp), (Registry.Loses.refl _ _).insert (h.idle hs)⟩
  | unattached due result => exact ⟨h.outside rfl, .refl _ _⟩
  | written due result => exact ⟨h.outside rfl, .refl _ _⟩
  | unwritten due result => exact ⟨h.outside rfl, .refl _ _⟩
  | notFound turn free => exact ⟨h.outside rfl, .refl _ _⟩
  | closeFailed turn found result => exact ⟨h.outside rfl, .refl _ _⟩
  | closed turn found result =>
    exact ⟨(h.drop _ _).outside rfl, (Registry.Loses.refl _ _).drop _ _⟩

/-- What is taken from the registry keeps an identity settled. -/
theorem removal (h : Settled registry standing id) {registry' : Registry}
    (taken : Relation.ReflTransGen Registry.Removal registry registry') :
    Settled registry' standing id ∧ registry.Loses registry' id := by
  refine ⟨h.of_le (Nat.le_of_eq (Registry.removal_loses taken).1.symm), ?_⟩
  induction taken with
  | refl => exact .refl _ _
  | tail _ last ih =>
    cases last with
    | bound name other => exact ih.trans (.removeIfBound _ id name other)
    | all => exact ih.trans (.drain _ _)

/-- **Every move keeps an identity settled**, and does not register it. -/
theorem step {t : Traffic} (h : Settled t.gateway.registry t.standing id) (m : Move) :
    Settled (t.step m).gateway.registry (t.step m).standing id ∧
      t.gateway.registry.Loses (t.step m).gateway.registry id := by
  have hc := t.step_change m
  generalize t.step m = t' at hc ⊢
  cases hc with
  | removal taken gates standing frame =>
    rw [standing]
    exact h.removal taken
  | begins idle gateway standing =>
    rw [gateway, standing]
    exact ⟨h.outside rfl, .refl _ _⟩
  | ends stood gateway standing =>
    rw [gateway, standing, Gateway.registry_cancel]
    exact ⟨h.outside rfl, .refl _ _⟩
  | advances own stood advance standing =>
    rw [standing]
    refine Gateway.advance_induction (P := fun g standing =>
      Settled g.registry standing id ∧ t.gateway.registry.Loses g.registry id) ?_ stood advance
      ⟨h, .refl _ _⟩
    intro g g' p p' standing hs hp h
    have hstep := h.1.piece hs hp
    exact ⟨hstep.1, h.2.trans hstep.2⟩

/-- A settled identity stays settled in every run, which does not register it. -/
theorem run {t : Traffic} (h : Settled t.gateway.registry t.standing id) (moves : List Move) :
    Settled (t.run moves).gateway.registry (t.run moves).standing id ∧
      t.gateway.registry.Loses (t.run moves).gateway.registry id :=
  Traffic.run_induction (P := fun u => Settled u.gateway.registry u.standing id ∧
      t.gateway.registry.Loses u.gateway.registry id) ⟨h, .refl _ _⟩
    (fun _ m h => ⟨(h.1.step m).1, h.2.trans (h.1.step m).2⟩) moves

end Settled

/-- A registered identity is settled: whoever waits for a channel has one that is not registered. -/
theorem Orderly.settled {registry : Registry} {gates : Gates} {standing : Nat → Option Progress}
    (h : Orderly registry gates standing) {id : ChannelId} {name : String}
    (hn : registry.nameFor id = some name) : Settled registry standing id where
  given := h.consistent.lt_nextId hn
  idle hk := by
    rintro rfl
    rw [(h.awaits hk).unused] at hn
    cases hn

/-- An identity that has been registered and is not any more is never registered again. -/
theorem Traffic.IsOrderly.gone {t : Traffic} (h : t.IsOrderly) {id : ChannelId} {name : String}
    (hn : t.gateway.registry.nameFor id = some name) {moves : List Move}
    (hgone : (t.run moves).gateway.registry.nameFor id = none) (more : List Move) :
    ((t.run moves).run more).gateway.registry.nameFor id = none := by
  have hlost := ((Orderly.settled h hn).run moves).1.run more
  cases hagain : ((t.run moves).run more).gateway.registry.nameFor id with
  | none => rfl
  | some other =>
    have hback := hlost.2 other hagain
    rw [hgone] at hback
    cases hback

/-- **The indexes after every run** are each other's inverse: names that differ have channels that
differ, every registered identity has been given out, one that is no longer registered never is
again, and taking out an identity touches no entry of another one. -/
theorem indexes_inverse (config : GatewayConfig) (hub : Hub) (moves : List Move) :
    let t := (Traffic.ofGateway (.ofConfig config hub)).run moves
    let registry := t.gateway.registry
    (∀ name r, registry.resolve name = some r →
      r.name = name ∧ registry.nameFor r.id = some name) ∧
    (∀ id name, registry.nameFor id = some name →
      ∃ r, registry.resolve name = some r ∧ r.id = id) ∧
    (∀ name r other s, registry.resolve name = some r → registry.resolve other = some s →
      name ≠ other → r.id ≠ s.id) ∧
    (∀ name r, registry.resolve name = some r → r.id < registry.nextId) ∧
    (∀ id name middle after, registry.nameFor id = some name →
      (t.run middle).gateway.registry.nameFor id = none →
      let later := ((t.run middle).run after).gateway.registry
      later.nameFor id = none ∧ later.removeChannel id = (none, later)) ∧
    (∀ id name r, registry.resolve name = some r → r.id ≠ id →
      (registry.removeChannel id).2.resolve name = some r ∧
        (registry.removeChannel id).2.nameFor r.id = some name) ∧
    ∀ id r, (registry.removeChannel id).1 = some r → r.id = id := by
  intro t registry
  have h : t.IsOrderly := Traffic.isOrderly_run config hub moves
  have hc : registry.Consistent := Orderly.consistent h
  refine ⟨fun name r hr => ⟨hc.name_eq hr, hc.nameFor_eq hr⟩, fun id name hn => hc.resolve_eq hn,
    fun name r other s hr hs hne hid => hne (hc.name_inj hr hs hid),
    fun name r hr => hc.lt_nextId (hc.nameFor_eq hr), fun id name middle after hn hgone => ?_,
    fun id name r hr hne => hc.removeChannel_ne hr hne, fun id r hr => ?_⟩
  · have hnone := h.gone hn hgone after
    refine ⟨hnone, ?_⟩
    unfold Registry.removeChannel
    rw [hnone]
  · rcases registry.removeChannel_cases id with hn | ⟨_, other, _, _, hid, hs⟩
    · rw [hn] at hr
      cases hr
    · rw [hs] at hr
      cases hr
      exact hid

end ChannelGateway
