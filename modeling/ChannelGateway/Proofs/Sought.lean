import ChannelGateway.Proofs.Piece

/-!
# What becomes of a request for a name

A request that is to use a name looks for it until it is given the resource of the name, or told why
there is none. `Sought` says once what a call of `Gateway.advance` does for such a request, in terms
of the registry and of the count of created channels: a channel is created in one of its ways only,
by the only request that can hold the gate, for a name that is not open. All other requests create
nothing (`Elsewhere`).

Results:
* **`advance_sought`**: all that going on does for a request that looks for a name.
* `advance_elsewhere`: what going on does not do for the others.
-/

namespace ChannelGateway

namespace Progress

/-- A request is to use a name, and no channel has been created for it. -/
def Asks (p : Progress) (request : OpenRequest) : Prop :=
  ∃ followup, p = .ready (.use request followup) ∨ p = .queued (.use request followup)

/-- The name that a request looks for. -/
def seeks? : Progress → Option String
  | ready (.use request _) => some request.name
  | queued (.use request _) => some request.name
  | opening r _ _ => some r.name
  | _ => none

/-- A request has been given a resource: it has used it, or is using it, or its use failed. -/
inductive Got (r : Resource) : Progress → Prop
  | used : Got r (.done (.ok (some r)))
  | writing (w : Waiting) : Got r (.writing r w)
  | failed (e : DeviceError) : Got r (.done (.error (.deviceFailed r.name e)))

/-- A request has been told that the place of its channel is not known. -/
def Refused (name : String) (p : Progress) : Prop :=
  p = .done (.error (.missingAddress name))

/-- A request has been told that its channel did not open. -/
def Failed (name : String) (p : Progress) : Prop :=
  ∃ e, p = .done (.error (.openFailed name e))

/-- Whether a request has been told that its name is not opened. -/
def isUnopened : Progress → Bool
  | done (.error (.missingAddress _)) => true
  | done (.error (.openFailed _ _)) => true
  | _ => false

theorem Refused.isUnopened {name : String} {p : Progress} (h : p.Refused name) :
    p.isUnopened = true := by
  rw [h]
  rfl

theorem Failed.isUnopened {name : String} {p : Progress} (h : p.Failed name) :
    p.isUnopened = true := by
  obtain ⟨e, rfl⟩ := h
  rfl

theorem Failed.name_inj {name other : String} {p : Progress} (h : p.Failed name)
    (h' : p.Failed other) : name = other := by
  obtain ⟨e, rfl⟩ := h
  obtain ⟨e', he⟩ := h'
  cases he
  rfl

theorem Asks.seeks {p : Progress} {request : OpenRequest} (h : p.Asks request) :
    p.seeks? = some request.name := by
  obtain ⟨followup, rfl | rfl⟩ := h <;> rfl

theorem Asks.request_inj {p : Progress} {request other : OpenRequest} (h : p.Asks request)
    (h' : p.Asks other) : request = other := by
  obtain ⟨followup, rfl | rfl⟩ := h <;> obtain ⟨followup', he | he⟩ := h' <;> cases he <;> rfl

theorem Failed.gate {name : String} {p : Progress} (h : p.Failed name) : p.gate? = none := by
  obtain ⟨e, rfl⟩ := h
  rfl

theorem Got.isUnopened {r : Resource} {p : Progress} (h : p.Got r) : p.isUnopened = false := by
  cases h <;> rfl

theorem Got.not_unopened {r : Resource} {p : Progress} (h : p.Got r) : ¬ p.isUnopened = true := by
  rw [h.isUnopened]
  decide

end Progress

namespace Gateway

variable {g g' : Gateway} {now ticket : Nat} {held : Nat → Bool} {p p' : Progress}

/-- Using an open name gives its resource to the request. -/
theorem got_follow (g : Gateway) (now : Nat) (r : Resource) (followup : Followup) :
    (g.follow now r followup).2.Got r := by
  have h := follow_outcome g now r followup
  generalize g.follow now r followup = result at h ⊢
  cases h with
  | subscribed s => exact .used
  | written i w => exact .used
  | waiting i due w => exact .writing _
  | failed i f => exact .failed _

@[simp]
theorem isUnopened_follow (g : Gateway) (now : Nat) (r : Resource) (followup : Followup) :
    (g.follow now r followup).2.isUnopened = false :=
  (got_follow ..).isUnopened

@[simp]
theorem isUnopened_register (g : Gateway) (now ticket : Nat) (r : Resource)
    (followup : Followup) : (g.register now ticket r followup).2.isUnopened = false :=
  isUnopened_follow ..

/-- **What becomes of a request that looks for a name** when it goes on. -/
inductive Sought (g : Gateway) (ticket : Nat) (p : Progress) (g' : Gateway) (p' : Progress) : Prop
  /-- It waits for the gate of the name. -/
  | waits {request : OpenRequest} {followup : Followup} (was : p = .ready (.use request followup))
    (place : p' = .queued (.use request followup)) (registry : g'.registry = g.registry)
    (hub : g'.hub = g.hub)
  /-- It finds the name open. -/
  | found {request : OpenRequest} {r : Resource} (asks : p.Asks request)
    (bound : g.registry.resolve request.name = some r) (got : p'.Got r)
    (registry : g'.registry = g.registry) (frame : g'.hub.frame = g.hub.frame)
  /-- The name is not open, and it does not know the place of the channel. -/
  | refused {request : OpenRequest} (asks : p.Asks request)
    (alone : ∀ k, g.gates.holds request.name k = true → k = ticket)
    (free : g.registry.resolve request.name = none) (missing : request.address.isMissing = true)
    (told : p'.Refused request.name) (registry : g'.registry = g.registry) (hub : g'.hub = g.hub)
  /-- A channel is created for it. -/
  | created {request : OpenRequest} (asks : p.Asks request)
    (alone : ∀ k, g.gates.holds request.name k = true → k = ticket)
    (free : g.registry.resolve request.name = none) (known : request.address.isMissing = false)
    (nextId : g'.registry.nextId = g.registry.nextId + 1)
    (count : g'.hub.created = g.hub.created + 1)
    (others : ∀ other, request.name ≠ other → g'.registry.resolve other = g.registry.resolve other)
    (ends : (∃ followup w, p' = .opening (g.newcomer request) followup w) ∨
      (p'.Got (g.newcomer request) ∧
        g'.registry.resolve request.name = some (g.newcomer request)) ∨
      p'.Failed request.name)
  /-- Its channel has opened. -/
  | opened {r : Resource} {f : Followup} {w : Waiting} (was : p = .opening r f w) (got : p'.Got r)
    (registered : g'.registry.resolve r.name = some r)
    (others : ∀ other, r.name ≠ other → g'.registry.resolve other = g.registry.resolve other)
    (nextId : g'.registry.nextId = g.registry.nextId) (frame : g'.hub.frame = g.hub.frame)
  /-- Its channel has not opened. -/
  | failed {r : Resource} {f : Followup} {w : Waiting} (was : p = .opening r f w)
    (told : p'.Failed r.name) (registry : g'.registry = g.registry)
    (frame : g'.hub.frame = g.hub.frame)

/-- A piece of a request that looks for a name. -/
theorem piece_sought {name : String} (hseeks : p.seeks? = some name)
    (hp : Piece now held ticket g p g' p') : Sought g ticket p g' p' := by
  cases hp with
  | enter job =>
    cases job with
    | close name => cases hseeks
    | use request followup =>
      exact .waits rfl rfl rfl rfl
  | @reuse request followup r found =>
    exact .found ⟨followup, .inl rfl⟩ found (got_follow ..) (registry_follow ..) (frame_follow ..)
  | @join request followup r turn found =>
    exact .found ⟨followup, .inr rfl⟩ found (got_follow ..) (registry_follow ..) (frame_follow ..)
  | @refuse request followup turn free missing =>
    exact .refused ⟨followup, .inr rfl⟩ (fun k hk => Gates.holds_inj hk turn) free missing rfl rfl
      rfl
  | @create request followup hub events w turn free known attempt =>
    exact .created ⟨followup, .inr rfl⟩ (fun k hk => Gates.holds_inj hk turn) free known rfl
      (congrArg Prod.snd (frame_attempt attempt)) (fun _ _ => rfl) (.inl ⟨followup, w, rfl⟩)
  | @createOpen request followup hub events reply turn free known attempt =>
    refine .created ⟨followup, .inr rfl⟩ (fun k hk => Gates.holds_inj hk turn) free known ?_ ?_ ?_
      (.inr (.inl ⟨got_follow .., ?_⟩))
    · rw [registry_register]
      rfl
    · exact congrArg Prod.snd ((frame_register ..).trans (frame_attempt attempt))
    · intro other hne
      rw [registry_register, Registry.resolve_insert]
      exact if_neg hne
    · rw [registry_register, Registry.resolve_insert]
      exact if_pos rfl
  | @createFailed request followup hub events f turn free known attempt =>
    exact .created ⟨followup, .inr rfl⟩ (fun k hk => Gates.holds_inj hk turn) free known rfl
      (congrArg Prod.snd ((frame_abandon ..).trans (frame_attempt attempt))) (fun _ _ => rfl)
      (.inr (.inr ⟨f.error, rfl⟩))
  | @attached r followup w hub events reply due result =>
    refine .opened rfl (got_follow ..) ?_ ?_ ?_ ((frame_register ..).trans (frame_resume result))
    · rw [registry_register, Registry.resolve_insert, if_pos rfl]
    · intro other hne
      rw [registry_register, Registry.resolve_insert, if_neg hne]
    · rw [registry_register]
      rfl
  | @unattached r followup w hub events f due result =>
    exact .failed rfl ⟨f.error, rfl⟩ rfl ((frame_abandon ..).trans (frame_resume result))
  | written due result => cases hseeks
  | unwritten due result => cases hseeks
  | notFound turn free => cases hseeks
  | closeFailed turn found result => cases hseeks
  | closed turn found result => cases hseeks

/-- What becomes of a request in its first two pieces. -/
theorem Sought.of_enter {job : Job} (hp : p = .ready job)
    (h : Sought { g with gates := g.gates.enter job.name ticket } ticket (.queued job) g' p') :
    Sought g ticket p g' p' := by
  have hasks : ∀ {request : OpenRequest}, Progress.Asks (.queued job) request →
      Progress.Asks p request := by
    rintro request ⟨followup, hq | hq⟩
    · cases hq
    · cases hq
      exact ⟨followup, .inl hp⟩
  cases h with
  | waits was place registry hub => cases was
  | found asks bound got registry frame => exact .found (hasks asks) bound got registry frame
  | refused asks alone free missing told registry hub =>
    exact .refused (hasks asks) (fun k hk => alone k (Gates.holds_enter hk ..)) free missing told
      registry hub
  | created asks alone free known nextId count others ends =>
    exact .created (hasks asks) (fun k hk => alone k (Gates.holds_enter hk ..)) free known nextId
      count others ends
  | opened was got registered others nextId frame => cases was
  | failed was told registry frame => cases was

/-- **All that going on does for a request that looks for a name.** -/
theorem advance_sought {name : String} (hseeks : p.seeks? = some name)
    (ha : g.advance now held ticket p = some (g', p')) : Sought g ticket p g' p' := by
  rcases advance_piece ha with hone | ⟨job, rfl, htwo⟩
  · exact piece_sought hseeks hone
  · cases job with
    | close name => cases hseeks
    | use request followup => exact .of_enter rfl (piece_sought rfl htwo)

/-- A request whose channel does not open gives its gate back and registers nothing. -/
theorem advance_failed {name other : String} (hgate : p.gate? = some name)
    (ha : g.advance now held ticket p = some (g', p')) (hfailed : p'.Failed other) :
    g'.gates = g.gates.leave name ticket ∧
      ∀ n, g'.registry.resolve n = g.registry.resolve n := by
  have hunopened := hfailed.isUnopened
  rcases advance_piece ha with hp | ⟨job, rfl, -⟩
  · cases hp with
    | createFailed turn free known attempt =>
      cases hgate
      exact ⟨rfl, fun _ => rfl⟩
    | unattached due result =>
      cases hgate
      exact ⟨rfl, fun _ => rfl⟩
    | join turn found => simp at hunopened
    | createOpen turn free known attempt => simp at hunopened
    | attached due result => simp at hunopened
    | refuse turn free missing => obtain ⟨e, he⟩ := hfailed; cases he
    | reuse found => cases hgate
    | enter job => cases hgate
    | written due result => cases hgate
    | unwritten due result => cases hgate
    | create turn free known attempt => cases hunopened
    | notFound turn free => cases hunopened
    | closeFailed turn found result => cases hunopened
    | closed turn found result => cases hunopened
  · cases hgate

/-- What no request does that looks for no name. -/
structure Elsewhere (g g' : Gateway) (p' : Progress) : Prop where
  nextId : g'.registry.nextId = g.registry.nextId
  frame : g'.hub.frame = g.hub.frame
  loses : ∀ {name r}, g'.registry.resolve name = some r → g.registry.resolve name = some r
  quiet : p'.isUnopened = false

/-- A piece of a request that looks for no name. -/
theorem piece_elsewhere (hseeks : p.seeks? = none) (hp : Piece now held ticket g p g' p') :
    Elsewhere g g' p' := by
  cases hp with
  | enter job => exact ⟨rfl, rfl, fun h => h, rfl⟩
  | written due result =>
    exact ⟨rfl, frame_resume result, fun h => h, rfl⟩
  | unwritten due result =>
    exact ⟨rfl, frame_resume result, fun h => h, rfl⟩
  | notFound turn free =>
    exact ⟨rfl, rfl, fun h => h, rfl⟩
  | @closeFailed name r hub f turn found result =>
    have hframe := Hub.frame_startClose g.hub (g.channelOf r)
    rw [result] at hframe
    exact ⟨rfl, hframe, fun h => h, rfl⟩
  | @closed name r hub reply turn found result =>
    have hframe := Hub.frame_startClose g.hub (g.channelOf r)
    rw [result] at hframe
    refine ⟨rfl, hframe, fun {other s} h => ?_, rfl⟩
    rw [registry_leaveGate, Registry.resolve_drop] at h
    split at h
    · cases h
    · exact h
  | _ => cases hseeks

/-- **All other requests** create nothing and register nothing. -/
theorem advance_elsewhere (hseeks : p.seeks? = none)
    (ha : g.advance now held ticket p = some (g', p')) : Elsewhere g g' p' := by
  rcases advance_piece ha with hone | ⟨job, rfl, htwo⟩
  · exact piece_elsewhere hseeks hone
  · cases job with
    | use request followup => cases hseeks
    | close name =>
      have h := piece_elsewhere rfl htwo
      exact ⟨h.nextId, h.frame, h.loses, h.quiet⟩

end Gateway

end ChannelGateway
