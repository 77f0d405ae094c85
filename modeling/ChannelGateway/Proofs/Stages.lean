import ChannelGateway.Proofs.Sound

/-!
# The stages of a request that is served alone

While nothing else happens on a gateway, what a request has done to it is known from where the
request stands. `Stage b outside job g p` says it: `b` is the gateway that the request has found,
`g` the gateway when it stands at `p`, and `outside` tells which channels somebody other than the
gateway holds. Gates apart, a request has asked the injected faults (`Gateway.asked`), has created a
channel that is not registered (`Gateway.tried`), or has registered a channel that has just opened
(`Gateway.gained`). Nothing is said of a request that has been served.

Results:
* **`Stage.piece`**, `Stage.advance`: a request goes from one stage to the next.
* `piece_remaining`: every piece brings a request nearer to its end.
-/

namespace ChannelGateway

namespace Gateway

/-- A gateway after its injected faults have been asked. -/
def asked (g : Gateway) (i : Injection) : Gateway :=
  { g with hub := g.hub.withInjection i }

/-- A gateway after a channel has been created for an open request and the faults have been
asked. -/
def tried (g : Gateway) (held : Nat → Bool) (request : OpenRequest) (i : Injection) : Gateway :=
  (g.enlist held request).asked i

/-- A gateway after the channel has opened and has been registered. -/
def gained (g : Gateway) (held : Nat → Bool) (request : OpenRequest) (i : Injection) : Gateway :=
  { g with
    registry := g.registry.takeId.2.insert (g.newcomer request)
    hub := (g.tried held request i).hub.modify (g.newcomer request).serial Channel.connect }

end Gateway

/-- How far a request has come that is served alone, and what it has done to the gateway by then. -/
inductive Stage (b : Gateway) (outside : Nat → Bool) (job : Job) : Gateway → Progress → Prop
  | ready : Stage b outside job b (.ready job)
  | queued (gates : Gates) : Stage b outside job { b with gates } (.queued job)
  /-- It waits for the channel that it has created. -/
  | opening {request : OpenRequest} {followup : Followup} {w : Waiting} (i : Injection)
    (gates : Gates) (own : job = .use request followup)
    (free : b.registry.resolve request.name = none) (opens : ∀ due v, w ≠ .writing due v) :
    Stage b outside job { b.tried outside request i with gates }
      (.opening (b.newcomer request) followup w)
  /-- It waits for a channel that it has found to take a value. -/
  | writing {r : Resource} {due : Nat} {v : Write} (i : Injection) (gates : Gates) :
    Stage b outside job { b.asked i with gates } (.writing r (.writing due v))
  /-- It waits for the channel that it has opened to take a value. -/
  | writingNew {request : OpenRequest} {due : Nat} {v : Write} (i : Injection) (gates : Gates)
    (free : b.registry.resolve request.name = none) :
    Stage b outside job { b.gained outside request i with gates }
      (.writing (b.newcomer request) (.writing due v))
  | served {g : Gateway} {r : Option Resource} : Stage b outside job g (.done (.ok r))
  /-- Its name is not open, and it does not open it. -/
  | refused {e : GatewayError} (gates : Gates)
    (cause : e = .missingAddress job.name ∨ e = .notFound job.name) :
    Stage b outside job { b with gates } (.done (.error e))
  /-- The channel that it has created has not opened, and was closed again if that could be done. -/
  | openFailed {request : OpenRequest} {source : DeviceError} (i : Injection) (gates : Gates)
    {hub : Hub} (abandoned : hub = (b.tried outside request i).hub ∨
      hub = (b.tried outside request i).hub.modify (b.newcomer request).serial Channel.disconnect) :
    Stage b outside job { b.tried outside request i with hub, gates }
      (.done (.error (.openFailed request.name source)))
  /-- The channel that it has found has not taken the value. -/
  | writeFailed {r : Resource} {source : DeviceError} (i : Injection) (gates : Gates)
    (found : ∃ name, b.registry.resolve name = some r) :
    Stage b outside job { b.asked i with gates } (.done (.error (.deviceFailed r.name source)))
  /-- The channel that it has opened has not taken the value. -/
  | writeFailedNew {request : OpenRequest} {source : DeviceError} (i : Injection) (gates : Gates)
    (free : b.registry.resolve request.name = none) :
    Stage b outside job { b.gained outside request i with gates }
      (.done (.error (.deviceFailed request.name source)))
  /-- The channel of its name has not closed. -/
  | closeFailed {name : String} {r : Resource} {source : DeviceError} (i : Injection)
    (gates : Gates) (found : b.registry.resolve name = some r) :
    Stage b outside job { b.asked i with gates } (.done (.error (.closeFailed name source)))

namespace Stage

variable {b g g' : Gateway} {outside held : Nat → Bool} {job : Job} {p p' : Progress}
  {now ticket : Nat}

/-- A request uses a name that it has found open. -/
theorem follow {r : Resource} {name : String} (found : b.registry.resolve name = some r)
    (gates : Gates) (now : Nat) (followup : Followup) :
    Stage b outside job ({ b with gates }.follow now r followup).1
      ({ b with gates }.follow now r followup).2 := by
  have ho := Gateway.follow_outcome { b with gates } now r followup
  generalize { b with gates }.follow now r followup = result at ho ⊢
  cases ho with
  | subscribed s => exact .served
  | written i w => exact .served
  | waiting i due w => exact .writing i gates
  | failed i f => exact .writeFailed i gates ⟨name, found⟩

/-- A request uses a name that it has opened. -/
theorem followNew {request : OpenRequest} (free : b.registry.resolve request.name = none)
    (i : Injection) (gates : Gates) (now : Nat) (followup : Followup) :
    Stage b outside job
      ({ b.gained outside request i with gates }.follow now (b.newcomer request) followup).1
      ({ b.gained outside request i with gates }.follow now (b.newcomer request) followup).2 := by
  have ho := Gateway.follow_outcome { b.gained outside request i with gates } now
    (b.newcomer request) followup
  generalize { b.gained outside request i with gates }.follow now (b.newcomer request) followup =
    result at ho ⊢
  cases ho with
  | subscribed s => exact .served
  | written i w => exact .served
  | waiting j due w => exact .writingNew j gates free
  | failed j f => exact .writeFailedNew j gates free

/-- A request gives up a channel that has not opened. -/
theorem abandon {request : OpenRequest} (i : Injection) (gates : Gates) (f : HubFailure) :
    Stage b outside job
      ({ b.tried outside request i with gates }.abandon ticket (b.newcomer request) f).1
      ({ b.tried outside request i with gates }.abandon ticket (b.newcomer request) f).2 := by
  have ho := Hub.startClose_outcome (b.tried outside request i).hub
    ({ b.tried outside request i with gates }.channelOf (b.newcomer request))
  simp only [Gateway.abandon]
  generalize Hub.startClose _ _ = result at ho ⊢
  cases ho with
  | failed j _ => exact .openFailed j _ (.inl rfl)
  | closed j =>
    rw [Gateway.serial_channelOf]
    exact .openFailed j _ (.inr rfl)

/-- **A request that is served alone goes from stage to stage**, if it and the outside hold what
is held. -/
theorem piece {config : HubConfig} {standing : Nat → Option Progress}
    (hs : Sound config b.hub b.registry standing) (h : Stage b outside job g p)
    (hheld : ∀ serial, held serial = (p.holds serial || outside serial))
    (hp : g.Piece now held ticket p g' p') : Stage b outside job g' p' := by
  cases h with
  | ready =>
    cases hp with
    | enter job => exact .queued _
    | reuse found => exact follow found b.gates now _
  | queued gates =>
    have hout : held = outside := funext hheld
    subst hout
    cases hp with
    | @join request followup r turn found =>
      exact follow (b := b) found (gates.leave request.name ticket) now followup
    | refuse turn free missing => exact .refused _ (.inl rfl)
    | @create request followup hub events w turn free known attempt =>
      have ho := Sound.attempt_outcome (g := { b with gates }) hs attempt
      cases ho with
      | attaching i due place => exact .opening i gates rfl free nofun
      | absent i due => exact .opening i gates rfl free nofun
    | @createOpen request followup hub events reply turn free known attempt =>
      have ho := Sound.attempt_outcome (g := { b with gates }) hs attempt
      cases ho with
      | already i isOpen => cases isOpen
      | opened i place =>
        exact followNew (b := b) free i (gates.leave request.name ticket) now followup
    | @createFailed request followup hub events f turn free known attempt =>
      have ho := Sound.attempt_outcome (g := { b with gates }) hs attempt
      cases ho with
      | failed i _ => exact abandon (b := b) i gates f
    | notFound turn free => exact .refused _ (.inr rfl)
    | @closeFailed name r hub f turn found result =>
      have ho := Hub.startClose_outcome b.hub (({ b with gates } : Gateway).channelOf r)
      rw [result] at ho
      cases ho with
      | failed i _ => exact .closeFailed i _ found
    | closed turn found result => exact .served
  | @opening request followup w i gates own free opens =>
    cases hp with
    | @attached r followup w hub events reply due result =>
      cases w with
      | attaching t =>
        cases result
        rw [Gateway.serial_channelOf]
        exact followNew (b := b) free i (gates.leave request.name ticket) now followup
      | absent t timeout => cases result
      | writing t v => exact absurd rfl (opens t v)
    | @unattached r followup w hub events f due result =>
      cases w with
      | attaching t => cases result
      | absent t timeout =>
        cases result
        exact abandon (b := b) i gates _
      | writing t v => exact absurd rfl (opens t v)
  | writing i gates =>
    cases hp with
    | written due result => exact .served
    | unwritten due result => cases result
  | writingNew i gates free =>
    cases hp with
    | written due result => exact .served
    | unwritten due result => cases result
  | _ => cases hp

/-- A call of `Gateway.advance` goes from stage to stage. -/
theorem advance {config : HubConfig} {standing : Nat → Option Progress}
    (hs : Sound config b.hub b.registry standing) (h : Stage b outside job g p)
    (hheld : ∀ serial, held serial = (p.holds serial || outside serial))
    (ha : g.advance now held ticket p = some (g', p')) : Stage b outside job g' p' := by
  rcases Gateway.advance_piece ha with hone | ⟨job, rfl, htwo⟩
  · exact h.piece hs hheld hone
  · have henter : g.Piece now held ticket (.ready job)
        { g with gates := g.gates.enter job.name ticket } (.queued job) := .enter job
    exact (h.piece hs hheld henter).piece hs hheld htwo

end Stage

/-! ## Progress -/

namespace Gateway

variable {g g' : Gateway} {now ticket : Nat} {held : Nat → Bool}

theorem remaining_follow (g : Gateway) (now : Nat) (r : Resource) (followup : Followup) :
    (g.follow now r followup).2.remaining ≤ 1 := by
  have ho := follow_outcome g now r followup
  generalize g.follow now r followup = result at ho ⊢
  cases ho <;> simp [Progress.remaining]

/-- **A piece brings a request nearer to its end.** -/
theorem piece_remaining {p p' : Progress} (hp : g.Piece now held ticket p g' p') :
    p'.remaining < p.remaining := by
  have hfollow := remaining_follow
  cases hp with
  | reuse found => exact Nat.lt_of_le_of_lt (hfollow ..) (by simp [Progress.remaining])
  | join turn found => exact Nat.lt_of_le_of_lt (hfollow ..) (by simp [Progress.remaining])
  | createOpen turn free known attempt =>
    exact Nat.lt_of_le_of_lt (hfollow ..) (by simp [Progress.remaining])
  | attached due result => exact Nat.lt_of_le_of_lt (hfollow ..) (by simp [Progress.remaining])
  | createFailed turn free known attempt => simp [abandon, Progress.remaining]
  | unattached due result => simp [abandon, Progress.remaining]
  | _ => simp [Progress.remaining]

/-- A request that finds the gate of its name free passes it. -/
theorem advance_ready (now : Nat) (held : Nat → Bool) (ticket : Nat) {job : Job}
    (hfree : g.gates.tickets job.name = []) :
    ∃ g' p', g.advance now held ticket (.ready job) = some (g', p') ∧ p'.remaining ≤ 2 := by
  refine ⟨_, _, rfl, ?_⟩
  have hturn : (g.gates.enter job.name ticket).holds job.name ticket = true := by
    rw [Gates.holds_iff, Gates.tickets_enter, if_pos rfl, hfree]
    rfl
  have hqueue : (g.queue now held ticket job).2.remaining ≤ 2 := by
    have hpass := pass_piece (g := { g with gates := g.gates.enter job.name ticket }) now held hturn
    unfold queue
    dsimp only
    rw [if_pos hturn]
    exact Nat.le_of_lt_succ (piece_remaining hpass)
  cases job with
  | close name => exact hqueue
  | use request followup =>
    dsimp only
    cases g.registry.resolve request.name with
    | some r => exact Nat.le_trans (remaining_follow ..) (by decide)
    | none => exact hqueue

/-- A request that waits for a channel goes on when it is due. -/
theorem advance_due (g : Gateway) (held : Nat → Bool) (ticket : Nat) {p : Progress} {due : Nat}
    (hp : p.due? = some due) (hdue : due ≤ now) :
    ∃ g' p', g.advance now held ticket p = some (g', p') ∧ p'.remaining < p.remaining := by
  suffices h : (g.advance now held ticket p).isSome = true by
    obtain ⟨⟨g', p'⟩, ha⟩ := Option.isSome_iff_exists.mp h
    refine ⟨g', p', ha, ?_⟩
    obtain hone | ⟨job, rfl, -⟩ := advance_piece ha
    · exact piece_remaining hone
    · cases hp
  cases p with
  | opening r followup w =>
    cases hp
    simp only [advance, if_pos hdue]
    rcases g.hub.resume (g.channelOf r) w with ⟨hub, events, result⟩
    cases result <;> rfl
  | writing r w =>
    cases hp
    simp only [advance, if_pos hdue]
    rcases g.hub.resume (g.channelOf r) w with ⟨hub, events, result⟩
    cases result <;> rfl
  | _ => cases hp

end Gateway

end ChannelGateway
