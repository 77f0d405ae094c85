import ChannelGateway.Proofs.Faults
import ChannelGateway.Proofs.Scene
import Mathlib.Tactic.SplitIfs

/-!
# The injected faults change only by being asked

Operations and requests reach the injected faults of a hub through `Injection.check` alone, and what
happens to the hardware does not reach them. So whatever asking keeps lasts (`Injection.Lasting`):
through an operation, a piece of a request, a reading of all open names, and every act of a scene.

Results:
* `Hub.asked_start`: an operation keeps what lasts.
* `Gateway.asked_piece`: so does a piece of a request.
* **`Scene.asked_run`**: after every run the faults are those of the beginning, asked some
  operations.
-/

namespace ChannelGateway

/-- What is kept of the injected faults when they are asked. -/
def Injection.Lasting (Q : Injection → Prop) : Prop :=
  ∀ i op, Q i → Q (i.check op).2

/-- That the faults have only been asked since some moment lasts. -/
theorem Injection.lasting_after (i : Injection) : Lasting fun j => ∃ ops, j = i.after ops := by
  rintro _ op ⟨ops, rfl⟩
  exact ⟨ops ++ [op], (i.after_append ops [op]).symm⟩

variable {Q : Injection → Prop}

/-! ## Operations -/

namespace Hub

variable {h : Hub} {c : Channel}

theorem asked_startOpen (hQ : Injection.Lasting Q) (hh : Q h.injection) (now : Nat) (c : Channel)
    (timeout : Nat) : Q (h.startOpen now c timeout).1.injection := by
  have hasked := hQ h.injection .opening hh
  unfold startOpen
  rw [check_eq]
  cases (h.injection.check .opening).1 with
  | some f => exact hasked
  | none =>
    dsimp only
    split_ifs <;> exact hasked

theorem asked_startClose (hQ : Injection.Lasting Q) (hh : Q h.injection) (c : Channel) :
    Q (h.startClose c).1.injection := by
  have hasked := hQ h.injection .closing hh
  unfold startClose
  rw [check_eq]
  cases (h.injection.check .closing).1 <;> exact hasked

theorem asked_startWrite (hQ : Injection.Lasting Q) (hh : Q h.injection) (now : Nat) (c : Channel)
    (w : Write) : Q (h.startWrite now c w).1.injection := by
  have hasked := hQ h.injection w.operation hh
  unfold startWrite
  split
  · exact hh
  cases w.refusal? with
  | some f => exact hh
  | none =>
    dsimp only
    rw [check_eq]
    cases (h.injection.check w.operation).1 with
    | some f => exact hasked
    | none =>
      dsimp only
      split_ifs <;> exact hasked

theorem asked_readState (hQ : Injection.Lasting Q) (hh : Q h.injection) (c : Channel) :
    Q (h.readState c).1.injection := by
  have hasked := hQ h.injection .readingState hh
  unfold readState
  rw [check_eq]
  split
  · exact hh
  · cases (h.injection.check .readingState).1 <;> exact hasked

theorem asked_readVoltage (hQ : Injection.Lasting Q) (hh : Q h.injection) (c : Channel) :
    Q (h.readVoltage c).1.injection := by
  have hasked := hQ h.injection .readingVoltage hh
  unfold readVoltage
  rw [check_eq]
  split
  · exact hh
  · cases (h.injection.check .readingVoltage).1 <;> exact hasked

theorem asked_read (hQ : Injection.Lasting Q) (hh : Q h.injection) (c : Channel) :
    Q (h.read c).1.injection := by
  unfold read
  split
  · exact asked_readState hQ hh c
  · exact asked_readVoltage hQ hh c

/-- **An operation keeps what lasts** of the faults. -/
theorem asked_start (hQ : Injection.Lasting Q) (hh : Q h.injection) (now : Nat) (c : Channel)
    (io : Io) : Q (h.start now c io).1.injection := by
  cases io with
  | openWithin timeout => exact asked_startOpen hQ hh now c timeout
  | close => exact asked_startClose hQ hh c
  | readState => exact asked_readState hQ hh c
  | readVoltage => exact asked_readVoltage hQ hh c
  | read => exact asked_read hQ hh c
  | write w => exact asked_startWrite hQ hh now c w

theorem injection_resume (h : Hub) (c : Channel) (w : Waiting) :
    (h.resume c w).1.injection = h.injection := by
  cases w <;> rfl

/-- What happens to a channel by itself asks no fault. -/
theorem injection_disturbance {hub : Hub} {events : List HubEvent}
    (hd : Disturbance h c (hub, events)) : hub.injection = h.injection := by
  cases hd <;> rfl

end Hub

/-! ## Requests and readings -/

namespace Gateway

variable {g g' : Gateway} {now ticket : Nat} {held : Nat → Bool} {p p' : Progress}

theorem asked_follow (hQ : Injection.Lasting Q) (hg : Q g.hub.injection) (now : Nat) (r : Resource)
    (followup : Followup) : Q (g.follow now r followup).1.hub.injection := by
  cases followup with
  | nothing => exact hg
  | subscribe urls => exact hg
  | write w =>
    have hw := Hub.asked_startWrite hQ hg now (g.channelOf r) w
    simp only [follow]
    generalize g.hub.startWrite now (g.channelOf r) w = result at hw ⊢
    obtain ⟨hub, status⟩ := result
    rcases status with (_ | _) | _ <;> exact hw

theorem asked_register (hQ : Injection.Lasting Q) (hg : Q g.hub.injection) (now ticket : Nat)
    (r : Resource) (followup : Followup) :
    Q (g.register now ticket r followup).1.hub.injection :=
  asked_follow (g := ({ g with registry := g.registry.insert r } : Gateway).leaveGate r.name
    ticket) hQ hg now r followup

theorem asked_attempt (hQ : Injection.Lasting Q) (hg : Q g.hub.injection) {request : OpenRequest}
    {hub : Hub} {events : List HubEvent} {status : IoStatus}
    (ha : g.attempt now held request = (hub, events, status)) : Q hub.injection :=
  (congrArg (fun result => Q result.1.injection) ha).mp
    (Hub.asked_startOpen (h := (g.enlist held request).hub) hQ hg ..)

theorem asked_startClose (hQ : Injection.Lasting Q) (hg : Q g.hub.injection) {r : Resource}
    {hub : Hub} {status : IoStatus} (hc : g.hub.startClose (g.channelOf r) = (hub, status)) :
    Q hub.injection :=
  (congrArg (fun result => Q result.1.injection) hc).mp (Hub.asked_startClose hQ hg _)

theorem injection_resume {r : Resource} {w : Waiting} {hub : Hub} {events : List HubEvent}
    {result : Except HubFailure Reply}
    (hr : g.hub.resume (g.channelOf r) w = (hub, events, result)) :
    hub.injection = g.hub.injection :=
  (congrArg (fun result => result.1.injection) hr).symm.trans (Hub.injection_resume ..)

/-- **A piece of a request keeps what lasts** of the faults. -/
theorem asked_piece (hQ : Injection.Lasting Q) (hg : Q g.hub.injection)
    (hp : g.Piece now held ticket p g' p') : Q g'.hub.injection := by
  cases hp with
  | reuse found => exact asked_follow hQ hg ..
  | @join request followup r turn found =>
    exact asked_follow (g := g.leaveGate request.name ticket) hQ hg ..
  | create turn free known attempt => exact asked_attempt hQ hg attempt
  | @createOpen request followup hub events reply turn free known attempt =>
    exact asked_register (g := { g.enlist held request with hub }) hQ
      (asked_attempt hQ hg attempt) ..
  | @createFailed request followup hub events f turn free known attempt =>
    exact Hub.asked_startClose (h := hub) hQ (asked_attempt hQ hg attempt) _
  | @attached r followup w hub events reply due result =>
    exact asked_register (g := { g with hub }) hQ (injection_resume result ▸ hg) ..
  | @unattached r followup w hub events f due result =>
    exact Hub.asked_startClose (h := hub) hQ (injection_resume result ▸ hg) _
  | written due result => exact injection_resume result ▸ hg
  | unwritten due result => exact injection_resume result ▸ hg
  | closeFailed turn found result => exact asked_startClose hQ hg result
  | closed turn found result => exact asked_startClose hQ hg result
  | _ => exact hg

theorem asked_advance (hQ : Injection.Lasting Q) (hg : Q g.hub.injection)
    (ha : g.advance now held ticket p = some (g', p')) : Q g'.hub.injection := by
  obtain ⟨gates, q, hpiece, -⟩ := advance_last ha
  exact asked_piece (g := { g with gates }) hQ hg hpiece

/-- Reading channels one after the other keeps what lasts of the faults. -/
theorem asked_statuses (hQ : Injection.Lasting Q) (hg : Q g.hub.injection)
    (resources : List Resource) : Q (g.statuses resources).2.hub.injection := by
  induction resources generalizing g with
  | nil => exact hg
  | cons r rest ih => exact ih (g := (g.status r).2) (Hub.asked_read hQ hg (g.channelOf r))

end Gateway

/-! ## Acts -/

namespace Scene

variable {s : Scene} {a : Act}

/-- **Every act keeps what lasts** of the faults, if it puts no other hub in place than the same one
with one more channel. -/
theorem asked_step (hQ : Injection.Lasting Q) (hs : Q s.hub.injection) (permits : s.Permits a) :
    Q (s.step a).hub.injection := by
  have hmove : ∀ {m}, a.move? = some m → Q (s.traffic.step m).gateway.hub.injection := by
    intro m hm
    cases m with
    | arrive ticket jobs =>
      simp only [Traffic.step]
      rcases s.traffic.arrive_cases ticket jobs with he | ⟨_, _, hg, _⟩
      · rwa [he]
      · rwa [hg]
    | advance ticket outside =>
      simp only [Traffic.step]
      rcases s.traffic.advance_cases ticket outside with
        he | ⟨_, _, _, hg, _⟩ | ⟨_, _, _, _, ha, hg, _⟩
      · rwa [he]
      · rwa [hg]
      · rw [hg]
        exact Gateway.asked_advance hQ hs ha
    | cancel ticket =>
      simp only [Traffic.step]
      rcases s.traffic.cancel_cases ticket with he | ⟨_, _, hg, _⟩
      · rwa [he]
      · rwa [hg, Gateway.hub_cancel]
    | intervene serial what =>
      simp only [Traffic.step]
      rcases s.traffic.intervene_cases serial what with he | ⟨c, hub, events, effect, hc, hi, he⟩
      · rwa [he]
      · rw [he, Gateway.hub_observeAll]
        have hhub : (s.hub.intervene s.traffic.now c what).1 = hub := congrArg Prod.fst hi
        subst hhub
        by_cases hw : ∃ io, what = .operate io
        · obtain ⟨io, rfl⟩ := hw
          exact (congrArg (Q ·.injection) (s.hub.operate_fst s.traffic.now c io)).mpr
            (Hub.asked_start hQ hs _ c io)
        · have hd := s.hub.intervene_disturbance s.traffic.now c fun io he => hw ⟨io, he⟩
          exact (congrArg Q (Hub.injection_disturbance hd)).mpr hs
    | tell event => exact (congrArg (Q ·.injection) (s.traffic.gateway.hub_observe event)).mpr hs
    | forget name id => exact hs
    | drain => exact hs
    | shutdown =>
      exact Gateway.shutdown_keeps (P := (Q ·.injection))
        (fun _ c hh => Hub.asked_startClose hQ hh c) hs
    | snapshot => exact Gateway.asked_statuses hQ hs _
    | wait ms => exact hs
    | deliver receivers => exact hs
    | settle => exact hs
    | meddle hub =>
      cases a with
      | move m =>
        cases hm
        obtain ⟨held, spec, rfl⟩ := permits hub rfl
        exact hs
      | _ => cases hm
  unfold hub
  rcases s.step_cases a with ⟨m, hm, he⟩ | he | ⟨handle, serial, w, -, -, -, he⟩
  · rw [he]
    exact hmove hm
  · rwa [he]
  · rw [he]
    rcases s.traffic.conclude_cases serial w with hsame | ⟨c, _, events, _, rfl, hconclude⟩
    · rwa [hsame]
    · rw [hconclude, Gateway.hub_observeAll]
      exact (congrArg Q (Hub.injection_resume ..)).mpr hs

/-- **After every run the faults are those of the beginning**, asked some operations. -/
theorem asked_run {acts : List Act} (permitted : s.PermitsAll acts) :
    ∃ ops, (s.run acts).hub.injection = s.hub.injection.after ops :=
  run_induction_permitted (P := fun t => ∃ ops, t.hub.injection = s.hub.injection.after ops)
    ⟨[], rfl⟩ (fun _ _ permits h => asked_step s.hub.injection.lasting_after h permits) permitted

end Scene

end ChannelGateway
