import ChannelGateway.Proofs.Scene

/-!
# What lasts on a hub

Whatever is done to the channels of a hub, by requests or directly, comes down to five changes: the
injected faults are asked, a channel is created, opened or closed, or a value is written to one.
What each of them keeps lasts (`Hub.Lasting`); what happens to the hardware of channels by itself is
left to whoever uses it.

Results:
* `Gateway.lasting_piece`: a piece of a request keeps what lasts.
* **`Scene.lasting_step`**: so does every act.
-/

namespace ChannelGateway

/-! ## Operations -/

namespace Hub

/-- What is kept of a hub by all that operations and requests do to its channels. -/
structure Lasting (P : Hub → Prop) : Prop where
  asked (h : Hub) (i : Injection) : P h → P (h.withInjection i)
  created (h : Hub) (held : Nat → Bool) (spec : ChannelSpec) : P h → P (h.create held spec)
  connected (h : Hub) (serial : Nat) : P h → P (h.modify serial Channel.connect)
  disconnected (h : Hub) (serial : Nat) : P h → P (h.modify serial Channel.disconnect)
  written (h : Hub) (serial : Nat) (w : Write) : P h → P (h.modify serial w.apply)

namespace Lasting

variable {P : Hub → Prop} {h : Hub}

theorem startOpen (hP : Lasting P) (hh : P h) (now : Nat) (c : Channel) (timeout : Nat) :
    P (h.startOpen now c timeout).1 := by
  have ho := startOpen_outcome h now c timeout
  generalize h.startOpen now c timeout = result at ho ⊢
  cases ho with
  | opened i place => exact hP.connected _ _ (hP.asked _ i hh)
  | failed i f => exact hP.asked _ i hh
  | attaching i due place => exact hP.asked _ i hh
  | absent i due => exact hP.asked _ i hh
  | already i isOpen => exact hP.asked _ i hh

theorem startClose (hP : Lasting P) (hh : P h) (c : Channel) : P (h.startClose c).1 := by
  have ho := startClose_outcome h c
  generalize h.startClose c = result at ho ⊢
  cases ho with
  | failed i f => exact hP.asked _ i hh
  | closed i => exact hP.disconnected _ _ (hP.asked _ i hh)

theorem startWrite (hP : Lasting P) (hh : P h) (now : Nat) (c : Channel) (w : Write) :
    P (h.startWrite now c w).1 := by
  have ho := startWrite_outcome h now c w
  generalize h.startWrite now c w = result at ho ⊢
  cases ho with
  | failed i f => exact hP.asked _ i hh
  | waiting i due => exact hP.asked _ i hh
  | written i => exact hP.written _ _ w (hP.asked _ i hh)

theorem start (hP : Lasting P) (hh : P h) (now : Nat) (c : Channel) (io : Io) :
    P (h.start now c io).1 := by
  cases io with
  | openWithin timeout => exact hP.startOpen hh now c timeout
  | close => exact hP.startClose hh c
  | write w => exact hP.startWrite hh now c w
  | readState =>
    obtain ⟨i, hi⟩ := h.readState_fst c
    exact (congrArg P hi).mpr (hP.asked h i hh)
  | readVoltage =>
    obtain ⟨i, hi⟩ := h.readVoltage_fst c
    exact (congrArg P hi).mpr (hP.asked h i hh)
  | read =>
    obtain ⟨i, hi⟩ := h.read_fst c
    exact (congrArg P hi).mpr (hP.asked h i hh)

theorem resume (hP : Lasting P) (hh : P h) (c : Channel) (w : Waiting) : P (h.resume c w).1 := by
  cases w with
  | attaching due => exact hP.connected _ _ hh
  | absent due timeout => exact hh
  | writing due v => exact hP.written _ _ v hh

end Lasting

end Hub

/-! ## Requests -/

namespace Gateway

variable {P : Hub → Prop} {g g' : Gateway} {now ticket : Nat} {held : Nat → Bool} {p p' : Progress}

theorem lasting_follow (hP : Hub.Lasting P) (hg : P g.hub) (now : Nat) (r : Resource)
    (followup : Followup) : P (g.follow now r followup).1.hub := by
  have ho := g.follow_outcome now r followup
  generalize g.follow now r followup = result at ho ⊢
  cases ho with
  | subscribed s => exact hg
  | written i w => exact hP.written _ _ w (hP.asked _ i hg)
  | waiting i due w => exact hP.asked _ i hg
  | failed i f => exact hP.asked _ i hg

theorem lasting_register (hP : Hub.Lasting P) (hg : P g.hub) (now ticket : Nat) (r : Resource)
    (followup : Followup) : P (g.register now ticket r followup).1.hub :=
  lasting_follow (g := ({ g with registry := g.registry.insert r } : Gateway).leaveGate r.name
    ticket) hP hg now r followup

theorem lasting_attempt (hP : Hub.Lasting P) (hg : P g.hub) {request : OpenRequest} {hub : Hub}
    {events : List HubEvent} {status : IoStatus}
    (attempt : g.attempt now held request = (hub, events, status)) : P hub := by
  have hstart := hP.startOpen (h := (g.enlist held request).hub) (hP.created _ _ _ hg) now
    ((g.enlist held request).channelOf (g.newcomer request)) request.timeout
  rw [Gateway.attempt] at attempt
  rwa [attempt] at hstart

theorem lasting_resume (hP : Hub.Lasting P) (hg : P g.hub) {c : Channel} {w : Waiting} {hub : Hub}
    {events : List HubEvent} {result : Except HubFailure Reply}
    (hr : g.hub.resume c w = (hub, events, result)) : P hub := by
  have hresume := hP.resume hg c w
  rwa [hr] at hresume

/-- **A piece of a request keeps what lasts.** -/
theorem lasting_piece (hP : Hub.Lasting P) (hg : P g.hub) (hp : g.Piece now held ticket p g' p') :
    P g'.hub := by
  cases hp with
  | enter job => exact hg
  | reuse found => exact lasting_follow hP hg ..
  | @join request followup r turn found =>
    exact lasting_follow (g := g.leaveGate request.name ticket) hP hg ..
  | refuse turn free missing => exact hg
  | create turn free known attempt => exact lasting_attempt hP hg attempt
  | @createOpen request followup hub events reply turn free known attempt =>
    exact lasting_register (g := { g.enlist held request with hub }) hP
      (lasting_attempt hP hg attempt) ..
  | createFailed turn free known attempt => exact hP.startClose (lasting_attempt hP hg attempt) _
  | @attached r followup w hub events reply due result =>
    exact lasting_register (g := { g with hub }) hP (lasting_resume hP hg result) ..
  | unattached due result => exact hP.startClose (lasting_resume hP hg result) _
  | written due result => exact lasting_resume hP hg result
  | unwritten due result => exact lasting_resume hP hg result
  | notFound turn free => exact hg
  | @closeFailed name r hub f turn found result =>
    have hclose := hP.startClose hg (g.channelOf r)
    rwa [result] at hclose
  | @closed name r hub reply turn found result =>
    have hclose := hP.startClose hg (g.channelOf r)
    rwa [result] at hclose

end Gateway

/-! ## Acts -/

namespace Scene

variable {P : Hub → Prop} {s : Scene} {a : Act}

/-- **Every act keeps what lasts**, if what it does to the hardware of a channel does. -/
theorem lasting_step (hP : Hub.Lasting P) (hs : P s.hub) (permits : s.Permits a)
    (disturbed : ∀ serial what, a = .move (.intervene serial what) → (∀ io, what ≠ .operate io) →
      ∀ c, s.hub.channel? serial = some c → P (s.hub.intervene s.traffic.now c what).1) :
    P (s.step a).hub := by
  have hmove : ∀ {m}, a.move? = some m → P (s.traffic.step m).gateway.hub := by
    intro m hm
    cases m with
    | arrive ticket jobs =>
      simp only [Traffic.step]
      rcases s.traffic.arrive_cases ticket jobs with he | ⟨_, _, hg, _⟩
      · rwa [he]
      · rwa [hg]
    | advance ticket outside =>
      simp only [Traffic.step]
      rcases s.traffic.advance_cases ticket outside with
        he | ⟨_, _, _, hg, _⟩ | ⟨p, g, p', _, ha, hg, _⟩
      · rwa [he]
      · rwa [hg]
      · rw [hg]
        obtain ⟨gates, q, hpiece, -⟩ := Gateway.advance_last ha
        exact Gateway.lasting_piece (g := { s.traffic.gateway with gates }) hP hs hpiece
    | cancel ticket =>
      simp only [Traffic.step]
      rcases s.traffic.cancel_cases ticket with he | ⟨_, _, hg, _⟩
      · rwa [he]
      · rwa [hg, Gateway.hub_cancel]
    | intervene serial what =>
      simp only [Traffic.step]
      rcases s.traffic.intervene_cases serial what with he | ⟨c, hub, events, effect, hc, hi, he⟩
      · rwa [he]
      · rw [he, Gateway.hub_observeAll]
        have hhub : (s.hub.intervene s.traffic.now c what).1 = hub := congrArg Prod.fst hi
        rw [← hhub]
        by_cases hw : ∃ io, what = .operate io
        · obtain ⟨io, rfl⟩ := hw
          exact (congrArg P (s.hub.operate_fst s.traffic.now c io)).mpr (hP.start hs _ c io)
        · cases a with
          | move m =>
            cases hm
            exact disturbed serial what rfl (fun io he => hw ⟨io, he⟩) c hc
          | operate handle other io =>
            cases hm
            exact absurd ⟨io, rfl⟩ hw
          | conclude handle => cases hm
          | abandon handle => cases hm
    | tell event => exact (congrArg P (s.traffic.gateway.hub_observe event)).mpr hs
    | forget name id => exact hs
    | drain => exact hs
    | shutdown => exact Gateway.shutdown_keeps (fun _ c hh => hP.startClose hh c) hs
    | snapshot =>
      obtain ⟨i, hi⟩ := s.traffic.gateway.snapshot_snd
      simp only [Traffic.step, hi]
      exact hP.asked _ i hs
    | wait ms => exact hs
    | deliver receivers => exact hs
    | settle => exact hs
    | meddle hub =>
      cases a with
      | move m =>
        cases hm
        obtain ⟨held, spec, rfl⟩ := permits hub rfl
        exact hP.created _ held spec hs
      | _ => cases hm
  rcases s.step_cases a with ⟨m, hm, he⟩ | he | ⟨handle, serial, w, -, -, -, he⟩
  · unfold hub
    rw [he]
    exact hmove hm
  · unfold hub
    rwa [he]
  · unfold hub
    rw [he]
    rcases s.traffic.conclude_cases serial w with hsame | ⟨c, _, events, _, rfl, hconclude⟩
    · rwa [hsame]
    · rw [hconclude, Gateway.hub_observeAll]
      exact hP.resume hs c w

end Scene

end ChannelGateway
