import ChannelGateway.Proofs.Dispatch
import ChannelGateway.Proofs.Scene

/-!
# Writes: where the hardware is checked, and where the value lands

Beginning to write checks that the channel is attached (`attached_guard`). Outside realistic mode
the value is taken in the same piece, so it lands on an attached channel. In realistic mode the
write sleeps between the check and the value, were it for no time at all (`io_delay`), and the value
is taken later without a second check (`Hub.resume`): a channel that has lost its hardware in the
meantime takes it all the same (`detached_while_writing`).

So what a channel holds changes in two ways. Either the channel is attached when it does, or a write
ends that began exactly one delay earlier, when the channel was attached; and this is so for the
writes of requests and for those of whoever operates a channel directly. `Hub.Calm` says that no
channel changes that is left unattached, and `Hub.Begun` that a write that waits has passed the
check; along a run the second becomes a fact about an earlier moment (`Scene.origin`).

Results:
* `Gateway.piece_calm`, `Gateway.piece_begun`: all that a piece does to what channels hold, and how
  a write comes to wait.
* `Scene.calm_step`: all that an act does to what channels hold.
* `Scene.checked_of_ends`: every write that waits was checked at an earlier moment of the run.
* **`writes_checked`**: how what a channel holds can change, over every run.
-/

namespace ChannelGateway

/-- What a channel holds: what is read from it, and how often it was written. -/
def Channel.content (c : Channel) : Bool × Float × Nat := (c.state, c.voltage, c.writes)

namespace Hub

variable {h h' : Hub} {c : Channel}

/-- How long a write takes. -/
def writeDelay (h : Hub) : Nat := h.config.delay h.config.timing.ioDelay

/-- Every channel that exists and is kept holds what it held. -/
def Still (h h' : Hub) : Prop :=
  ∀ serial < h.created, ∀ c c', h.channel? serial = some c → h'.channel? serial = some c' →
    c'.content = c.content

/-- Every channel that exists and is kept holds what it held, or is attached. -/
def Calm (h h' : Hub) : Prop :=
  ∀ serial < h.created, ∀ c c', h.channel? serial = some c → h'.channel? serial = some c' →
    c'.content = c.content ∨ c'.attached = true

theorem Still.calm (hs : h.Still h') : h.Calm h' :=
  fun serial hlt c c' hold hnew => .inl (hs serial hlt c c' hold hnew)

theorem Still.refl (h : Hub) : h.Still h := by
  intro serial _ c c' hold hnew
  rw [hold] at hnew
  cases hnew
  rfl

theorem Still.withInjection (hs : h.Still h') (i : Injection) : h.Still (h'.withInjection i) := hs

theorem Still.modify (hs : h.Still h') (serial : Nat) {f : Channel → Channel}
    (hserial : ∀ c, (f c).serial = c.serial) (hcontent : ∀ c, (f c).content = c.content) :
    h.Still (h'.modify serial f) := by
  intro other hlt c c'' hold hnew
  rw [channel?_modify h' serial other hserial] at hnew
  split at hnew
  · obtain ⟨c', hc', rfl⟩ := Option.map_eq_some_iff.mp hnew
    rw [hcontent]
    exact hs other hlt c c' hold hc'
  · exact hs other hlt c c'' hold hnew

theorem Still.create (h : Hub) (held : Nat → Bool) (spec : ChannelSpec) :
    h.Still (h.create held spec) := by
  intro serial hlt c c' hold hnew
  have hne := Nat.ne_of_lt hlt
  by_cases hheld : held serial = true
  · rw [channel?_create_of_ne spec hheld hne, hold] at hnew
    cases hnew
    rfl
  · -- a channel that nobody holds is forgotten
    have hserial := serial_of_channel? hnew
    rcases List.mem_append.mp (mem_of_channel? hnew) with hlive | hfresh
    · have hkept := (List.mem_filter.mp hlive).2
      rw [hserial] at hkept
      exact absurd hkept hheld
    · rw [List.mem_singleton.mp hfresh] at hserial
      exact absurd hserial.symm hne

/-- A channel that is attached, and stays so, may come to hold anything. -/
theorem Still.land (hs : h.Still h') (serial : Nat) {f : Channel → Channel}
    (hserial : ∀ c, (f c).serial = c.serial) (hkeeps : ∀ c, (f c).attached = c.attached)
    (hattached : ∀ c, h'.channel? serial = some c → c.attached = true) :
    h.Calm (h'.modify serial f) := by
  intro other hlt c c'' hold hnew
  rw [channel?_modify h' serial other hserial] at hnew
  split at hnew
  · rename_i he
    subst he
    obtain ⟨c', hc', rfl⟩ := Option.map_eq_some_iff.mp hnew
    exact .inr ((hkeeps c').trans (hattached c' hc'))
  · exact .inl (hs other hlt c c'' hold hnew)

/-- A value may land on an attached channel. -/
theorem Still.write (hs : h.Still h') {serial : Nat} (w : Write)
    (hattached : ∀ c, h'.channel? serial = some c → c.attached = true) :
    h.Calm (h'.modify serial w.apply) :=
  hs.land serial (fun _ => by cases w <;> rfl) (fun _ => by cases w <;> rfl) hattached

theorem Still.startClose (hs : h.Still h') (c : Channel) : h.Still (h'.startClose c).1 := by
  have ho := startClose_outcome h' c
  generalize h'.startClose c = result at ho ⊢
  cases ho with
  | failed i f => exact hs
  | closed i => exact hs.modify c.serial (fun _ => rfl) fun _ => rfl

theorem Still.startOpen (hs : h.Still h') (now : Nat) (c : Channel) (timeout : Nat) :
    h.Still (h'.startOpen now c timeout).1 := by
  have ho := startOpen_outcome h' now c timeout
  generalize h'.startOpen now c timeout = result at ho ⊢
  cases ho with
  | opened i place => exact hs.modify c.serial (fun _ => rfl) fun _ => rfl
  | _ => exact hs

/-- Ending an operation that is not a write. -/
theorem Still.resume (hs : h.Still h') (c : Channel) {w : Waiting}
    (hw : ∀ due v, w ≠ .writing due v) : h.Still (h'.resume c w).1 := by
  cases w with
  | attaching due => exact hs.modify c.serial (fun _ => rfl) fun _ => rfl
  | absent due timeout => exact hs
  | writing due v => exact absurd rfl (hw due v)

/-- Ending an operation leaves the other channels as they are. -/
theorem channel?_resume_of_ne (h : Hub) (w : Waiting) {serial : Nat} (hne : serial ≠ c.serial) :
    (h.resume c w).1.channel? serial = h.channel? serial := by
  cases w with
  | attaching due =>
    exact channel?_modify_of_ne h hne (f := Channel.connect) fun _ => rfl
  | absent due timeout => rfl
  | writing due v =>
    exact channel?_modify_of_ne h hne fun c => by cases v <;> rfl

/-! ## The check -/

/-- What beginning to write ends in, and what has been checked by then. -/
inductive WriteCheck (h : Hub) (now : Nat) (c : Channel) (w : Write) : Hub × IoStatus → Prop
  | failed (i : Injection) (f : HubFailure) :
    WriteCheck h now c w (h.withInjection i, .finished (.error f))
  | waits (i : Injection) (attached : c.attached = true) (realistic : h.config.mode = .realistic) :
    WriteCheck h now c w (h.withInjection i, .waiting (.writing (now + h.writeDelay) w))
  | lands (i : Injection) (attached : c.attached = true) (swift : h.config.mode ≠ .realistic) :
    WriteCheck h now c w ((h.withInjection i).modify c.serial w.apply, .finished (.ok .done))

/-- **A write begins on an attached channel.** In realistic mode it waits for as long as a write
takes, and otherwise its value lands at once. -/
theorem startWrite_check (h : Hub) (now : Nat) (c : Channel) (w : Write) :
    WriteCheck h now c w (h.startWrite now c w) := by
  unfold startWrite
  split
  · exact .failed h.injection _
  cases w.refusal? with
  | some f => exact .failed h.injection f
  | none =>
    dsimp only
    rw [check_eq]
    cases (h.injection.check w.operation).1 with
    | some f => exact .failed _ f
    | none =>
      dsimp only
      split
      · exact .failed _ _
      rename_i hattached
      have ha : c.attached = true := by simpa using hattached
      split
      · rename_i hmode
        exact .waits _ ha hmode
      · rename_i hmode
        exact .lands _ ha hmode

/-- A write has just begun: it waits on an attached channel, for as long as a write takes. -/
def Begun (h : Hub) (now serial : Nat) (w : Waiting) : Prop :=
  h.config.mode = .realistic ∧ w.due = now + h.writeDelay ∧
    ∃ c, h.channel? serial = some c ∧ c.attached = true

/-- **An operation comes to wait for a write** that has just begun. -/
theorem start_begun {now due : Nat} {v : Write} {io : Io} (hc : h.channel? c.serial = some c)
    (hw : (h.start now c io).2.2 = .waiting (.writing due v)) :
    (h.start now c io).1.Begun now c.serial (.writing due v) := by
  cases io with
  | openWithin timeout =>
    have ho := h.startOpen_outcome now c timeout
    simp only [start] at hw
    generalize h.startOpen now c timeout = result at ho hw
    cases ho <;> cases hw
  | close =>
    have ho := h.startClose_outcome c
    simp only [start] at hw
    generalize h.startClose c = result at ho hw
    cases ho <;> cases hw
  | write w =>
    have hcheck := h.startWrite_check now c w
    simp only [start] at hw ⊢
    generalize h.startWrite now c w = result at hcheck hw ⊢
    cases hcheck with
    | failed i f => cases hw
    | lands i attached swift => cases hw
    | waits i attached realistic =>
      cases hw
      exact ⟨realistic, rfl, c, hc, attached⟩
  | _ =>
    simp only [start] at hw
    cases hw

/-- An operation changes no channel that is not attached. -/
theorem start_calm (now : Nat) (hc : h.channel? c.serial = some c) (io : Io) :
    h.Calm (h.start now c io).1 := by
  cases io with
  | openWithin timeout => exact ((Still.refl h).startOpen now c timeout).calm
  | close => exact ((Still.refl h).startClose c).calm
  | readState =>
    obtain ⟨i, hi⟩ := h.readState_fst c
    simp only [start, hi]
    exact ((Still.refl h).withInjection i).calm
  | readVoltage =>
    obtain ⟨i, hi⟩ := h.readVoltage_fst c
    simp only [start, hi]
    exact ((Still.refl h).withInjection i).calm
  | read =>
    obtain ⟨i, hi⟩ := h.read_fst c
    simp only [start, hi]
    exact ((Still.refl h).withInjection i).calm
  | write w =>
    have hcheck := h.startWrite_check now c w
    simp only [start]
    generalize h.startWrite now c w = result at hcheck ⊢
    cases hcheck with
    | failed i f => exact ((Still.refl h).withInjection i).calm
    | waits i attached realistic => exact ((Still.refl h).withInjection i).calm
    | lands i attached swift =>
      refine ((Still.refl h).withInjection i).write w fun c' hc' => ?_
      exact Option.some.inj (hc.symm.trans hc') ▸ attached

/-- Whatever is done to a channel changes none that is not attached. -/
theorem intervene_calm (now : Nat) (hc : h.channel? c.serial = some c) (what : Intervention) :
    h.Calm (h.intervene now c what).1 := by
  cases what with
  | change state =>
    simp only [intervene]
    rcases h.changeInput_cases c state with ⟨result, he, _⟩ | ⟨attached, he⟩
    · rw [he]
      cases result <;> exact (Still.refl h).calm
    · rw [he]
      refine (Still.refl h).land c.serial (fun _ => rfl) (fun _ => rfl) fun c' hc' => ?_
      exact Option.some.inj (hc.symm.trans hc') ▸ attached
  | detach =>
    exact ((Still.refl h).modify c.serial (f := fun c => { c with attached := false })
      (fun _ => rfl) fun _ => rfl).calm
  | attach =>
    simp only [intervene, reattach]
    split
    · exact ((Still.refl h).modify c.serial (f := fun c => { c with attached := true })
        (fun _ => rfl) fun _ => rfl).calm
    · exact (Still.refl h).calm
  | fault code text => exact (Still.refl h).calm
  | inspect => exact (Still.refl h).calm
  | operate io =>
    simp only [intervene]
    rw [operate_fst]
    exact start_calm now hc io

end Hub

namespace Gateway

variable {g g' : Gateway} {now ticket : Nat} {held : Nat → Bool}

/-- Only a channel of the hub is attached. -/
theorem channel?_of_attached {r : Resource} (ha : (g.channelOf r).attached = true) :
    g.hub.channel? r.serial = some (g.channelOf r) := by
  unfold channelOf at ha ⊢
  cases hc : g.hub.channel? r.serial with
  | none =>
    rw [hc] at ha
    cases ha
  | some c => rfl

/-- Using an open name changes no channel that is not attached. -/
theorem follow_calm {h : Hub} (hs : h.Still g.hub) (now : Nat) (r : Resource)
    (followup : Followup) :
    h.Calm (g.follow now r followup).1.hub := by
  cases followup with
  | nothing => exact hs.calm
  | subscribe urls => exact hs.calm
  | write w =>
    have hcheck := Hub.startWrite_check g.hub now (g.channelOf r) w
    simp only [follow]
    generalize g.hub.startWrite now (g.channelOf r) w = result at hcheck ⊢
    cases hcheck with
    | failed i f => exact hs.calm
    | waits i attached realistic => exact hs.calm
    | lands i attached swift =>
      rw [serial_channelOf]
      refine (hs.withInjection i).write w fun c hc => ?_
      have hsame := (channel?_of_attached attached).symm.trans hc
      exact Option.some.inj hsame ▸ attached

/-- Registering a name and using it changes no channel that is not attached. -/
theorem register_calm {h : Hub} (hs : h.Still g.hub) (now ticket : Nat) (r : Resource)
    (followup : Followup) : h.Calm (g.register now ticket r followup).1.hub :=
  follow_calm (g := { g with registry := g.registry.insert r }.leaveGate r.name ticket) hs now r
    followup

/-- Using an open name comes to wait for a write that has just begun. -/
theorem follow_begun {r s : Resource} {followup : Followup} {w : Waiting}
    (hp : (g.follow now r followup).2 = .writing s w) :
    (g.follow now r followup).1.hub.Begun now s.serial w := by
  cases followup with
  | nothing => cases hp
  | subscribe urls => cases hp
  | write v =>
    have hcheck := Hub.startWrite_check g.hub now (g.channelOf r) v
    simp only [follow] at hp ⊢
    generalize g.hub.startWrite now (g.channelOf r) v = result at hcheck hp ⊢
    cases hcheck with
    | failed i f => cases hp
    | lands i attached swift => cases hp
    | waits i attached realistic =>
      cases hp
      exact ⟨realistic, rfl, _, channel?_of_attached attached, attached⟩

/-- **A piece comes to wait for a write** that has just begun. -/
theorem piece_begun {p p' : Progress} (hp : g.Piece now held ticket p g' p') {s : Resource}
    {w : Waiting} (hw : p' = .writing s w) : g'.hub.Begun now s.serial w := by
  cases hp with
  | reuse found => exact follow_begun hw
  | join turn found => exact follow_begun hw
  | createOpen turn free known attempt => exact follow_begun hw
  | attached due result => exact follow_begun hw
  | _ => cases hw

/-- A request that waits for its channel waits for no write. -/
theorem piece_opening {p p' : Progress} (hp : g.Piece now held ticket p g' p') {s : Resource}
    {f : Followup} {w : Waiting} (hw : p' = .opening s f w) : ∀ due v, w ≠ .writing due v := by
  have hgate : p'.gate? = some s.name := by rw [hw]; rfl
  cases hp with
  | @create request followup hub events w turn free known attempt =>
    cases hw
    have ho := Hub.startOpen_outcome (g.enlist held request).hub now
      ((g.enlist held request).channelOf (g.newcomer request)) request.timeout
    have he : (g.enlist held request).hub.startOpen now _ request.timeout = _ := attempt
    rw [he] at ho
    cases ho <;> exact nofun
  | reuse found => simp at hgate
  | join turn found => simp at hgate
  | createOpen turn free known attempt => simp at hgate
  | attached due result => simp at hgate
  | _ => cases hw

/-- What the hub does when an open begins leaves every older channel as it is. -/
theorem still_attempt {request : OpenRequest} {hub : Hub} {events : List HubEvent}
    {status : IoStatus} (attempt : g.attempt now held request = (hub, events, status)) :
    g.hub.Still hub := by
  have hopen := (Hub.Still.create g.hub (g.holds held) (g.newcomer request).spec).startOpen now
    ((g.enlist held request).channelOf (g.newcomer request)) request.timeout
  have hhub : (g.attempt now held request).1 = hub := congrArg Prod.fst attempt
  rw [← hhub]
  exact hopen

/-- What the hub does when a channel closes, or fails to, leaves every channel what it holds. -/
theorem still_close {c : Channel} {hub : Hub} {status : IoStatus}
    (result : g.hub.startClose c = (hub, status)) : g.hub.Still hub := by
  have hclose := (Hub.Still.refl g.hub).startClose c
  rwa [result] at hclose

/-- What the hub does when an operation ends that is no write leaves every channel what it holds. -/
theorem still_resume {c : Channel} {w : Waiting} {hub : Hub} {events : List HubEvent}
    {reply : Except HubFailure Reply} (result : g.hub.resume c w = (hub, events, reply))
    (hw : ∀ due v, w ≠ .writing due v) : g.hub.Still hub := by
  have hresume := (Hub.Still.refl g.hub).resume c hw
  rwa [result] at hresume

/-- What the hub does when an operation ends leaves the other channels as they are. -/
theorem channel?_resume_of_ne {r : Resource} {w : Waiting} {hub : Hub} {events : List HubEvent}
    {reply : Except HubFailure Reply}
    (result : g.hub.resume (g.channelOf r) w = (hub, events, reply))
    {serial : Nat} (hne : serial ≠ r.serial) : hub.channel? serial = g.hub.channel? serial := by
  rw [← g.serial_channelOf r] at hne
  have hresume := g.hub.channel?_resume_of_ne w hne
  rwa [result] at hresume

/-- **A piece changes no channel that is not attached**, unless it ends a write that has waited. -/
theorem piece_calm {p p' : Progress} (hp : g.Piece now held ticket p g' p')
    (hopening : ∀ r f w, p = .opening r f w → ∀ due v, w ≠ .writing due v) :
    g.hub.Calm g'.hub ∨ ∃ r w, p = .writing r w ∧ w.due ≤ now ∧
      ∀ serial ≠ r.serial, g'.hub.channel? serial = g.hub.channel? serial := by
  have still := Hub.Still.refl g.hub
  cases hp with
  | enter job => exact .inl still.calm
  | reuse found => exact .inl (follow_calm still _ _ _)
  | @join request _ _ turn found =>
    exact .inl (follow_calm (g := g.leaveGate request.name ticket) still _ _ _)
  | refuse turn free missing => exact .inl still.calm
  | create turn free known attempt => exact .inl (still_attempt attempt).calm
  | @createOpen request followup hub _ _ turn free known attempt =>
    exact .inl (register_calm (g := { g.enlist held request with hub }) (still_attempt attempt)
      now ticket _ followup)
  | createFailed turn free known attempt =>
    exact .inl ((still_attempt attempt).startClose _).calm
  | @attached r followup w hub events reply due result =>
    have hresume := still_resume result (hopening r followup w rfl)
    exact .inl (register_calm (g := { g with hub }) hresume now ticket r followup)
  | @unattached r followup w hub events f due result =>
    have hresume := still_resume result (hopening r followup w rfl)
    exact .inl (hresume.startClose _).calm
  | written due result => exact .inr ⟨_, _, rfl, due, fun _ => channel?_resume_of_ne result⟩
  | unwritten due result => exact .inr ⟨_, _, rfl, due, fun _ => channel?_resume_of_ne result⟩
  | notFound turn free => exact .inl still.calm
  | closeFailed turn found result => exact .inl (still_close result).calm
  | closed turn found result => exact .inl (still_close result).calm

/-- What the hub does when a channel closes, or fails to, keeps its frame. -/
theorem frame_close {c : Channel} {hub : Hub} {status : IoStatus}
    (result : g.hub.startClose c = (hub, status)) : hub.frame = g.hub.frame :=
  (congrArg (fun r => r.1.frame) result).symm.trans (Hub.frame_startClose ..)

theorem config_piece {p p' : Progress} (hp : g.Piece now held ticket p g' p') :
    g'.hub.config = g.hub.config := by
  cases hp with
  | reuse found => exact congrArg Prod.fst (frame_follow ..)
  | @join request _ _ turn found =>
    exact congrArg Prod.fst (frame_follow (g.leaveGate request.name ticket) ..)
  | create turn free known attempt => exact congrArg Prod.fst (frame_attempt attempt)
  | createOpen turn free known attempt =>
    exact congrArg Prod.fst ((frame_register ..).trans (frame_attempt attempt))
  | createFailed turn free known attempt =>
    exact congrArg Prod.fst ((frame_abandon ..).trans (frame_attempt attempt))
  | attached due result =>
    exact congrArg Prod.fst ((frame_register ..).trans (frame_resume result))
  | unattached due result =>
    exact congrArg Prod.fst ((frame_abandon ..).trans (frame_resume result))
  | written due result => exact congrArg Prod.fst (frame_resume result)
  | unwritten due result => exact congrArg Prod.fst (frame_resume result)
  | closeFailed turn found result => exact congrArg Prod.fst (frame_close result)
  | closed turn found result => exact congrArg Prod.fst (frame_close result)
  | _ => rfl

/-- All that a call of `Gateway.advance` does to what channels hold. -/
theorem advance_calm {p p' : Progress} (ha : g.advance now held ticket p = some (g', p'))
    (hopening : ∀ r f w, p = .opening r f w → ∀ due v, w ≠ .writing due v) :
    g.hub.Calm g'.hub ∨ ∃ r w, p = .writing r w ∧ w.due ≤ now ∧
      ∀ serial ≠ r.serial, g'.hub.channel? serial = g.hub.channel? serial := by
  obtain ⟨gates, q, hpiece, rfl | ⟨job, rfl, rfl⟩⟩ := advance_last ha
  · exact piece_calm (g := { g with gates }) hpiece hopening
  · obtain hcalm | ⟨r, w, hw, -⟩ :=
      piece_calm (g := { g with gates }) hpiece (fun _ _ _ he => by cases he)
    · exact .inl hcalm
    · cases hw

/-- Shutting down leaves every channel what it holds. -/
theorem shutdown_still (g : Gateway) : g.hub.Still g.shutdown.hub :=
  shutdown_keeps (fun _ c hs => hs.startClose c) (Hub.Still.refl _)

end Gateway

namespace Traffic

/-- **A move changes no channel that is not attached**, unless it ends a write that has waited. -/
theorem calm_step {t : Traffic} {m : Move} (own : ∀ hub, m ≠ .meddle hub)
    (hopening : ∀ k r f w, t.standing k = some (.opening r f w) → ∀ due v, w ≠ .writing due v) :
    t.gateway.hub.Calm (t.step m).gateway.hub ∨ ∃ ticket outside r w, m = .advance ticket outside ∧
      t.standing ticket = some (.writing r w) ∧ w.due ≤ t.now ∧
      ∀ serial ≠ r.serial,
        (t.step m).gateway.hub.channel? serial = t.gateway.hub.channel? serial := by
  have still : ∀ {hub}, hub = t.gateway.hub → t.gateway.hub.Calm hub :=
    fun he => he ▸ (Hub.Still.refl _).calm
  cases m with
  | arrive ticket jobs =>
    simp only [step]
    rcases t.arrive_cases ticket jobs with he | ⟨_, _, hg, _⟩
    · exact .inl (still (by rw [he]))
    · exact .inl (still (by rw [hg]))
  | advance ticket outside =>
    simp only [step]
    rcases t.advance_cases ticket outside with he | ⟨_, _, _, hg, _⟩ | ⟨p, _, _, hs, ha, hg, _⟩
    · exact .inl (still (by rw [he]))
    · exact .inl (still (by rw [hg]))
    · rw [hg]
      obtain hcalm | ⟨r, w, rfl, hdue, hothers⟩ :=
        Gateway.advance_calm ha fun r f w he => hopening ticket r f w (he ▸ hs)
      · exact .inl hcalm
      · exact .inr ⟨ticket, outside, r, w, rfl, hs, hdue, hothers⟩
  | cancel ticket =>
    simp only [step]
    rcases t.cancel_cases ticket with he | ⟨_, _, hg, _⟩
    · exact .inl (still (by rw [he]))
    · exact .inl (still (by rw [hg, Gateway.hub_cancel]))
  | intervene serial what =>
    simp only [step]
    rcases t.intervene_cases serial what with he | ⟨c, hub, events, effect, hc, hi, he⟩
    · exact .inl (still (by rw [he]))
    · have hserial := Hub.serial_of_channel? hc
      have hcalm := Hub.intervene_calm t.now (hserial ▸ hc) what
      rw [hi] at hcalm
      rw [he]
      left
      rw [Gateway.hub_observeAll]
      exact hcalm
  | tell event => exact .inl (still (t.gateway.hub_observe event))
  | shutdown => exact .inl (t.gateway.shutdown_still).calm
  | snapshot =>
    obtain ⟨i, hi⟩ := t.gateway.snapshot_snd
    simp only [step, hi]
    exact .inl ((Hub.Still.refl t.gateway.hub).withInjection i).calm
  | meddle hub => exact absurd rfl (own hub)
  | _ => exact .inl (Hub.Still.refl _).calm

/-- The end of a direct operation changes no channel that is not attached, unless it is a write. -/
theorem conclude_calm (t : Traffic) (serial : Nat) {w : Waiting}
    (hw : ∀ due v, w ≠ .writing due v) :
    t.gateway.hub.Calm (t.conclude serial w).gateway.hub := by
  rcases t.conclude_cases serial w with he | ⟨c, hub, events, _, rfl, he⟩
  · rw [he]
    exact (Hub.Still.refl _).calm
  · rw [he]
    dsimp only
    rw [Gateway.hub_observeAll]
    exact ((Hub.Still.refl _).resume c hw).calm

/-- The end of a direct operation leaves the other channels as they are. -/
theorem channel?_conclude_of_ne (t : Traffic) {serial other : Nat} (w : Waiting)
    (hne : other ≠ serial) :
    (t.conclude serial w).gateway.hub.channel? other = t.gateway.hub.channel? other := by
  rcases t.conclude_cases serial w with he | ⟨c, hub, events, hc, rfl, he⟩
  · rw [he]
  · rw [← Hub.serial_of_channel? hc] at hne
    rw [he]
    dsimp only
    rw [Gateway.hub_observeAll]
    exact Hub.channel?_resume_of_ne _ w hne

/-- A direct write that waits has just begun. -/
theorem await_begun {t : Traffic} {serial due : Nat} {v : Write} {io : Io}
    (h : t.await? serial io = some (serial, .writing due v)) :
    (t.step (.intervene serial (.operate io))).gateway.hub.Begun t.now serial (.writing due v) := by
  unfold await? at h
  split at h
  · cases h
  · rename_i c hc
    split at h
    · cases h
    · rename_i w hwaits
      cases h
      have hserial := Hub.serial_of_channel? hc
      have hbegun := Hub.start_begun (hserial.symm ▸ hc) hwaits
      simp only [step, intervene, hc]
      rw [Gateway.hub_observeAll]
      dsimp only [Hub.intervene]
      rw [Hub.operate_fst, ← hserial]
      exact hbegun

end Traffic

namespace Scene

variable {start s : Scene} {a : Act}

/-- The configuration of the hub stays, as long as no other hub is put in its place. -/
theorem config_step (s : Scene) {a : Act} (own : ∀ hub, a ≠ .move (.meddle hub)) :
    (s.step a).hub.config = s.hub.config := by
  unfold hub
  rcases s.step_cases a with ⟨m, hm, he⟩ | he | ⟨_, serial, w, _, _, _, he⟩
  · rw [he]
    cases s.traffic.step_change m with
    | removal taken gates standing frame =>
      exact congrArg Prod.fst (frame (Act.ne_meddle own hm))
    | begins idle gateway standing => rw [gateway]
    | ends stood gateway standing => rw [gateway, Gateway.hub_cancel]
    | advances own stood advance standing =>
      obtain ⟨gates, q, hpiece, -⟩ := Gateway.advance_last advance
      exact Gateway.config_piece (g := { s.traffic.gateway with gates }) hpiece
  · rw [he]
  · rcases s.traffic.conclude_cases serial w with hc | ⟨c, _, events, _, rfl, hc⟩
    · rw [he, hc]
    · rw [he, hc]
      refine (congrArg Hub.config (Gateway.hub_observeAll ..)).trans ?_
      exact congrArg Prod.fst (s.traffic.gateway.hub.frame_resume c w)

theorem config_run (start : Scene) {acts : List Act}
    (own : ∀ a ∈ acts, ∀ hub, a ≠ .move (.meddle hub)) :
    (start.run acts).hub.config = start.hub.config :=
  run_induction_of (P := fun s => s.hub.config = start.hub.config) rfl
    (fun s _ ha hs => (s.config_step ha).trans hs) own

/-- A request that waits for its channel waits for no write. -/
theorem opening_run (hstart : start.traffic.tasks = []) (acts : List Act) {k : Nat} {r : Resource}
    {f : Followup} {w : Waiting}
    (hs : (start.run acts).traffic.standing k = some (.opening r f w)) :
    ∀ due v, w ≠ .writing due v := by
  rintro due v rfl
  let P : Scene → Prop := fun s => s.traffic.standing k = some (.opening r f (.writing due v))
  have hnone : ¬ P start := by
    simp [P, Traffic.standing, Traffic.task?, hstart]
  have hcomes : ∀ s a, P (s.step a) → P s ∨ False := by
    intro s a h
    rcases standing_step h with hold | ⟨job, hready⟩ | ⟨outside, p, -, -, ha⟩
    · exact .inl hold
    · cases hready
    · obtain ⟨gates, q, hpiece, -⟩ := Gateway.advance_last ha
      exact absurd rfl (Gateway.piece_opening hpiece rfl due v)
  obtain ⟨_, _, hnever⟩ := origin (B := fun _ => False) hnone hcomes hs
  exact hnever

/-- An act ends a write that waits for the channel with a serial number. -/
inductive Ends (s : Scene) : Act → Nat → Waiting → Prop
  /-- The write of a request. -/
  | request {ticket : Nat} {outside : Nat → Bool} {r : Resource} {w : Waiting}
    (stands : s.traffic.standing ticket = some (.writing r w)) :
    Ends s (.move (.advance ticket outside)) r.serial w
  /-- The write of somebody who operates the channel directly. -/
  | direct {handle serial due : Nat} {v : Write}
    (waits : s.operation? handle = some (serial, .writing due v)) :
    Ends s (.conclude handle) serial (.writing due v)

/-- **An act changes no channel that is not attached**, unless it ends a write that has waited. -/
theorem calm_step (own : ∀ hub, a ≠ .move (.meddle hub))
    (hopening : ∀ k r f w, s.traffic.standing k = some (.opening r f w) →
      ∀ due v, w ≠ .writing due v) :
    s.hub.Calm (s.step a).hub ∨ ∃ serial w, s.Ends a serial w ∧ w.due ≤ s.traffic.now ∧
      ∀ other ≠ serial, (s.step a).hub.channel? other = s.hub.channel? other := by
  unfold hub
  rcases s.step_cases a with ⟨m, hm, he⟩ | he | ⟨handle, serial, w, rfl, ho, hdue, he⟩
  · rw [he]
    rcases Traffic.calm_step (Act.ne_meddle own hm) hopening with
      hcalm | ⟨ticket, outside, r, w, rfl, hs, hdue, hothers⟩
    · exact .inl hcalm
    · cases a with
      | move m =>
        cases hm
        exact .inr ⟨r.serial, w, .request hs, hdue, hothers⟩
      | _ => cases hm
  · rw [he]
    exact .inl (Hub.Still.refl _).calm
  · rw [he]
    cases w with
    | writing due v =>
      exact .inr ⟨serial, _, .direct ho, hdue, fun other hne =>
        s.traffic.channel?_conclude_of_ne _ hne⟩
    | attaching due => exact .inl (s.traffic.conclude_calm serial fun _ _ => by simp)
    | absent due timeout => exact .inl (s.traffic.conclude_calm serial fun _ _ => by simp)

/-- A write was checked in the course of a run: the hub is in realistic mode, and the write began
one delay before it is due, when its channel was attached. -/
def Checked (start : Scene) (acts : List Act) (serial : Nat) (w : Waiting) : Prop :=
  start.hub.config.mode = .realistic ∧ ∃ before, before <+: acts ∧
    w.due = (start.run before).traffic.now + start.hub.writeDelay ∧
    ∃ c, (start.run before).hub.channel? serial = some c ∧ c.attached = true

/-- A write that waits after an act waited before, or it has just begun. -/
theorem ends_step {serial : Nat} {w : Waiting} (h : ∃ b, (s.step a).Ends b serial w) :
    (∃ b, s.Ends b serial w) ∨ (s.step a).hub.Begun (s.step a).traffic.now serial w := by
  obtain ⟨b, hb⟩ := h
  cases hb with
  | @request ticket outside r w stands =>
    rcases standing_step stands with hold | ⟨job, hready⟩ | ⟨other, p, rfl, -, ha⟩
    · exact .inl ⟨.move (.advance ticket outside), .request hold⟩
    · cases hready
    · obtain ⟨gates, q, hpiece, -⟩ := Gateway.advance_last ha
      have hnow : (s.step (.move (.advance ticket other))).traffic.now = s.traffic.now :=
        s.traffic.now_step _
      rw [hnow]
      exact .inr (Gateway.piece_begun hpiece rfl)
  | @direct handle serial due v waits =>
    rcases operation_step waits with hold | ⟨io, rfl, hawait⟩
    · exact .inl ⟨_, .direct hold⟩
    · have hnow : (s.step (.operate handle serial io)).traffic.now = s.traffic.now :=
        s.traffic.now_step _
      rw [hnow]
      exact .inr (Traffic.await_begun hawait)

/-- **Every write that waits was checked** at an earlier moment of the run. -/
theorem checked_of_ends (hstart : start.traffic.tasks = [])
    (hnone : ∀ handle, start.operation? handle = none) {acts : List Act}
    (own : ∀ a ∈ acts, ∀ hub, a ≠ .move (.meddle hub)) {serial : Nat} {w : Waiting}
    (h : (start.run acts).Ends a serial w) : start.Checked acts serial w := by
  have hnever : ¬ ∃ b, start.Ends b serial w := by
    rintro ⟨b, hb⟩
    cases hb with
    | request stands => simp [Traffic.standing, Traffic.task?, hstart] at stands
    | direct waits =>
      rw [hnone] at waits
      cases waits
  obtain ⟨before, hbefore, hmode, hdue, hc⟩ := origin (P := fun s => ∃ b, s.Ends b serial w)
    (B := fun s => s.hub.Begun s.traffic.now serial w) hnever (fun _ _ => ends_step) ⟨a, h⟩
  have hconfig := start.config_run fun b hb => own b (hbefore.subset hb)
  have hdelay : (start.run before).hub.writeDelay = start.hub.writeDelay := by
    unfold Hub.writeDelay
    rw [hconfig]
  rw [hconfig] at hmode
  rw [hdelay] at hdue
  exact ⟨hmode, before, hbefore, hdue, hc⟩

end Scene

/-- **How what a channel holds can change.** Whenever an act changes the state, the voltage or the
writes of a channel, the channel is attached; or a write ends that has waited, and it began, one
delay before it was due, when the channel was attached. Outside realistic mode the second cannot
be. -/
theorem writes_checked (config : GatewayConfig) (hub : Hub) (acts : List Act) (a : Act)
    (own : ∀ a' ∈ acts ++ [a], ∀ hub', a' ≠ .move (.meddle hub')) :
    let start := Scene.ofGateway (.ofConfig config hub)
    let s := start.run acts
    ∀ serial < s.hub.created, ∀ c c', s.hub.channel? serial = some c →
      (s.step a).hub.channel? serial = some c' → c'.content ≠ c.content →
      c'.attached = true ∨
        ∃ w, s.Ends a serial w ∧ w.due ≤ s.traffic.now ∧ start.Checked acts serial w := by
  intro start s serial hlt c c' hold hnew hchange
  have hstart : start.traffic.tasks = [] := rfl
  have ha := own a (List.mem_append_right _ List.mem_cons_self)
  have hopening : ∀ k r f w, s.traffic.standing k = some (.opening r f w) →
      ∀ due v, w ≠ .writing due v := fun k r f w => Scene.opening_run hstart acts
  rcases Scene.calm_step ha hopening with hcalm | ⟨other, w, hends, hdue, hothers⟩
  · exact .inl ((hcalm serial hlt c c' hold hnew).resolve_left hchange)
  · by_cases he : serial = other
    · subst he
      have hchecked := Scene.checked_of_ends hstart (fun _ => rfl)
        (fun a' ha' => own a' (List.mem_append_left _ ha')) hends
      exact .inr ⟨w, hends, hdue, hchecked⟩
    · -- the other channels are as they were
      rw [hothers serial he, hold] at hnew
      cases hnew
      exact absurd rfl hchange

/-- A lamp loses its hardware while the value of a request is on its way: the value lands, and it
was checked when the lamp had just opened. -/
theorem writes_checked_lamp :
    let lamp : Job := .use ⟨"lamp", .digitalOutput, ⟨0, 0⟩, 5000⟩ (.write (.state true))
    let nobody : Nat → Bool := fun _ => false
    let acts : List Act := [.move (.arrive 0 [lamp]), .move (.advance 0 nobody), .move (.wait 250),
      .move (.advance 0 nobody), .move (.intervene 0 .detach), .move (.wait 2)]
    let start := Scene.ofGateway (.ofConfig {} (.ofConfig { mode := .realistic } 0))
    (∀ a ∈ acts ++ [.move (.advance 0 nobody)], ∀ hub, a ≠ .move (.meddle hub)) ∧
      ∃ w, (start.run acts).Ends (.move (.advance 0 nobody)) 0 w ∧ start.Checked acts 0 w := by
  intro lamp nobody acts start
  have own : ∀ a ∈ acts ++ [.move (.advance 0 nobody)], ∀ hub, a ≠ .move (.meddle hub) := by
    simp [acts]
  refine ⟨own, ?_⟩
  have hcreated : 0 < (start.run acts).hub.created := by decide +kernel
  have hbefore : ((start.run acts).hub.channel? 0).map (·.writes) = some 0 := by decide +kernel
  have hafter : (((start.run acts).step (.move (.advance 0 nobody))).hub.channel? 0).map
      (fun c => (c.writes, c.attached)) = some (1, false) := by decide +kernel
  obtain ⟨c, hc, hwrites⟩ := Option.map_eq_some_iff.mp hbefore
  obtain ⟨c', hc', hland⟩ := Option.map_eq_some_iff.mp hafter
  obtain ⟨hwrites', hattached⟩ := Prod.mk.inj hland
  have hchange : c'.content ≠ c.content := by
    intro he
    have : c'.writes = c.writes := congrArg (fun content => content.2.2) he
    omega
  rcases writes_checked {} (.ofConfig { mode := .realistic } 0) acts (.move (.advance 0 nobody)) own
    0 hcreated c c' hc hc' hchange with ha | ⟨w, hends, -, hchecked⟩
  · rw [hattached] at ha
    cases ha
  · exact ⟨w, hends, hchecked⟩

/-- A lamp loses its hardware while somebody writes to it directly. The value lands on a channel
that is not attached. -/
theorem detached_while_writing :
    let lamp : Job := .use ⟨"lamp", .digitalOutput, ⟨0, 0⟩, 5000⟩ .nothing
    let nobody : Nat → Bool := fun _ => false
    let start := Scene.ofGateway (.ofConfig {} (.ofConfig { mode := .realistic } 0))
    let written := start.run [.move (.arrive 0 [lamp]), .move (.advance 0 nobody),
      .move (.wait 250), .move (.advance 0 nobody), .operate 0 0 (.write (.state true))]
    let detached := written.run [.move (.intervene 0 .detach), .move (.wait 2)]
    (written.hub.channel? 0).map (fun c => (c.attached, c.state, c.writes)) =
        some (true, false, 0) ∧
      (detached.hub.channel? 0).map (fun c => (c.attached, c.state, c.writes)) =
        some (false, false, 0) ∧
      ((detached.step (.conclude 0)).hub.channel? 0).map (fun c =>
        (c.attached, c.state, c.writes)) =
        some (false, true, 1) := by
  decide +kernel

/-- It is the same when writing takes no time: the write still waits before it lands. -/
example :
    let lamp : Job := .use ⟨"lamp", .digitalOutput, ⟨0, 0⟩, 5000⟩ .nothing
    let nobody : Nat → Bool := fun _ => false
    let config : HubConfig := { mode := .realistic, timing := { ioDelay := 0 } }
    let start := Scene.ofGateway (.ofConfig {} (.ofConfig config 0))
    let written := start.run [.move (.arrive 0 [lamp]), .move (.advance 0 nobody),
      .move (.wait 250), .move (.advance 0 nobody), .operate 0 0 (.write (.state true))]
    let landed := written.run [.move (.intervene 0 .detach), .conclude 0]
    (landed.hub.channel? 0).map (fun c => (c.attached, c.state, c.writes)) =
      some (false, true, 1) := by
  decide +kernel

end ChannelGateway
