import ChannelGateway.Proofs.Lasting
import ChannelGateway.Proofs.Reading
import ChannelGateway.Proofs.Writes

/-!
# What an opening that succeeds leaves behind

A channel that opens is attached, whether the opening ends at once, after it has waited, or is that
of a request which then registers the channel. An opening of a channel that is already open succeeds
as well, and changes nothing: a channel that lost its hardware while it was open stays detached.
Only a detachment can have brought a channel there (`Hub.IsFirm`).

Operations of a channel that is attached are never refused for want of it; a reading or a write of a
channel that is not, and that nothing else fails, always is.

Results:
* `Hub.start_cause`: why an operation fails.
* `Hub.start_attached`, `Hub.start_detached`: what the attachment of a channel means to operations.
* `Hub.startOpen_ok`, `Gateway.piece_opens`: what an opening leaves behind.
* **`opened_or_lost`**: the same after every run; `reopened_detached` is the case to beware of.
-/

namespace ChannelGateway

/-! ## Operations and the hardware -/

/-- As which operation a reading or a write asks the faults, if it is one of the kind of its
channel. -/
def Io.access? (kind : ChannelKind) : Io → Option Operation
  | openWithin _ => none
  | close => none
  | readState => if kind.isDigital then some .readingState else none
  | readVoltage => if kind = .voltageOutput then some .readingVoltage else none
  | read => some kind.reader
  | write w => if kind = w.kind ∧ w.refusal?.isNone then some w.operation else none

/-- Why an operation on a channel can fail. -/
inductive Channel.Cause (c : Channel) : Io → HubFailure → Prop
  | injected {io : Io} {f : HubFailure} (struck : f.isInjected = true) : Cause c io f
  | absent (timeout : Nat) : Cause c (.openWithin timeout) (.attachTimeout c.spec.address timeout)
  | unsupported {io : Io} (operation : String) : Cause c io (c.unsupported operation)
  | outOfRange {volts : Float} (range : inVoltageRange volts = false) :
    Cause c (.write (.voltage volts)) (.voltageOutOfRange volts)
  | detached {io : Io} (lost : c.attached = false) : Cause c io c.notAttached

namespace IoStatus

/-- What an operation that has succeeded answers. -/
def reply? : IoStatus → Option Reply
  | finished (.ok reply) => some reply
  | _ => none

/-- Why an operation has failed. -/
def failure? : IoStatus → Option HubFailure
  | finished (.error f) => some f
  | _ => none

theorem eq_of_reply? {status : IoStatus} {reply : Reply} (h : status.reply? = some reply) :
    status = .finished (.ok reply) := by
  unfold reply? at h
  split at h
  · cases h
    rfl
  · cases h

end IoStatus

namespace Hub

variable {h : Hub} {c : Channel} {now timeout : Nat} {f : HubFailure}

/-- The injected faults fail an operation or let it pass. -/
theorem check_cases (h : Hub) (op : Operation) :
    (∃ i f, h.check op = (some f, h.withInjection i) ∧ f.isInjected = true) ∨
      ∃ i, h.check op = (none, h.withInjection i) := by
  rw [check_eq]
  cases hf : (h.injection.check op).1 with
  | none => exact .inr ⟨_, rfl⟩
  | some f => exact .inl ⟨_, f, rfl, Injection.isInjected_of_check hf⟩

theorem startOpen_cause (hf : (h.startOpen now c timeout).2.2 = .finished (.error f)) :
    c.Cause (.openWithin timeout) f := by
  unfold startOpen at hf
  rcases h.check_cases .opening with ⟨i, failure, hc, hinjected⟩ | ⟨i, hc⟩
  · rw [hc] at hf
    cases hf
    exact .injected hinjected
  · rw [hc] at hf
    dsimp only at hf
    split_ifs at hf
    all_goals cases hf
    exact .absent timeout

theorem startClose_cause (hf : (h.startClose c).2 = .finished (.error f)) : c.Cause .close f := by
  unfold startClose at hf
  rcases h.check_cases .closing with ⟨i, failure, hc, hinjected⟩ | ⟨i, hc⟩
  · rw [hc] at hf
    cases hf
    exact .injected hinjected
  · rw [hc] at hf
    cases hf

theorem readState_cause (io : Io) (hf : (h.readState c).2 = .error f) : c.Cause io f := by
  unfold readState at hf
  by_cases hk : (!c.spec.kind.isDigital) = true
  · rw [if_pos hk] at hf
    cases hf
    exact .unsupported _
  · rw [if_neg hk] at hf
    rcases h.check_cases .readingState with ⟨i, failure, hc, hinjected⟩ | ⟨i, hc⟩
    · rw [hc] at hf
      cases hf
      exact .injected hinjected
    · rw [hc] at hf
      dsimp only at hf
      split_ifs at hf with ha
      · cases hf
        exact .detached (Bool.eq_false_iff.mpr ha)

theorem readVoltage_cause (io : Io) (hf : (h.readVoltage c).2 = .error f) : c.Cause io f := by
  unfold readVoltage at hf
  by_cases hk : c.spec.kind ≠ .voltageOutput
  · rw [if_pos hk] at hf
    cases hf
    exact .unsupported _
  · rw [if_neg hk] at hf
    rcases h.check_cases .readingVoltage with ⟨i, failure, hc, hinjected⟩ | ⟨i, hc⟩
    · rw [hc] at hf
      cases hf
      exact .injected hinjected
    · rw [hc] at hf
      dsimp only at hf
      split_ifs at hf with ha
      · cases hf
        exact .detached (Bool.eq_false_iff.mpr ha)

theorem refusal_cause {w : Write} (hf : w.refusal? = some f) : c.Cause (.write w) f := by
  cases w with
  | state b => cases hf
  | voltage volts =>
    simp only [Write.refusal?] at hf
    split_ifs at hf with hrange
    · cases hf
      exact .outOfRange (Bool.eq_false_iff.mpr hrange)

theorem startWrite_cause {w : Write} (hf : (h.startWrite now c w).2 = .finished (.error f)) :
    c.Cause (.write w) f := by
  unfold startWrite at hf
  by_cases hk : c.spec.kind ≠ w.kind
  · rw [if_pos hk] at hf
    cases hf
    exact .unsupported _
  rw [if_neg hk] at hf
  cases hrefusal : w.refusal? with
  | some failure =>
    rw [hrefusal] at hf
    cases hf
    exact refusal_cause hrefusal
  | none =>
    rw [hrefusal] at hf
    dsimp only at hf
    rcases h.check_cases w.operation with ⟨i, failure, hc, hinjected⟩ | ⟨i, hc⟩
    · rw [hc] at hf
      cases hf
      exact .injected hinjected
    · rw [hc] at hf
      dsimp only at hf
      split_ifs at hf with ha
      all_goals cases hf
      exact .detached (by simpa using ha)

/-- **Why an operation fails.** -/
theorem start_cause {io : Io} (hf : (h.start now c io).2.2 = .finished (.error f)) :
    c.Cause io f := by
  cases io with
  | openWithin timeout => exact startOpen_cause hf
  | close => exact startClose_cause hf
  | readState => exact readState_cause _ (IoStatus.finished.inj hf)
  | readVoltage => exact readVoltage_cause _ (IoStatus.finished.inj hf)
  | read =>
    have hread : (h.read c).2 = .error f := IoStatus.finished.inj hf
    unfold Hub.read at hread
    split_ifs at hread
    · exact readState_cause _ hread
    · exact readVoltage_cause _ hread
  | write w => exact startWrite_cause hf

/-- **No operation of an attached channel is refused for want of the hardware.** -/
theorem start_attached (attached : c.attached = true) {io : Io}
    (hf : (h.start now c io).2.2 = .finished (.error f)) : f.error.kind ≠ .notAttached := by
  cases start_cause hf with
  | injected struck => exact (HubFailure.kind_of_isInjected struck).1
  | absent timeout => exact nofun
  | unsupported operation => exact nofun
  | outOfRange range => exact nofun
  | detached lost => exact absurd (lost.symm.trans attached) Bool.false_ne_true

theorem readState_detached (detached : c.attached = false) (digital : c.spec.kind.isDigital = true)
    (passes : (h.check .readingState).1 = none) : (h.readState c).2 = .error c.notAttached := by
  have hcheck : (h.injection.check .readingState).1 = none := passes
  unfold readState
  rw [check_eq, hcheck, digital, detached]
  rfl

theorem readVoltage_detached (detached : c.attached = false)
    (voltage : c.spec.kind = .voltageOutput) (passes : (h.check .readingVoltage).1 = none) :
    (h.readVoltage c).2 = .error c.notAttached := by
  have hcheck : (h.injection.check .readingVoltage).1 = none := passes
  unfold readVoltage
  rw [check_eq, hcheck, detached, if_neg (not_not.mpr voltage)]
  rfl

theorem startWrite_detached {w : Write} (detached : c.attached = false)
    (kind : c.spec.kind = w.kind) (accepted : w.refusal? = none)
    (passes : (h.check w.operation).1 = none) :
    (h.startWrite now c w).2 = .finished (.error c.notAttached) := by
  have hcheck : (h.injection.check w.operation).1 = none := passes
  unfold startWrite
  rw [if_neg (not_not.mpr kind), accepted]
  dsimp only
  rw [check_eq, hcheck, detached]
  rfl

/-- **A reading or a write of a detached channel is refused for want of the hardware**, if nothing
else fails it. -/
theorem start_detached (detached : c.attached = false) {io : Io} {op : Operation}
    (access : io.access? c.spec.kind = some op) (passes : (h.check op).1 = none) :
    (h.start now c io).2.2 = .finished (.error c.notAttached) := by
  cases io with
  | openWithin timeout => cases access
  | close => cases access
  | readState =>
    obtain ⟨digital, he⟩ := Option.ite_none_right_eq_some.mp access
    obtain rfl := Option.some.inj he
    exact congrArg IoStatus.finished (readState_detached detached digital passes)
  | readVoltage =>
    obtain ⟨voltage, he⟩ := Option.ite_none_right_eq_some.mp access
    obtain rfl := Option.some.inj he
    exact congrArg IoStatus.finished (readVoltage_detached detached voltage passes)
  | read =>
    obtain rfl : c.spec.kind.reader = op := Option.some.inj access
    have hread : (h.read c).2 = .error c.notAttached := by
      unfold Hub.read
      cases hk : c.spec.kind with
      | voltageOutput =>
        rw [hk] at passes
        exact readVoltage_detached detached hk passes
      | digitalOutput =>
        rw [hk] at passes
        exact readState_detached detached (hk ▸ rfl) passes
      | digitalInput =>
        rw [hk] at passes
        exact readState_detached detached (hk ▸ rfl) passes
    exact congrArg IoStatus.finished hread
  | write w =>
    obtain ⟨⟨kind, accepted⟩, he⟩ := Option.ite_none_right_eq_some.mp access
    obtain rfl := Option.some.inj he
    exact startWrite_detached detached kind (Option.isNone_iff_eq_none.mp accepted) passes

/-! ## Openings -/

theorem channel?_connect {serial : Nat} (hc : h.channel? serial = some c) :
    (h.modify serial Channel.connect).channel? serial = some c.connect := by
  rw [channel?_modify h serial serial (f := Channel.connect) fun _ => rfl, if_pos rfl, hc]
  rfl

/-- **What an opening leaves behind that succeeds at once**: an attached channel, or the channel
that was open before. -/
theorem startOpen_ok (hc : h.channel? c.serial = some c) {reply : Reply}
    (ends : (h.startOpen now c timeout).2.2 = .finished (.ok reply)) :
    ∃ c', (h.startOpen now c timeout).1.channel? c.serial = some c' ∧ c'.isOpen = true ∧
      (c'.attached = true ∨ c' = c) := by
  have ho := h.startOpen_outcome now c timeout
  generalize h.startOpen now c timeout = result at ho ends ⊢
  cases ho with
  | failed i f => cases ends
  | attaching i due place => cases ends
  | absent i due => cases ends
  | already i isOpen => exact ⟨c, hc, isOpen, .inr rfl⟩
  | opened i place =>
    exact ⟨c.connect, channel?_connect (h := h.withInjection i) hc, rfl, .inl rfl⟩

/-- Writing shows in no link. -/
theorem link_write (h : Hub) (serial other : Nat) (w : Write) :
    (h.modify serial w.apply).link other = h.link other := by
  rw [link_modify _ _ _ fun c => by cases w <;> rfl]
  split
  · cases w <;> rfl
  · rfl

/-- What is connected is open and attached. -/
theorem link_connect {serial : Nat} {l : ChannelSpec × Bool × Bool}
    (hl : (h.modify serial Channel.connect).link serial = some l) : l.2 = (true, true) := by
  rw [link_modify h serial serial (f := Channel.connect) fun _ => rfl, if_pos rfl] at hl
  obtain ⟨c, -, rfl⟩ := Option.map_eq_some_iff.mp hl
  rfl

end Hub

namespace Gateway

variable {g g' : Gateway} {now ticket : Nat} {held : Nat → Bool} {p p' : Progress}

theorem link_follow (g : Gateway) (now : Nat) (r : Resource) (followup : Followup) (serial : Nat) :
    (g.follow now r followup).1.hub.link serial = g.hub.link serial := by
  have ho := g.follow_outcome now r followup
  generalize g.follow now r followup = result at ho ⊢
  cases ho with
  | subscribed s => rfl
  | written i w => exact Hub.link_write (g.hub.withInjection i) r.serial serial w
  | waiting i due w => rfl
  | failed i f => rfl

theorem link_register (g : Gateway) (now ticket : Nat) (r : Resource) (followup : Followup)
    (serial : Nat) : (g.register now ticket r followup).1.hub.link serial = g.hub.link serial :=
  link_follow (({ g with registry := g.registry.insert r } : Gateway).leaveGate r.name ticket) ..

/-- The resource that has come to be registered is the one that has been inserted. -/
theorem eq_of_resolve_insert {registry : Registry} {name : String} {r s : Resource}
    (free : registry.resolve name = none) (found : (registry.insert s).resolve name = some r) :
    r = s := by
  rw [Registry.resolve_insert] at found
  split at found
  · exact (Option.some.inj found).symm
  · rw [free] at found
    cases found

/-- **What the opening of a request leaves behind**: an open and attached channel. -/
theorem piece_opens (hn : g.hub.Numbered) (hp : g.Piece now held ticket p g' p')
    (hw : ∀ r f w, p = .opening r f w → ∀ due v, w ≠ .writing due v) {name : String} {r : Resource}
    (free : g.registry.resolve name = none) (registers : g'.registry.resolve name = some r)
    {l : ChannelSpec × Bool × Bool} (hl : g'.hub.link r.serial = some l) : l.2 = (true, true) := by
  have unregistered : ∀ {registry : Registry}, g'.registry = registry →
      (∀ {s}, registry.resolve name = some s → g.registry.resolve name = some s) →
      l.2 = (true, true) := by
    intro registry he hkeeps
    rw [he] at registers
    rw [hkeeps registers] at free
    cases free
  cases hp with
  | @createOpen request followup hub events reply turn hfree known attempt =>
    rw [registry_register] at registers
    have hbefore : g.registry.takeId.2.resolve name = none := free
    obtain rfl := eq_of_resolve_insert hbefore registers
    rw [link_register] at hl
    have ho := attempt_outcome hn attempt
    cases ho with
    | already i isOpen => cases isOpen
    | opened i place => exact Hub.link_connect hl
  | @attached s followup w hub events reply due result =>
    rw [registry_register] at registers
    obtain rfl := eq_of_resolve_insert free registers
    rw [link_register] at hl
    cases w with
    | attaching t =>
      cases result
      rw [serial_channelOf] at hl
      exact Hub.link_connect hl
    | absent t timeout => cases result
    | writing t v => exact absurd rfl (hw _ _ _ rfl t v)
  | enter job => exact unregistered rfl fun hs => hs
  | reuse found => exact unregistered (registry_follow ..) fun hs => hs
  | join turn found => exact unregistered (registry_follow ..) fun hs => hs
  | refuse turn hfree missing => exact unregistered rfl fun hs => hs
  | create turn hfree known attempt => exact unregistered rfl fun hs => hs
  | createFailed turn hfree known attempt => exact unregistered rfl fun hs => hs
  | unattached due result => exact unregistered rfl fun hs => hs
  | written due result => exact unregistered rfl fun hs => hs
  | unwritten due result => exact unregistered rfl fun hs => hs
  | notFound turn hfree => exact unregistered rfl fun hs => hs
  | closeFailed turn found result => exact unregistered rfl fun hs => hs
  | @closed closing s hub reply turn found result =>
    refine unregistered (show _ = g.registry.drop closing s.id from rfl) fun hs => ?_
    rw [Registry.resolve_drop] at hs
    split at hs
    · cases hs
    · exact hs

end Gateway

/-! ## Channels that keep their hardware -/

namespace Hub

variable {h : Hub} {c : Channel} {serial : Nat}

/-- The channel with a serial number is attached as long as it is open. -/
def IsFirm (serial : Nat) (h : Hub) : Prop :=
  ∀ c ∈ h.tracked, c.serial = serial → c.isOpen = true → c.attached = true

theorem IsFirm.modify (hh : h.IsFirm serial) (other : Nat) {f : Channel → Channel}
    (hserial : ∀ c, (f c).serial = c.serial)
    (hf : ∀ c, c.serial = other → c.serial = serial → (c.isOpen = true → c.attached = true) →
      (f c).isOpen = true → (f c).attached = true) : (h.modify other f).IsFirm serial := by
  intro c hc hs hopen
  obtain ⟨c', hc', rfl⟩ := List.mem_map.mp hc
  split at hs
  · rename_i he
    rw [if_pos he] at hopen ⊢
    rw [hserial] at hs
    exact hf c' he hs (hh c' hc' hs) hopen
  · rename_i he
    rw [if_neg he] at hopen ⊢
    exact hh c' hc' hs hopen

theorem lasting_isFirm (serial : Nat) : Lasting (IsFirm serial) where
  asked _ _ hh := hh
  created h held spec hh c hc hs hopen := by
    rcases List.mem_append.mp hc with hold | hnew
    · exact hh c (List.mem_filter.mp hold).1 hs hopen
    · rw [List.mem_singleton.mp hnew] at hopen
      cases hopen
  connected h other hh := hh.modify other (fun _ => rfl) fun _ _ _ _ _ => rfl
  disconnected h other hh := hh.modify other (fun _ => rfl) fun _ _ _ _ hopen => by cases hopen
  written h other w hh :=
    hh.modify other (fun c => by cases w <;> rfl) fun c _ _ hc hopen => by
      cases w <;> exact hc hopen

theorem lasting_numbered : Lasting Numbered where
  asked _ _ hh := hh
  created _ held spec hh := hh.create held spec
  connected _ serial hh := hh.modify serial fun _ => rfl
  disconnected _ serial hh := hh.modify serial fun _ => rfl
  written _ serial w hh := hh.modify serial fun c => by cases w <;> rfl

/-- Whatever happens to the hardware of a channel, unless it is detached. -/
theorem IsFirm.intervene (hh : h.IsFirm serial) (now : Nat) {what : Intervention}
    (hw : ∀ io, what ≠ .operate io) (hne : c.serial = serial → what ≠ .detach) :
    (h.intervene now c what).1.IsFirm serial := by
  cases what with
  | change state =>
    have hstate : (h.modify c.serial fun c => { c with state }).IsFirm serial :=
      hh.modify c.serial (fun _ => rfl) fun _ _ _ hc => hc
    simp only [Hub.intervene, changeInput]
    split_ifs
    · exact hh
    · exact hh
    · exact hh
    · exact hstate
  | attach =>
    simp only [Hub.intervene, reattach]
    split_ifs
    · exact hh.modify c.serial (fun _ => rfl) fun _ _ _ _ _ => rfl
    · exact hh
  | detach =>
    exact hh.modify c.serial (fun _ => rfl) fun _ ho hs => absurd rfl (hne (ho.symm.trans hs))
  | fault code text => exact hh
  | inspect => exact hh
  | operate io => exact absurd rfl (hw io)

theorem Numbered.disturbance (hn : h.Numbered) {hub : Hub} {events : List HubEvent}
    (hd : Disturbance h c (hub, events)) : hub.Numbered := by
  cases hd with
  | still _ quiet => exact hn
  | changed state => exact hn.modify c.serial fun _ => rfl
  | detached => exact hn.modify c.serial fun _ => rfl
  | attached isOpen => exact hn.modify c.serial fun _ => rfl

end Hub

namespace Scene

variable {s : Scene} {a : Act} {serial : Nat}

/-- **A channel that is never detached** is attached whenever it is open. -/
theorem isFirm_run (hs : s.hub.IsFirm serial) {acts : List Act} (permitted : s.PermitsAll acts)
    (never : .move (.intervene serial .detach) ∉ acts) : (s.run acts).hub.IsFirm serial := by
  induction acts generalizing s with
  | nil => exact hs
  | cons a acts ih =>
    rw [List.mem_cons, not_or] at never
    obtain ⟨hfirst, hrest⟩ := never
    refine ih (lasting_step (Hub.lasting_isFirm serial) hs permitted.1 ?_) permitted.2 hrest
    rintro other what rfl hw c hc
    refine hs.intervene _ hw fun he => ?_
    rintro rfl
    rw [Hub.serial_of_channel? hc] at he
    exact hfirst (he ▸ rfl)

theorem numbered_run (hs : s.hub.Numbered) {acts : List Act} (permitted : s.PermitsAll acts) :
    (s.run acts).hub.Numbered := by
  refine run_induction_permitted (P := fun s => s.hub.Numbered) hs
    (fun s a permits h => ?_) permitted
  refine lasting_step Hub.lasting_numbered h permits fun serial what _ hw c _ => ?_
  exact h.disturbance (s.hub.intervene_disturbance s.traffic.now c hw)

/-! ## Openings that succeed -/

/-- An act by which an opening of the channel with a serial number succeeds. -/
inductive Opens (s : Scene) (serial : Nat) : Act → Prop
  /-- Somebody opens the channel directly, and need not wait. -/
  | atOnce {a : Act} {c : Channel} {timeout : Nat} {reply : Reply}
    (begins : a.move? = some (.intervene serial (.operate (.openWithin timeout))))
    (found : s.hub.channel? serial = some c)
    (ends : (s.hub.startOpen s.traffic.now c timeout).2.2 = .finished (.ok reply)) :
    Opens s serial a
  /-- A direct opening has waited. -/
  | later {handle due : Nat} {c : Channel} (found : s.hub.channel? serial = some c)
    (waits : s.operation? handle = some (serial, .attaching due)) (time : due ≤ s.traffic.now) :
    Opens s serial (.conclude handle)
  /-- A request has opened the channel, and registers it. -/
  | request {ticket : Nat} {outside : Nat → Bool} {name : String} {r : Resource} {c : Channel}
    (free : s.traffic.gateway.registry.resolve name = none)
    (registers : (s.step (.move (.advance ticket outside))).traffic.gateway.registry.resolve name =
      some r)
    (own : r.serial = serial)
    (found : (s.step (.move (.advance ticket outside))).hub.channel? serial = some c) :
    Opens s serial (.move (.advance ticket outside))

theorem Opens.of_reply? {timeout : Nat}
    (begins : a.move? = some (.intervene serial (.operate (.openWithin timeout))))
    (ends : ((s.hub.channel? serial).bind fun c =>
      (s.hub.startOpen s.traffic.now c timeout).2.2.reply?).isSome = true) : s.Opens serial a := by
  obtain ⟨reply, hreply⟩ := Option.isSome_iff_exists.mp ends
  obtain ⟨c, hc, hends⟩ := Option.bind_eq_some_iff.mp hreply
  exact .atOnce begins hc (IoStatus.eq_of_reply? hends)

/-- An act that makes a move does to the traffic what the move does. -/
theorem traffic_step {m : Move} (hm : a.move? = some m) :
    (s.step a).traffic = s.traffic.step m := by
  cases a with
  | move m' =>
    cases hm
    rfl
  | operate handle other io =>
    cases hm
    rfl
  | conclude handle => cases hm
  | abandon handle => cases hm

/-- **What an act leaves behind by which an opening succeeds.** -/
theorem Opens.outcome (ho : s.Opens serial a) (hn : s.hub.Numbered)
    (hw : ∀ k r f w, s.traffic.standing k = some (.opening r f w) → ∀ due v, w ≠ .writing due v) :
    ∃ c, (s.step a).hub.channel? serial = some c ∧ c.isOpen = true ∧
      (c.attached = true ∨ s.hub.channel? serial = some c) := by
  cases ho with
  | @atOnce _ c timeout reply begins found ends =>
    have hserial := Hub.serial_of_channel? found
    have hhub : (s.step a).hub = (s.hub.startOpen s.traffic.now c timeout).1 := by
      unfold hub
      rw [traffic_step begins]
      simp only [Traffic.step, Traffic.intervene]
      rw [show s.traffic.gateway.hub.channel? serial = some c from found]
      dsimp only
      rw [Gateway.hub_observeAll]
      exact s.hub.operate_fst s.traffic.now c (.openWithin timeout)
    obtain ⟨c', hc', hopen, hattached⟩ := Hub.startOpen_ok (hserial.symm ▸ found) ends
    rw [hserial] at hc'
    refine ⟨c', hhub ▸ hc', hopen, hattached.imp_right fun he => ?_⟩
    rw [he]
    exact found
  | @later handle due c found waits time =>
    have hhub : (s.step (.conclude handle)).hub = s.hub.modify serial Channel.connect := by
      have hserial := Hub.serial_of_channel? found
      have hconclude := s.hub.conclude_fst (hserial.symm ▸ found) (.attaching due)
      unfold hub
      simp only [step, waits]
      rw [if_pos (show (Waiting.attaching due).due ≤ s.traffic.now from time)]
      simp only [Traffic.conclude]
      rw [show s.traffic.gateway.hub.channel? serial = some c from found]
      dsimp only
      rw [Gateway.hub_observeAll]
      exact hconclude.trans (by rw [← hserial]; rfl)
    rw [hhub]
    exact ⟨c.connect, Hub.channel?_connect found, rfl, .inl rfl⟩
  | @request ticket outside name r c free registers own found =>
    have hlink : (s.step (.move (.advance ticket outside))).hub.link r.serial =
        some (c.spec, c.isOpen, c.attached) := by
      unfold Hub.link
      rw [own, found]
      rfl
    have hopens : (c.isOpen, c.attached) = (true, true) := by
      have hchange := s.traffic.step_change (.advance ticket outside)
      cases hchange with
      | removal taken gates standing frame =>
        rw [(Registry.removal_loses taken).2 registers] at free
        cases free
      | begins idle gateway standing =>
        exact absurd
          (registers.symm.trans ((congrArg (·.registry.resolve name) gateway).trans free))
          (by simp)
      | ends stood gateway standing =>
        have hregistry := congrArg Gateway.registry gateway
        rw [Gateway.registry_cancel] at hregistry
        exact absurd (registers.symm.trans ((congrArg (·.resolve name) hregistry).trans free))
          (by simp)
      | @advances ticket' outside' p p' _ stood advance standing =>
        obtain ⟨gates, q, hpiece, hq⟩ := Gateway.advance_last advance
        refine Gateway.piece_opens (g := { s.traffic.gateway with gates }) hn hpiece ?_ free
          registers
          hlink
        rcases hq with rfl | ⟨job, -, rfl⟩
        · intro r f w he
          exact hw ticket' r f w (he ▸ stood)
        · intro r f w he
          cases he
    obtain ⟨hopen, hattached⟩ := Prod.mk.inj hopens
    exact ⟨c, found, hopen, .inl hattached⟩

end Scene

/-! ## From the beginning -/

/-- **What an opening that succeeds leaves behind.** After every run, whoever opens a channel and
whether or not he has to wait: the channel is open. It is attached, and no operation is refused for
want of its hardware; or it was open and detached when the opening began and still is, since
somebody has detached it, and every reading and write of its kind that nothing else fails is refused
as not attached. -/
theorem opened_or_lost (gateway : GatewayConfig) (config : HubConfig) (seed : UInt64)
    {acts : List Act} {a : Act} {serial : Nat}
    (permitted : (Scene.ofGateway (.ofConfig gateway (.ofConfig config seed))).PermitsAll acts)
    (opens :
      ((Scene.ofGateway (.ofConfig gateway (.ofConfig config seed))).run acts).Opens serial a) :
    let s := (Scene.ofGateway (.ofConfig gateway (.ofConfig config seed))).run acts
    let s' := s.step a
    ∃ c, s'.hub.channel? serial = some c ∧ c.isOpen = true ∧
      (c.attached = true ∧
          (∀ now io f, (s'.hub.start now c io).2.2 = .finished (.error f) →
            f.error.kind ≠ .notAttached) ∨
        c.attached = false ∧ s.hub.channel? serial = some c ∧
          Act.move (.intervene serial .detach) ∈ acts ∧
          ∀ now io op, io.access? c.spec.kind = some op → (s'.hub.check op).1 = none →
            (s'.hub.start now c io).2.2 = .finished (.error c.notAttached)) := by
  intro s s'
  have hnumbered : s.hub.Numbered := Scene.numbered_run (fun c hc => by cases hc) permitted
  obtain ⟨c, hc, hopen, hattached⟩ :=
    opens.outcome hnumbered fun k r f w => Scene.opening_run rfl acts
  refine ⟨c, hc, hopen, ?_⟩
  cases ha : c.attached with
  | true => exact .inl ⟨rfl, fun now io f => Hub.start_attached ha⟩
  | false =>
    rw [ha] at hattached
    have hold := hattached.resolve_left Bool.false_ne_true
    refine .inr ⟨rfl, hold, ?_, fun now io op => Hub.start_detached ha⟩
    by_contra never
    have hfirm : s.hub.IsFirm serial :=
      Scene.isFirm_run (fun c hc => by cases hc) permitted never
    have hstill := hfirm c (Hub.mem_of_channel? hold) (Hub.serial_of_channel? hold) hopen
    rw [ha] at hstill
    cases hstill

/-- A lamp that has lost its hardware is closed before it is opened again. -/
theorem opened_lamp :
    let start := Scene.ofGateway (.ofConfig {} (.ofConfig {} 0))
    let hub := start.hub.create (fun _ => false) ⟨1, .digitalOutput, ⟨0, 0⟩⟩
    let acts : List Act := [.move (.meddle hub), .operate 0 0 (.openWithin 1000),
      .move (.intervene 0 .detach), .operate 0 0 .close]
    let again : Act := .operate 0 0 (.openWithin 1000)
    start.PermitsAll acts ∧ (start.run acts).Opens 0 again ∧
      ∃ c, ((start.run acts).step again).hub.channel? 0 = some c ∧ c.isOpen = true ∧
        c.attached = true := by
  intro start hub acts again
  have permitted : start.PermitsAll acts :=
    ⟨fun _ h => ⟨_, _, (Move.meddle.inj (Act.move.inj h)).symm⟩, Scene.permits_of_ne nofun,
      Scene.permits_of_ne nofun, Scene.permits_of_ne nofun, trivial⟩
  have opens : (start.run acts).Opens 0 again := .of_reply? rfl (by decide +kernel)
  have hattached : (((start.run acts).step again).hub.channel? 0).map (·.attached) = some true := by
    decide +kernel
  obtain ⟨c, hc, hopen, ⟨hstill, -⟩ | ⟨hdetached, -⟩⟩ := opened_or_lost {} _ 0 permitted opens
  · exact ⟨permitted, opens, c, hc, hopen, hstill⟩
  · rw [hc, Option.map_some, hdetached] at hattached
    cases hattached

/-- A lamp has lost its hardware and is opened again without having been closed. The opening
succeeds, and the lamp is still detached: its state cannot be read. -/
theorem reopened_detached :
    let start := Scene.ofGateway (.ofConfig {} (.ofConfig {} 0))
    let hub := start.hub.create (fun _ => false) ⟨1, .digitalOutput, ⟨0, 0⟩⟩
    let s := start.run [.move (.meddle hub), .operate 0 0 (.openWithin 1000),
      .move (.intervene 0 .detach)]
    let s' := s.step (.operate 0 0 (.openWithin 1000))
    s.Opens 0 (.operate 0 0 (.openWithin 1000)) ∧
      (s'.hub.channel? 0).map (fun c => (c.isOpen, c.attached)) = some (true, false) ∧
      ((s'.hub.channel? 0).bind fun c =>
        (s'.hub.start s'.traffic.now c .readState).2.2.failure?).map HubFailure.kind =
          some .notAttached := by
  intro start hub s s'
  have opens : s.Opens 0 (.operate 0 0 (.openWithin 1000)) := .of_reply? rfl (by decide +kernel)
  exact ⟨opens, by decide +kernel, by decide +kernel⟩

end ChannelGateway
