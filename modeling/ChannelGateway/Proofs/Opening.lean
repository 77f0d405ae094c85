import ChannelGateway.Proofs.Attachment
import ChannelGateway.Proofs.Persistence
import ChannelGateway.Proofs.Rig
import ChannelGateway.Proofs.SingleFlight

/-!
# How an opening ends, and when

Whether a channel can be opened is decided when the opening begins: the hub has its address, and in
realistic mode its hardware attaches within the timeout (`HubConfig.Admits`). How long it takes is
decided with it (`HubConfig.openTime`): nothing outside realistic mode; in it the time that the
hardware takes, cut off at the timeout, and the whole timeout where there is no hardware. Outside
realistic mode an opening ends at once. In it an opening waits, were it for no time at all, and
whatever is called on other channels, and even on this one, neither makes it end before its time nor
changes its outcome.

A request for a name that is to be opened at an address that the hub does not have is a case of
this: the channel that is created for it does not open, the request gives its gate back and is told
so, and nothing is registered. The gate keeps other requests for the name away until then.

Results:
* `Hub.startOpen_start`: all that beginning to open a channel can do, with the time that is left.
* `Rig.awaits_run`: a call that waits keeps its channel and what it waits for.
* `Traffic.opening_run`: a request that waits for its channel waits on until it goes on at its time.
* **`openings_end`**: how a direct opening ends and when, and how a request ends whose channel the
  hub does not have; `openings_end_lamp` is a hub for it.
-/

namespace ChannelGateway

namespace HubConfig

variable {config : HubConfig} {a : Address} {timeout : Nat}

/-- The hub has a port with the number of an address, and a channel behind it. -/
def Has (config : HubConfig) (a : Address) : Prop :=
  (0 ≤ a.hubPort.toInt ∧ a.hubPort.toInt < config.hubPorts.toNat) ∧
    0 ≤ a.channel.toInt ∧ a.channel.toInt < config.channelsPerPort.toNat

instance (config : HubConfig) (a : Address) : Decidable (config.Has a) :=
  inferInstanceAs (Decidable (_ ∧ _))

/-- Whether an opening at an address succeeds that nothing else fails. -/
def Admits (config : HubConfig) (a : Address) (timeout : Nat) : Prop :=
  config.Has a ∧ (config.mode = .realistic → config.timing.attachDelay.toNat ≤ timeout)

instance (config : HubConfig) (a : Address) (timeout : Nat) :
    Decidable (config.Admits a timeout) :=
  inferInstanceAs (Decidable (_ ∧ _))

/-- How long an opening at an address takes that nothing else fails. -/
def openTime (config : HubConfig) (a : Address) (timeout : Nat) : Nat :=
  if config.mode = .realistic then
    if config.Has a then min config.timing.attachDelay.toNat timeout else timeout
  else 0

theorem contains_iff : config.contains a = true ↔ config.Has a := by
  simp [contains, Has, and_assoc]

/-- No opening takes longer than its timeout. -/
theorem openTime_le (config : HubConfig) (a : Address) (timeout : Nat) :
    config.openTime a timeout ≤ timeout := by
  unfold openTime
  split_ifs
  · exact Nat.min_le_right ..
  · exact Nat.le_refl _
  · exact Nat.zero_le _

/-- An address that asks for a resource that is already open is not on the hub. -/
theorem not_has_existing (h : a.hubPort = Address.useExisting ∨ a.channel = Address.useExisting) :
    ¬ config.Has a := by
  rintro ⟨⟨hport, -⟩, hchannel, -⟩
  rcases h with h | h
  · rw [h] at hport
    exact absurd hport (by decide)
  · rw [h] at hchannel
    exact absurd hchannel (by decide)

/-- A place that is not known is not on the hub. -/
theorem not_has_missing (h : a.isMissing = true) : ¬ config.Has a := by
  rintro ⟨⟨hport, -⟩, hchannel, -⟩
  rcases Bool.or_eq_true_iff.mp h with h | h
  · rw [eq_of_beq h] at hchannel
    exact absurd hchannel (by decide)
  · rw [eq_of_beq h] at hport
    exact absurd hport (by decide)

theorem openTime_of_admits (h : config.Admits a timeout) :
    config.openTime a timeout = config.delay config.timing.attachDelay := by
  unfold openTime delay
  split_ifs with hmode hplace
  · exact Nat.min_eq_left (h.2 hmode)
  · exact absurd h.1 hplace
  · rfl

theorem openTime_of_not_admits (h : ¬ config.Admits a timeout) :
    config.openTime a timeout = if config.mode = .realistic then timeout else 0 := by
  unfold openTime
  split_ifs with hmode hplace
  · have hslow : timeout < config.timing.attachDelay.toNat :=
      Nat.lt_of_not_le fun hle => h ⟨hplace, fun _ => hle⟩
    exact Nat.min_eq_right (Nat.le_of_lt hslow)
  · rfl
  · rfl

/-- Where there is no hardware, an opening in realistic mode takes its whole timeout. -/
theorem openTime_of_not_has (off : ¬ config.Has a) (slow : config.mode = .realistic) :
    config.openTime a timeout = timeout := by
  unfold openTime
  rw [if_pos slow, if_neg off]

/-- The hub lets an opening go on if it has the address and attaches in time. -/
theorem admits_iff :
    config.contains a = true ∧ config.delay config.timing.attachDelay ≤ timeout ↔
      config.Admits a timeout := by
  unfold Admits delay
  rw [contains_iff]
  refine and_congr_right fun _ => ?_
  split_ifs with hmode
  · exact ⟨fun h _ => h, fun h => h hmode⟩
  · exact ⟨fun _ h => absurd h hmode, fun _ => Nat.zero_le _⟩

end HubConfig

namespace Hub

variable {h : Hub} {c : Channel} {now timeout : Nat}

/-- The time that an opening of a channel takes. -/
def openTime (h : Hub) (c : Channel) (timeout : Nat) : Nat :=
  h.config.openTime c.spec.address timeout

/-- What beginning to open a channel does that is not open, if the faults let it pass. -/
inductive OpenStart (h : Hub) (now : Nat) (c : Channel) (timeout : Nat) :
    Hub × List HubEvent × IoStatus → Prop
  | opened (i : Injection) (admits : h.config.Admits c.spec.address timeout)
    (swift : h.config.mode ≠ .realistic) :
    OpenStart h now c timeout ((h.withInjection i).modify c.serial Channel.connect,
      [.attached c.spec.id], .finished (.ok .done))
  | refused (i : Injection) (admits : ¬ h.config.Admits c.spec.address timeout)
    (swift : h.config.mode ≠ .realistic) :
    OpenStart h now c timeout
      (h.withInjection i, [], .finished (.error (.attachTimeout c.spec.address timeout)))
  | attaching (i : Injection) (admits : h.config.Admits c.spec.address timeout)
    (slow : h.config.mode = .realistic) :
    OpenStart h now c timeout
      (h.withInjection i, [], .waiting (.attaching (now + h.openTime c timeout)))
  | absent (i : Injection) (admits : ¬ h.config.Admits c.spec.address timeout)
    (slow : h.config.mode = .realistic) :
    OpenStart h now c timeout
      (h.withInjection i, [], .waiting (.absent (now + h.openTime c timeout) timeout))

/-- **All that beginning to open a channel can do** that is not open, if the faults let it pass. -/
theorem startOpen_start (closed : c.isOpen = false) (passes : (h.check .opening).1 = none)
    (now timeout : Nat) :
    OpenStart h now c timeout (h.startOpen now c timeout) := by
  rw [check_eq] at passes
  have hadmits := @HubConfig.admits_iff h.config c.spec.address timeout
  unfold startOpen
  rw [check_eq]
  dsimp only at passes ⊢
  rw [passes]
  dsimp only
  split_ifs with hopen hplace hmode hmode
  · rw [closed] at hopen
    cases hopen
  · have ha := hadmits.mp hplace
    have htime : h.openTime c timeout = h.config.delay h.config.timing.attachDelay :=
      HubConfig.openTime_of_admits ha
    have hstart : OpenStart h now c timeout (h.withInjection (h.injection.check .opening).2, [],
        .waiting (.attaching (now + h.openTime c timeout))) := .attaching _ ha hmode
    rwa [htime] at hstart
  · exact .opened _ (hadmits.mp hplace) hmode
  · have ha := fun ha => hplace (hadmits.mpr ha)
    have htime : h.openTime c timeout = timeout :=
      (HubConfig.openTime_of_not_admits ha).trans (if_pos hmode)
    have hstart : OpenStart h now c timeout (h.withInjection (h.injection.check .opening).2, [],
        .waiting (.absent (now + h.openTime c timeout) timeout)) := .absent _ ha hmode
    rwa [htime] at hstart
  · exact .refused _ (fun ha => hplace (hadmits.mpr ha)) hmode

/-- An opening ends at once that an injected fault fails. -/
theorem startOpen_of_fails {f : HubFailure} (fails : (h.check .opening).1 = some f) (now : Nat)
    (c : Channel) (timeout : Nat) : (h.startOpen now c timeout).2.2 = .finished (.error f) := by
  unfold startOpen
  rw [check_eq] at fails ⊢
  dsimp only at fails ⊢
  rw [fails]

end Hub

/-! ## Calls that wait -/

/-- A touch neither takes up nor gives up the call of a handle. -/
def Touch.Spares (handle : Nat) (touch : Touch) : Prop :=
  touch ≠ .finish handle ∧ touch ≠ .giveUp handle

namespace Rig

variable {r : Rig} {handle timeout : Nat} {c : Channel} {call : Pending} {touch : Touch}

/-- A call waits under a handle, and its channel is there. -/
structure Awaits (r : Rig) (handle : Nat) (call : Pending) (c : Channel) : Prop where
  waits : r.calls.get? handle = some call
  found : r.hub.channel? call.serial = some c

theorem get?_calls_step (hcall : r.calls.get? handle = some call) (hs : touch.Spares handle) :
    (r.step touch).calls.get? handle = some call := by
  have herase : ∀ {other}, other ≠ handle → (r.calls.erase other).get? handle = some call := by
    intro other hne
    rw [Table.get?_erase, if_neg hne, hcall]
  cases touch with
  | create outside spec => exact hcall
  | wait ms => exact hcall
  | giveUp other => exact herase fun he => hs.2 (he ▸ rfl)
  | finish other =>
    have hne : other ≠ handle := fun he => hs.1 (he ▸ rfl)
    simp only [step, act]
    split
    · exact hcall
    split
    · exact hcall
    split_ifs
    · exact herase hne
    · exact hcall
  | call other serial what =>
    simp only [step, act]
    split
    · rename_i c hfree hc
      have hne : other ≠ handle := by
        rintro rfl
        rw [hcall] at hfree
        cases hfree
      dsimp only [begin]
      split
      · exact hcall
      · rw [Table.get?_insert, if_neg hne, hcall]
    · exact hcall

/-- A call that waits keeps its channel and what it waits for. Only a call on the same channel
changes the channel. -/
theorem Awaits.step (ha : r.Awaits handle call c) (hr : r.Sound) (hs : touch.Spares handle) :
    ∃ c', (r.step touch).Awaits handle call c' ∧ c'.spec = c.spec ∧
      ((r.report? touch).toList.filter (fun report => report.channel.serial = call.serial) = [] →
        c' = c) := by
  have hcall := get?_calls_step ha.waits hs
  have ho := r.act_outcome hr touch
  generalize r.step touch = r', r.report? touch = report at ho hcall ⊢
  cases ho with
  | still hub calls => exact ⟨c, ⟨hcall, hub ▸ ha.found⟩, rfl, fun _ => rfl⟩
  | created outside spec hub calls =>
    have hlt := hr.numbered.lt_of_channel? ha.found
    refine ⟨c, ⟨hcall, ?_⟩, rfl, fun _ => rfl⟩
    rw [hub, Hub.channel?_create_of_ne spec (held_of_call ha.waits outside) (Nat.ne_of_lt hlt)]
    exact ha.found
  | @taken d d' what events answer? found deed puts calls =>
    have hfound := puts.channel? call.serial
    rw [deed.serial_eq] at hfound
    by_cases he : call.serial = d.serial
    · rw [if_pos he] at hfound
      have hd := ha.found
      rw [he, found] at hd
      cases hd
      exact ⟨d', ⟨hcall, hfound⟩, deed.spec_eq, fun hnone => by simp [he] at hnone⟩
    · rw [if_neg he] at hfound
      exact ⟨c, ⟨hcall, hfound.trans ha.found⟩, rfl, fun _ => rfl⟩

/-- **A call that waits** keeps its channel and what it waits for, over every run that neither takes
it up nor gives it up. -/
theorem awaits_run (ha : r.Awaits handle call c) (hr : r.Sound) {between : List Touch}
    (hs : ∀ touch ∈ between, touch.Spares handle) :
    ∃ c', (r.run between).Awaits handle call c' ∧ c'.spec = c.spec ∧
      (r.history between call.serial = [] → c' = c) := by
  induction between using List.reverseRecOn with
  | nil => exact ⟨c, ha, rfl, fun _ => rfl⟩
  | append_singleton between touch ih =>
    obtain ⟨d, hd, hspec, heq⟩ := ih fun touch ht => hs touch (List.mem_append_left _ ht)
    obtain ⟨e, he, hspec', heq'⟩ := hd.step (hr.run between) (hs touch (by simp))
    rw [run_concat, history_concat]
    refine ⟨e, he, hspec'.trans hspec, fun hnone => ?_⟩
    obtain ⟨hbefore, hlast⟩ := List.append_eq_nil_iff.mp hnone
    rw [heq' hlast, heq hbefore]

/-- A call is not taken up before its time. -/
theorem Awaits.early (ha : r.Awaits handle call c) (hdue : r.now < call.waiting.due) :
    r.act (.finish handle) = (r, none) := by
  simp only [act, ha.waits, ha.found]
  rw [if_neg (Nat.not_le.mpr hdue)]

/-- A call is taken up when its time has come. -/
theorem Awaits.due (ha : r.Awaits handle call c) (hdue : call.waiting.due ≤ r.now) :
    r.step (.finish handle) = (r.finish handle c call).1 ∧
      r.report? (.finish handle) = some (r.finish handle c call).2 := by
  simp only [Rig.step, report?, act, ha.waits, ha.found]
  rw [if_pos hdue]
  exact ⟨rfl, rfl⟩

/-! ## Openings -/

/-- A touch ends the opening of a channel. If the hub admits it, the channel attaches, and this is
told once; if not, its time is out, nothing is told and the channel stays as it is. -/
def EndsOpening (r : Rig) (touch : Touch) (c : Channel) (timeout : Nat) (admits : Prop) : Prop :=
  (admits →
    r.report? touch = some ⟨c, .operate (.openWithin timeout), [.attached c.spec.id],
        some (.reply .done)⟩ ∧
      (r.step touch).hub.channel? c.serial = some c.connect) ∧
  (¬ admits →
    ∃ f : HubFailure, f.error.kind = .timeout ∧
      r.report? touch = some ⟨c, .operate (.openWithin timeout), [], some (.refused f)⟩ ∧
      (r.step touch).hub.channel? c.serial = some c)

/-- How the opening of a channel ends that begins now, and when. -/
structure OpensOnTime (r : Rig) (config : HubConfig) (handle : Nat) (c : Channel) (timeout : Nat) :
    Prop where
  /-- It takes no longer than its timeout. -/
  bounded : config.openTime c.spec.address timeout ≤ timeout
  /-- Outside realistic mode it ends at once. -/
  swift : config.mode ≠ .realistic →
    r.EndsOpening (.call handle c.serial (.operate (.openWithin timeout))) c timeout
      (config.Admits c.spec.address timeout)
  /-- In realistic mode it waits, and nothing is told. -/
  waits : config.mode = .realistic →
    r.report? (.call handle c.serial (.operate (.openWithin timeout))) =
      some ⟨c, .operate (.openWithin timeout), [], none⟩
  /-- It does not end before its time, and then it does. Meanwhile a channel on which nothing is
  called stays as it is. -/
  slow : config.mode = .realistic →
    ∀ between : List Touch, (∀ touch ∈ between, touch.Spares handle) →
      let begun := r.step (.call handle c.serial (.operate (.openWithin timeout)))
      let later := begun.run between
      ∃ c', later.hub.channel? c.serial = some c' ∧ c'.spec = c.spec ∧
        (begun.history between c.serial = [] → c' = c) ∧
        (later.now < r.now + config.openTime c.spec.address timeout →
          later.act (.finish handle) = (later, none)) ∧
        (r.now + config.openTime c.spec.address timeout ≤ later.now →
          later.EndsOpening (.finish handle) c' timeout (config.Admits c.spec.address timeout))

/-- An opening that has waited for its channel ends with it. -/
theorem Awaits.attaches {due : Nat}
    (ha : r.Awaits handle ⟨c.serial, .operate (.openWithin timeout), .attaching due⟩ c)
    (hdue : due ≤ r.now) {admits : Prop} (hadmits : admits) :
    r.EndsOpening (.finish handle) c timeout admits := by
  obtain ⟨hstep, hreport⟩ := ha.due hdue
  have hconclude : r.hub.conclude c (.attaching due) =
      (r.hub.modify c.serial Channel.connect, [.attached c.spec.id], .reply .done) := by
    unfold Hub.conclude Hub.current
    rw [ha.found]
    rfl
  refine ⟨fun _ => ⟨?_, ?_⟩, fun hnot => absurd hadmits hnot⟩
  · rw [hreport]
    unfold finish
    rw [hconclude]
  · rw [hstep]
    unfold finish
    rw [hconclude]
    exact Hub.channel?_connect ha.found

/-- An opening that has waited in vain ends with nothing. -/
theorem Awaits.timesOut {due : Nat}
    (ha : r.Awaits handle ⟨c.serial, .operate (.openWithin timeout), .absent due timeout⟩ c)
    (hdue : due ≤ r.now) {admits : Prop} (hadmits : ¬ admits) :
    r.EndsOpening (.finish handle) c timeout admits := by
  obtain ⟨hstep, hreport⟩ := ha.due hdue
  have hconclude : r.hub.conclude c (.absent due timeout) =
      (r.hub, [], .refused (.attachTimeout c.spec.address timeout)) := by
    unfold Hub.conclude Hub.current
    rw [ha.found]
    rfl
  refine ⟨fun hyes => absurd hyes hadmits,
    fun _ => ⟨.attachTimeout c.spec.address timeout, rfl, hreport.trans ?_, ?_⟩⟩
  · unfold finish
    rw [hconclude]
  · rw [hstep]
    unfold finish
    rw [hconclude]
    exact ha.found

/-- What a call does that begins. -/
theorem act_call (hc : r.hub.channel? c.serial = some c) (free : r.calls.get? handle = none)
    (what : Intervention) :
    r.step (.call handle c.serial what) = (r.begin handle c what).1 ∧
      r.report? (.call handle c.serial what) = some (r.begin handle c what).2 := by
  constructor <;> simp only [step, report?, act, hc, free]

/-- An opening that has to wait ends on time, if it ends as the hub admits it. -/
theorem Sound.opensOnTime_of_waits {config : HubConfig} (hr : r.Sound) {w : Waiting}
    (hdue : w.due = r.now + config.openTime c.spec.address timeout)
    (realistic : config.mode = .realistic)
    (hreport : r.report? (.call handle c.serial (.operate (.openWithin timeout))) =
      some ⟨c, .operate (.openWithin timeout), [], none⟩)
    (ha : (r.step (.call handle c.serial (.operate (.openWithin timeout)))).Awaits handle
      ⟨c.serial, .operate (.openWithin timeout), w⟩ c)
    (ends : ∀ {later : Rig} {c' : Channel},
      later.Awaits handle ⟨c'.serial, .operate (.openWithin timeout), w⟩ c' → w.due ≤ later.now →
        later.EndsOpening (.finish handle) c' timeout (config.Admits c.spec.address timeout)) :
    r.OpensOnTime config handle c timeout where
  bounded := config.openTime_le _ _
  swift hswift := absurd realistic hswift
  waits _ := hreport
  slow _ between hs := by
    intro begun later
    obtain ⟨c', ha', hspec, heq⟩ := awaits_run ha (hr.step _) hs
    have hserial : c'.serial = c.serial := Hub.serial_of_channel? ha'.found
    refine ⟨c', ha'.found, hspec, heq, fun hearly => ha'.early (hdue ▸ hearly), fun hlate => ?_⟩
    exact ends (hserial.symm ▸ ha') (hdue ▸ hlate)

/-- **An opening ends as the hub admits it, and on time.** -/
theorem Sound.opensOnTime (hr : r.Sound) (hc : r.hub.channel? c.serial = some c)
    (closed : c.isOpen = false) (passes : (r.hub.check .opening).1 = none)
    (free : r.calls.get? handle = none) (timeout : Nat) :
    r.OpensOnTime r.hub.config handle c timeout := by
  obtain ⟨hstep, hreport⟩ := act_call hc free (.operate (.openWithin timeout))
  have hstart := Hub.startOpen_start closed passes r.now timeout
  unfold Rig.begin at hstep hreport
  simp only [Hub.intervene, Hub.operate, Hub.start] at hstep hreport
  generalize r.hub.startOpen r.now c timeout = result at hstart hstep hreport
  cases hstart with
  | opened i admits swift =>
    refine ⟨r.hub.config.openTime_le _ _,
      fun _ => ⟨fun _ => ⟨hreport, ?_⟩, fun hnot => absurd admits hnot⟩,
      fun hmode => absurd hmode swift, fun hmode => absurd hmode swift⟩
    rw [hstep]
    exact Hub.channel?_connect (h := r.hub.withInjection i) hc
  | refused i admits swift =>
    refine ⟨r.hub.config.openTime_le _ _, fun _ => ⟨fun hyes => absurd hyes admits,
        fun _ => ⟨.attachTimeout c.spec.address timeout, rfl, hreport, ?_⟩⟩,
      fun hmode => absurd hmode swift, fun hmode => absurd hmode swift⟩
    rw [hstep]
    exact hc
  | attaching i admits slow =>
    refine hr.opensOnTime_of_waits rfl slow hreport ⟨?_, ?_⟩ fun ha hdue => ha.attaches hdue admits
    · rw [hstep]
      exact (Table.get?_insert ..).trans (if_pos rfl)
    · rw [hstep]
      exact hc
  | absent i admits slow =>
    refine hr.opensOnTime_of_waits rfl slow hreport ⟨?_, ?_⟩ fun ha hdue => ha.timesOut hdue admits
    · rw [hstep]
      exact (Table.get?_insert ..).trans (if_pos rfl)
    · rw [hstep]
      exact hc

/-- Calls do not change the shape of a hub. -/
theorem config_run (hr : r.Sound) (touches : List Touch) :
    (r.run touches).hub.config = r.hub.config := by
  induction touches using List.reverseRecOn with
  | nil => rfl
  | append_singleton touches touch ih =>
    rw [run_concat, ← ih]
    have ho := (r.run touches).act_outcome (hr.run touches) touch
    generalize (r.run touches).step touch = r', (r.run touches).report? touch = report at ho ⊢
    cases ho with
    | still hub calls => rw [hub]
    | created outside spec hub calls => rw [hub]; rfl
    | taken found deed puts calls => exact congrArg Prod.fst puts.frame

end Rig

/-! ## Requests for a place that the hub does not have -/

namespace Hub

/-- A hub has a shape and has numbered its channels. -/
def IsShaped (config : HubConfig) (h : Hub) : Prop :=
  h.config = config ∧ h.Numbered

theorem lasting_isShaped (config : HubConfig) : Lasting (IsShaped config) where
  asked h i hh := ⟨hh.1, lasting_numbered.asked h i hh.2⟩
  created h held spec hh := ⟨hh.1, lasting_numbered.created h held spec hh.2⟩
  connected h serial hh := ⟨hh.1, lasting_numbered.connected h serial hh.2⟩
  disconnected h serial hh := ⟨hh.1, lasting_numbered.disconnected h serial hh.2⟩
  written h serial w hh := ⟨hh.1, lasting_numbered.written h serial w hh.2⟩

end Hub

namespace Gateway

variable {g g' : Gateway} {now ticket : Nat} {held : Nat → Bool} {request : OpenRequest}

/-- What beginning to open a new channel does, if the faults let it pass. -/
theorem attempt_start (hn : g.hub.Numbered) (passes : (g.hub.check .opening).1 = none) (now : Nat)
    (held : Nat → Bool) (request : OpenRequest) :
    Hub.OpenStart (g.enlist held request).hub now (.fresh g.hub.created (g.newcomer request).spec)
      request.timeout (g.attempt now held request) := by
  have closed : (Channel.fresh g.hub.created (g.newcomer request).spec).isOpen = false := rfl
  unfold Gateway.attempt
  rw [channelOf_enlist hn]
  exact Hub.startOpen_start (h := (g.enlist held request).hub) closed passes now request.timeout

/-- A channel that is created for a place that the hub does not have fails to open, or waits for the
whole timeout in vain. -/
theorem attempt_unplaced (hn : g.hub.Numbered) (off : ¬ g.hub.config.Has request.address)
    {hub : Hub}
    {events : List HubEvent} {status : IoStatus}
    (attempt : g.attempt now held request = (hub, events, status)) :
    (∃ f, status = .finished (.error f)) ∨
      status = .waiting (.absent (now + request.timeout) request.timeout) := by
  cases passes : (g.hub.check .opening).1 with
  | some f =>
    have hfails := Hub.startOpen_of_fails (h := (g.enlist held request).hub) passes now
      ((g.enlist held request).channelOf (g.newcomer request)) request.timeout
    exact .inl ⟨f, (congrArg (fun result => result.2.2) attempt).symm.trans hfails⟩
  | none =>
    have hstart := attempt_start hn passes now held request
    rw [attempt] at hstart
    cases hstart with
    | opened i admits swift => exact absurd admits.1 off
    | attaching i admits slow => exact absurd admits.1 off
    | refused i admits swift => exact .inl ⟨_, rfl⟩
    | absent i admits slow =>
      have htime : (g.enlist held request).hub.openTime
          (.fresh g.hub.created (g.newcomer request).spec) request.timeout = request.timeout :=
        HubConfig.openTime_of_not_has off slow
      rw [htime]
      exact .inr rfl

/-- A request is told that its channel did not open, or waits in vain until a time, and its name is
not registered. -/
inductive Vain (g : Gateway) (name : String) (deadline : Nat) (p : Progress) : Prop
  | told (failed : p.Failed name) (free : g.registry.resolve name = none)
  | waits {r : Resource} {f : Followup} {timeout : Nat}
    (stands : p = .opening r f (.absent deadline timeout)) (name_eq : r.name = name)
    (free : g.registry.resolve name = none)

/-- A request that holds the gate of a name that is not open creates a channel in vain, if the hub
does not have the place. -/
theorem piece_unplaced (hn : g.hub.Numbered) (off : ¬ g.hub.config.Has request.address)
    (free : g.registry.resolve request.name = none) (known : request.address.isMissing = false)
    {followup : Followup} {p' : Progress}
    (hp : g.Piece now held ticket (.queued (.use request followup)) g' p') :
    g'.Vain request.name (now + request.timeout) p' := by
  cases hp with
  | join turn found =>
    rw [free] at found
    cases found
  | refuse turn free missing =>
    rw [known] at missing
    cases missing
  | create turn free known attempt =>
    rcases attempt_unplaced hn off attempt with ⟨f, hf⟩ | hw
    · cases hf
    · cases hw
      exact .waits rfl rfl free
  | createOpen turn free known attempt =>
    rcases attempt_unplaced hn off attempt with ⟨f, hf⟩ | hw
    · cases hf
    · cases hw
  | createFailed turn free known attempt => exact .told ⟨_, rfl⟩ free

/-- A request that takes its ticket at a gate that nobody holds passes it. -/
theorem advance_of_free (now : Nat) (held : Nat → Bool) (ticket : Nat) (followup : Followup)
    (free : g.registry.resolve request.name = none) (hgate : g.gates.tickets request.name = []) :
    let entered := { g with gates := g.gates.enter request.name ticket }
    entered.gates.holds request.name ticket = true ∧
      g.advance now held ticket (.ready (.use request followup)) =
        some (entered.pass now held ticket (.use request followup)) := by
  intro entered
  have hturn : entered.gates.holds request.name ticket = true := by
    rw [Gates.holds_iff, Gates.tickets_enter, if_pos rfl, hgate]
    rfl
  refine ⟨hturn, ?_⟩
  simp only [advance, begin, free]
  exact congrArg some (if_pos hturn)

end Gateway

namespace Traffic

variable {t : Traffic} {m : Move} {ticket : Nat} {name : String} {deadline : Nat}

/-- The request of a task is told that its channel did not open, or waits in vain until a time, and
its name is not registered. -/
def InVain (t : Traffic) (ticket : Nat) (name : String) (deadline : Nat) : Prop :=
  ∃ p, t.standing ticket = some p ∧ t.gateway.Vain name deadline p

/-- The request of a task has been told that its channel did not open, and its name is not
registered. -/
def Unopened (t : Traffic) (ticket : Nat) (name : String) : Prop :=
  ∃ p, t.standing ticket = some p ∧ p.Failed name ∧ t.gateway.registry.resolve name = none

/-- What a move makes of the gateway and of a task whose request goes on. -/
theorem step_of_gateway {outside : Nat → Bool} {p p' : Progress} {g : Gateway}
    (stood : t.standing ticket = some p)
    (ha : t.gateway.advance t.now (t.held outside) ticket p = some (g, p')) :
    (t.step (.advance ticket outside)).gateway = g ∧
      (t.step (.advance ticket outside)).standing ticket = some p' := by
  obtain ⟨hg, hs⟩ := advance_of_gateway stood ha
  exact ⟨hg, (congrFun hs ticket).trans (Function.update_self ..)⟩

/-- **A request that nobody is before** at the gate of a name that is not open passes it when it
goes on. -/
theorem IsOrderly.passes (ho : t.IsOrderly) {request : OpenRequest} {p : Progress}
    (stood : t.standing ticket = some p) (asks : p.Asks request)
    (alone : ∀ k, t.gateway.gates.holds request.name k = true → k = ticket)
    (free : t.gateway.registry.resolve request.name = none) (outside : Nat → Bool) :
    ∃ gates followup g p', t.gateway.advance t.now (t.held outside) ticket p = some (g, p') ∧
      { t.gateway with gates }.Piece t.now (t.held outside) ticket
        (.queued (.use request followup)) g p' := by
  have hmem := Orderly.mem_tickets ho request.name ticket
  rw [stood, Option.bind_some] at hmem
  have hhead : ∀ {k rest}, t.gateway.gates.tickets request.name = k :: rest → k = ticket :=
    fun hq => alone _ (Gates.holds_iff.mpr (by rw [hq]; rfl))
  obtain ⟨followup, rfl | rfl⟩ := asks
  · -- it has no ticket, so nobody has one
    have hgate : t.gateway.gates.tickets request.name = [] := by
      cases hq : t.gateway.gates.tickets request.name with
      | nil => rfl
      | cons k rest =>
        rw [hq, hhead hq] at hmem
        cases hmem.mp List.mem_cons_self
    obtain ⟨hturn, ha⟩ := Gateway.advance_of_free t.now (t.held outside) ticket followup free hgate
    exact ⟨_, followup, _, _, ha, Gateway.pass_piece _ _ hturn⟩
  · -- its ticket is the first one
    have hturn : t.gateway.gates.holds request.name ticket = true := by
      rw [Gates.holds_iff]
      cases hq : t.gateway.gates.tickets request.name with
      | nil =>
        rw [hq] at hmem
        cases hmem.mpr rfl
      | cons k rest => rw [hhead hq, List.head?_cons]
    exact ⟨t.gateway.gates, followup, _, _, if_pos hturn, Gateway.pass_piece _ _ hturn⟩

/-- A request that nobody is before at the gate of a name that is not open creates a channel in vain
when it goes on, if the hub does not have the place. -/
theorem IsOrderly.inVain (ho : t.IsOrderly) (hn : t.gateway.hub.Numbered) {request : OpenRequest}
    (off : ¬ t.gateway.hub.config.Has request.address) {p : Progress}
    (stood : t.standing ticket = some p) (asks : p.Asks request)
    (alone : ∀ k, t.gateway.gates.holds request.name k = true → k = ticket)
    (free : t.gateway.registry.resolve request.name = none)
    (known : request.address.isMissing = false) (outside : Nat → Bool) :
    (t.step (.advance ticket outside)).InVain ticket request.name (t.now + request.timeout) := by
  obtain ⟨gates, followup, g, p', ha, hp⟩ := ho.passes stood asks alone free outside
  obtain ⟨hg, hs⟩ := step_of_gateway stood ha
  refine ⟨p', hs, ?_⟩
  rw [hg]
  exact Gateway.piece_unplaced (g := { t.gateway with gates }) hn off free known hp

/-- A request that waits for its channel is left waiting by every move but one that gives it up, and
one that lets it go on at its time. -/
theorem opening_step {r : Resource} {f : Followup} {w : Waiting}
    (stood : t.standing ticket = some (.opening r f w)) (kept : m ≠ .cancel ticket)
    (early : ∀ outside, m = .advance ticket outside → ¬ w.due ≤ t.now) :
    (t.step m).standing ticket = some (.opening r f w) := by
  by_cases hadvance : ∃ outside, m = .advance ticket outside
  · obtain ⟨outside, rfl⟩ := hadvance
    have hwaits : t.gateway.advance t.now (t.held outside) ticket (.opening r f w) = none :=
      if_neg (early outside rfl)
    rcases t.advance_cases ticket outside with he | ⟨_, _, hs, _⟩ | ⟨p, g, p', hs, ha, _⟩
    · simp only [step]
      rwa [he]
    · rw [stood] at hs
      cases hs
    · rw [stood] at hs
      cases hs
      rw [hwaits] at ha
      cases ha
  · obtain ⟨u, hu, hprogress⟩ := Option.map_eq_some_iff.mp stood
    have hu' := t.task?_step hu (fun outside he => hadvance ⟨outside, he⟩) kept
    rw [standing, hu', Option.map_some, hprogress]

/-- **A request that waits for its channel** waits on over every run that does not give it up, or
goes on at its time in the run. -/
theorem opening_run {r : Resource} {f : Followup} {w : Waiting}
    (stood : t.standing ticket = some (.opening r f w)) {more : List Move}
    (kept : ∀ m ∈ more, m ≠ .cancel ticket) :
    (t.run more).standing ticket = some (.opening r f w) ∨
      ∃ before outside, before ++ [.advance ticket outside] <+: more ∧
        (t.run before).standing ticket = some (.opening r f w) ∧ w.due ≤ (t.run before).now := by
  induction more generalizing t with
  | nil => exact .inl stood
  | cons m more ih =>
    by_cases hgoes : ∃ outside, m = .advance ticket outside ∧ w.due ≤ t.now
    · obtain ⟨outside, rfl, hdue⟩ := hgoes
      exact .inr ⟨[], outside, List.cons_prefix_cons.mpr ⟨rfl, List.nil_prefix⟩, stood, hdue⟩
    · have hstands := opening_step stood (kept m List.mem_cons_self)
        fun outside hm hdue => hgoes ⟨outside, hm, hdue⟩
      refine (ih hstands fun m' hm' => kept m' (List.mem_cons_of_mem m hm')).imp_right ?_
      rintro ⟨before, outside, hbefore, hrest⟩
      exact ⟨m :: before, outside, List.cons_prefix_cons.mpr ⟨rfl, hbefore⟩, hrest⟩

/-- A request that has waited in vain is told when it goes on. -/
theorem IsOrderly.unopened (ho : t.IsOrderly) {r : Resource} {f : Followup} {timeout : Nat}
    (stood : t.standing ticket = some (.opening r f (.absent deadline timeout)))
    (hdue : deadline ≤ t.now) (outside : Nat → Bool) :
    (t.step (.advance ticket outside)).Unopened ticket r.name := by
  have ha : t.gateway.advance t.now (t.held outside) ticket
      (.opening r f (.absent deadline timeout)) = some (t.gateway.abandon ticket r
        (.attachTimeout (t.gateway.channelOf r).spec.address timeout)) := if_pos hdue
  obtain ⟨hg, hs⟩ := step_of_gateway stood ha
  refine ⟨_, hs, ⟨_, rfl⟩, ?_⟩
  rw [hg]
  exact (Orderly.awaits ho stood).free

/-- **A request that is in vain** stays so over every run that does not give it up, until it is
told. -/
theorem InVain.run (hv : t.InVain ticket name deadline) (ho : t.IsOrderly) {more : List Move}
    (kept : ∀ m ∈ more, m ≠ .cancel ticket) :
    (∃ before, before <+: more ∧ (t.run before).Unopened ticket name) ∨
      (t.run more).InVain ticket name deadline ∧
        (deadline ≤ (t.run more).now →
          ∀ outside, ((t.run more).step (.advance ticket outside)).Unopened ticket name) := by
  obtain ⟨p, hp, hvain⟩ := hv
  cases hvain with
  | told failed free => exact .inl ⟨[], List.nil_prefix, p, hp, failed, free⟩
  | waits stands name_eq free =>
    subst stands name_eq
    rcases opening_run hp kept with hstands | ⟨before, outside, hbefore, hstands, hdue⟩
    · have hrun := ho.run more
      exact .inr ⟨⟨_, hstands, .waits rfl rfl (Orderly.awaits hrun hstands).free⟩,
        fun hdue => hrun.unopened hstands hdue⟩
    · refine .inl ⟨_, hbefore, ?_⟩
      rw [run_append]
      exact (ho.run before).unopened hstands hdue outside

/-- Requests and what happens to channels leave a hub its shape. -/
theorem isShaped_run {config : HubConfig} (hs : t.gateway.hub.IsShaped config) {moves : List Move}
    (own : ∀ m ∈ moves, ∀ hub, m ≠ .meddle hub) : (t.run moves).gateway.hub.IsShaped config := by
  refine run_induction_of (P := fun t => t.gateway.hub.IsShaped config) hs (fun t m own h => ?_) own
  -- traffic is a scene on which nobody operates a channel directly
  have hpermits : (⟨t, fun _ => none⟩ : Scene).Permits (.move m) :=
    Scene.permits_of_ne fun hub he => own hub (Act.move.inj he)
  refine Scene.lasting_step (Hub.lasting_isShaped config) (s := ⟨t, fun _ => none⟩) h hpermits
    fun serial what _ hw c _ => ⟨?_, ?_⟩
  · exact (congrArg Prod.fst (Hub.frame_intervene ..)).trans h.1
  · exact h.2.disturbance (Hub.intervene_disturbance _ _ c hw)

end Traffic

/-- **How an opening ends, and when.** A direct opening of a channel that is not open, if the faults
let it pass, ends as the hub admits it, on time and undisturbed by calls on other channels; any two
values may be its address and any number of milliseconds its timeout. A field that asks for a
resource that is already open is not on any hub. A request for a name that is not open, at a place
that the hub does not have, is told when its turn comes that its channel did not open, at once or
when its timeout is over, and its name is not registered then. -/
theorem openings_end (gateway : GatewayConfig) (config : HubConfig) (seed : UInt64) :
    (∀ (injection : Injection) (touches : List Touch) (handle serial timeout : Nat) (c : Channel),
      let r := (Rig.ofConfig config seed injection).run touches
      r.hub.channel? serial = some c → c.isOpen = false → (r.hub.check .opening).1 = none →
        r.calls.get? handle = none → r.OpensOnTime config handle c timeout) ∧
    (∀ a : Address, a.hubPort = Address.useExisting ∨ a.channel = Address.useExisting →
      ¬ config.Has a) ∧
    ∀ (moves more : List Move) (ticket : Nat) (request : OpenRequest) (p : Progress)
      (outside : Nat → Bool),
      let t := (Traffic.ofGateway (.ofConfig gateway (.ofConfig config seed))).run moves
      let begun := t.step (.advance ticket outside)
      (∀ m ∈ moves, ∀ hub, m ≠ .meddle hub) → (∀ m ∈ more, m ≠ .cancel ticket) →
      t.standing ticket = some p → p.Asks request →
      (∀ k, t.gateway.gates.holds request.name k = true → k = ticket) →
      t.gateway.registry.resolve request.name = none → request.address.isMissing = false →
      ¬ config.Has request.address →
        (∃ before, before <+: more ∧ (begun.run before).Unopened ticket request.name) ∨
          (begun.run more).InVain ticket request.name (t.now + request.timeout) ∧
            (t.now + request.timeout ≤ (begun.run more).now →
              ∀ outside, ((begun.run more).step (.advance ticket outside)).Unopened ticket
                request.name) := by
  refine ⟨?_, fun a => HubConfig.not_has_existing, ?_⟩
  · intro injection touches handle serial timeout c r hc closed passes free
    have hr : r.Sound := (Rig.sound_ofConfig config seed injection).run touches
    have hconfig : r.hub.config = config :=
      Rig.config_run (Rig.sound_ofConfig config seed injection) touches
    have hserial := Hub.serial_of_channel? hc
    have htimely := hr.opensOnTime (hserial.symm ▸ hc) closed passes free timeout
    rwa [hconfig] at htimely
  · intro moves more ticket request p outside t begun own kept stood asks alone free known off
    have ho : t.IsOrderly := Traffic.isOrderly_run gateway _ moves
    obtain ⟨hconfig, hn⟩ : t.gateway.hub.IsShaped config :=
      Traffic.isShaped_run ⟨rfl, fun c hc => by cases hc⟩ own
    rw [← hconfig] at off
    exact (ho.inVain hn off stood asks alone free known outside).run (ho.step _) kept

/-- A lamp on a slow hub is opened directly, and another one is asked for at a port that asks for a
lamp that is already open. -/
theorem openings_end_lamp :
    let config : HubConfig := { mode := .realistic }
    let lamp : Channel := .fresh 0 ⟨1, .digitalOutput, ⟨0, 0⟩⟩
    let r := (Rig.ofConfig config 0 .none).run [.create (fun _ => true) lamp.spec]
    let request : OpenRequest := ⟨"lamp", .digitalOutput, ⟨0, -2⟩, 1000⟩
    let t := (Traffic.ofGateway (.ofConfig {} (.ofConfig config 0))).run
      [.arrive 0 [.use request .nothing]]
    let begun := t.step (.advance 0 fun _ => false)
    r.OpensOnTime config 0 lamp 1000 ∧ ∃ more, (begun.run more).Unopened 0 "lamp" := by
  intro config lamp r request t begun
  obtain ⟨hopens, habsent, hrequests⟩ := openings_end {} config 0
  refine ⟨?_, ?_⟩
  · have passes : (r.hub.check .opening).1.isNone = true := by decide +kernel
    exact hopens .none _ 0 0 1000 lamp rfl rfl (Option.isNone_iff_eq_none.mp passes) rfl
  · have alone : ∀ k, t.gateway.gates.holds request.name k = true → k = 0 := by
      intro k hk
      rw [Gates.holds_iff] at hk
      cases hk
    have off : ¬ config.Has request.address := habsent request.address (.inl rfl)
    obtain ⟨before, -, htold⟩ | ⟨-, hlate⟩ := hrequests [.arrive 0 [.use request .nothing]]
      [.wait 1000] 0 request _ (fun _ => false) (by simp) (by simp) rfl ⟨_, .inl rfl⟩ alone rfl
      rfl off
    · exact ⟨before, htold⟩
    · exact ⟨[.wait 1000, .advance 0 fun _ => false], hlate (by decide +kernel) fun _ => false⟩

end ChannelGateway
