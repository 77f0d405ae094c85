import ChannelGateway.Bench.Hub

/-!
# What the operations of a hub do to its channels

Every operation asks the injected faults once and changes the channel it is for, or no channel. The
lemmas say for each operation all that it can do; `h.withInjection i` is the hub after the faults
have been asked.

Results:
* `startOpen_outcome`, `startClose_outcome`, `startWrite_outcome`: all that an operation can do.
* `channel?_modify`, `channel?_create_of_ne`, `channel?_create_self`: the channels through the view
  `Hub.channel?`.
-/

namespace ChannelGateway.Hub

variable {h h' : Hub} {c : Channel}

/-! ## The channels of a hub -/

theorem serial_of_channel? {serial : Nat} (hc : h.channel? serial = some c) :
    c.serial = serial := by
  simpa using List.find?_some hc

theorem mem_of_channel? {serial : Nat} (hc : h.channel? serial = some c) : c ∈ h.tracked :=
  List.mem_of_find?_eq_some hc

/-- A change of one channel, as the view sees it. -/
theorem channel?_modify (h : Hub) (serial other : Nat) {f : Channel → Channel}
    (hf : ∀ c, (f c).serial = c.serial) :
    (h.modify serial f).channel? other =
      if other = serial then (h.channel? other).map f else h.channel? other := by
  have hmap : (h.modify serial f).channel? other =
      (h.channel? other).map fun c => if c.serial = serial then f c else c :=
    find?_map_of_keeps (fun c => by by_cases hc : c.serial = serial <;> simp [hc, hf]) _
  rw [hmap]
  cases hc : h.channel? other with
  | none => simp
  | some c =>
    have hs := serial_of_channel? hc
    by_cases ho : other = serial
    · simp [hs, ho]
    · simp [hs, ho]

theorem channel?_modify_of_ne (h : Hub) {serial other : Nat} (hne : other ≠ serial)
    {f : Channel → Channel} (hf : ∀ c, (f c).serial = c.serial) :
    (h.modify serial f).channel? other = h.channel? other :=
  (channel?_modify h serial other hf).trans (if_neg hne)

/-- A held channel is still there after another one has been created. -/
theorem channel?_create_of_ne {held : Nat → Bool} {serial : Nat} (spec : ChannelSpec)
    (hheld : held serial = true) (hne : serial ≠ h.created) :
    (h.create held spec).channel? serial = h.channel? serial := by
  unfold create channel? live
  have hnew :
      [Channel.fresh h.created spec].find? (fun c => decide (c.serial = serial)) = none := by
    simp [Channel.fresh, Ne.symm hne]
  rw [List.find?_append, List.find?_filter, hnew, Option.or_none]
  congr 1
  funext c
  by_cases hc : c.serial = serial
  · simp [hc, hheld]
  · simp [hc]

/-- The channel that has just been created, on a hub that numbers its channels. -/
theorem channel?_create_self {held : Nat → Bool} (spec : ChannelSpec)
    (hlt : ∀ c ∈ h.tracked, c.serial < h.created) :
    (h.create held spec).channel? h.created = some (.fresh h.created spec) := by
  unfold create channel? live
  have hold : (h.tracked.filter fun c => held c.serial).find?
      (fun c => decide (c.serial = h.created)) = none := by
    rw [List.find?_eq_none]
    intro c hc
    have := hlt c (List.mem_filter.mp hc).1
    simp only [decide_eq_true_eq]
    omega
  rw [List.find?_append, hold, Option.none_or]
  simp [Channel.fresh]

/-! ## Links -/

/-- What a channel was created for, and whether it is open and attached. -/
def link (h : Hub) (serial : Nat) : Option (ChannelSpec × Bool × Bool) :=
  (h.channel? serial).map fun c => (c.spec, c.isOpen, c.attached)

/-- Every channel has a serial number that has been given out. -/
def Numbered (h : Hub) : Prop :=
  ∀ c ∈ h.tracked, c.serial < h.created

theorem Numbered.lt_of_channel? (hn : h.Numbered) {serial : Nat} (hc : h.channel? serial = some c) :
    serial < h.created := by
  have hlt := hn c (mem_of_channel? hc)
  rwa [serial_of_channel? hc] at hlt

theorem Numbered.lt_of_link (hn : h.Numbered) {serial : Nat} {l : ChannelSpec × Bool × Bool}
    (hl : h.link serial = some l) : serial < h.created := by
  obtain ⟨c, hc, -⟩ := Option.map_eq_some_iff.mp hl
  exact hn.lt_of_channel? hc

theorem Numbered.modify (hn : h.Numbered) (serial : Nat) {f : Channel → Channel}
    (hf : ∀ c, (f c).serial = c.serial) : (h.modify serial f).Numbered := by
  intro c hc
  obtain ⟨c', hc', rfl⟩ := List.mem_map.mp hc
  split
  · rw [hf]
    exact hn c' hc'
  · exact hn c' hc'

theorem Numbered.create (hn : h.Numbered) (held : Nat → Bool) (spec : ChannelSpec) :
    (h.create held spec).Numbered := by
  intro c hc
  rcases List.mem_append.mp hc with hc | hc
  · exact Nat.lt_succ_of_lt (hn c (List.mem_filter.mp hc).1)
  · rw [List.mem_singleton] at hc
    rw [hc]
    exact Nat.lt_succ_self _

@[simp]
theorem link_withInjection (h : Hub) (i : Injection) (serial : Nat) :
    (h.withInjection i).link serial = h.link serial := rfl

/-- A change of one channel, as its link shows it. -/
theorem link_modify (h : Hub) (serial other : Nat) {f : Channel → Channel}
    (hf : ∀ c, (f c).serial = c.serial) :
    (h.modify serial f).link other =
      if other = serial then (h.channel? other).map fun c =>
        ((f c).spec, (f c).isOpen, (f c).attached)
      else h.link other := by
  unfold link
  rw [channel?_modify h serial other hf]
  split
  · rw [Option.map_map]
    rfl
  · rfl

/-! ## The outcomes of operations -/

theorem check_eq (h : Hub) (op : Operation) :
    h.check op = ((h.injection.check op).1, h.withInjection (h.injection.check op).2) := rfl

/-- What beginning to open a channel ends in. -/
inductive OpenOutcome (h : Hub) (c : Channel) (timeout : Nat) :
    Hub × List HubEvent × IoStatus → Prop
  | failed (i : Injection) (f : HubFailure) :
    OpenOutcome h c timeout (h.withInjection i, [], .finished (.error f))
  | attaching (i : Injection) (due : Nat) (place : h.config.contains c.spec.address = true) :
    OpenOutcome h c timeout (h.withInjection i, [], .waiting (.attaching due))
  | absent (i : Injection) (due : Nat) :
    OpenOutcome h c timeout (h.withInjection i, [], .waiting (.absent due timeout))
  | already (i : Injection) (isOpen : c.isOpen = true) :
    OpenOutcome h c timeout (h.withInjection i, [], .finished (.ok .done))
  | opened (i : Injection) (place : h.config.contains c.spec.address = true) :
    OpenOutcome h c timeout ((h.withInjection i).modify c.serial Channel.connect,
      [.attached c.spec.id], .finished (.ok .done))

/-- What closing a channel ends in. -/
inductive CloseOutcome (h : Hub) (c : Channel) : Hub × IoStatus → Prop
  | failed (i : Injection) (f : HubFailure) :
    CloseOutcome h c (h.withInjection i, .finished (.error f))
  | closed (i : Injection) :
    CloseOutcome h c ((h.withInjection i).modify c.serial Channel.disconnect, .finished (.ok .done))

/-- What beginning to write ends in. -/
inductive WriteOutcome (h : Hub) (c : Channel) (w : Write) : Hub × IoStatus → Prop
  | failed (i : Injection) (f : HubFailure) :
    WriteOutcome h c w (h.withInjection i, .finished (.error f))
  | waiting (i : Injection) (due : Nat) :
    WriteOutcome h c w (h.withInjection i, .waiting (.writing due w))
  | written (i : Injection) :
    WriteOutcome h c w ((h.withInjection i).modify c.serial w.apply, .finished (.ok .done))

/-- **All that beginning to open a channel can do.** -/
theorem startOpen_outcome (h : Hub) (now : Nat) (c : Channel) (timeout : Nat) :
    OpenOutcome h c timeout (h.startOpen now c timeout) := by
  unfold startOpen
  rw [check_eq]
  cases (h.injection.check .opening).1 with
  | some f => exact .failed _ f
  | none =>
    dsimp only
    split
    · rename_i hopen
      exact .already _ hopen
    split
    · rename_i hplace
      split
      · exact .attaching _ _ hplace.1
      · exact .opened _ hplace.1
    · split
      · exact .absent _ _
      · exact .failed _ _

/-- **All that closing a channel can do.** -/
theorem startClose_outcome (h : Hub) (c : Channel) : CloseOutcome h c (h.startClose c) := by
  unfold startClose
  rw [check_eq]
  cases (h.injection.check .closing).1 with
  | some f => exact .failed _ f
  | none => exact .closed _

/-- **All that beginning to write can do.** -/
theorem startWrite_outcome (h : Hub) (now : Nat) (c : Channel) (w : Write) :
    WriteOutcome h c w (h.startWrite now c w) := by
  unfold startWrite
  split
  · exact .failed h.injection _
  cases w.refusal? with
  | some f => exact .failed h.injection f
  | none =>
    dsimp only
    rw [check_eq]
    cases (h.injection.check w.operation).1 with
    | some f => exact .failed _ f
    | none =>
      dsimp only
      split
      · exact .failed _ _
      split
      · exact .waiting _ _
      · exact .written _

theorem readState_fst (h : Hub) (c : Channel) : ∃ i, (h.readState c).1 = h.withInjection i := by
  unfold readState
  split
  · exact ⟨h.injection, rfl⟩
  · rw [check_eq]
    refine ⟨(h.injection.check .readingState).2, ?_⟩
    cases (h.injection.check .readingState).1 <;> rfl

theorem readVoltage_fst (h : Hub) (c : Channel) :
    ∃ i, (h.readVoltage c).1 = h.withInjection i := by
  unfold readVoltage
  split
  · exact ⟨h.injection, rfl⟩
  · rw [check_eq]
    refine ⟨(h.injection.check .readingVoltage).2, ?_⟩
    cases (h.injection.check .readingVoltage).1 <;> rfl

/-- Reading asks the injected faults and changes no channel. -/
theorem read_fst (h : Hub) (c : Channel) : ∃ i, (h.read c).1 = h.withInjection i := by
  unfold read
  split
  · exact h.readState_fst c
  · exact h.readVoltage_fst c

/-! ## What no operation changes -/

/-- What operations on channels do not change. -/
def frame (h : Hub) : HubConfig × Nat := (h.config, h.created)

@[simp]
theorem frame_withInjection (h : Hub) (i : Injection) : (h.withInjection i).frame = h.frame := rfl

@[simp]
theorem frame_startOpen (h : Hub) (now : Nat) (c : Channel) (timeout : Nat) :
    (h.startOpen now c timeout).1.frame = h.frame := by
  have ho := startOpen_outcome h now c timeout
  generalize h.startOpen now c timeout = result at ho ⊢
  cases ho <;> rfl

@[simp]
theorem frame_startClose (h : Hub) (c : Channel) : (h.startClose c).1.frame = h.frame := by
  have ho := startClose_outcome h c
  generalize h.startClose c = result at ho ⊢
  cases ho <;> rfl

@[simp]
theorem frame_resume (h : Hub) (c : Channel) (w : Waiting) : (h.resume c w).1.frame = h.frame := by
  cases w <;> rfl

@[simp]
theorem frame_startWrite (h : Hub) (now : Nat) (c : Channel) (w : Write) :
    (h.startWrite now c w).1.frame = h.frame := by
  have ho := startWrite_outcome h now c w
  generalize h.startWrite now c w = result at ho ⊢
  cases ho <;> rfl

theorem frame_start (h : Hub) (now : Nat) (c : Channel) (io : Io) :
    (h.start now c io).1.frame = h.frame := by
  cases io with
  | openWithin timeout => exact frame_startOpen ..
  | close => exact frame_startClose ..
  | readState =>
    obtain ⟨i, hi⟩ := h.readState_fst c
    exact (congrArg frame hi).trans (h.frame_withInjection i)
  | readVoltage =>
    obtain ⟨i, hi⟩ := h.readVoltage_fst c
    exact (congrArg frame hi).trans (h.frame_withInjection i)
  | read =>
    obtain ⟨i, hi⟩ := h.read_fst c
    exact (congrArg frame hi).trans (h.frame_withInjection i)
  | write w => exact frame_startWrite ..

/-! ## What happens to channels by itself -/

/-- What an intervention that does not operate a channel does. -/
inductive Disturbance (h : Hub) (c : Channel) : Hub × List HubEvent → Prop
  | still (events : List HubEvent) (quiet : ∀ id, .detached id ∉ events) :
    Disturbance h c (h, events)
  | changed (state : Bool) :
    Disturbance h c (h.modify c.serial fun c => { c with state }, [.changed c.spec.id state])
  | detached :
    Disturbance h c (h.modify c.serial fun c => { c with attached := false },
      [.detached c.spec.id])
  | attached (isOpen : c.isOpen = true) :
    Disturbance h c (h.modify c.serial fun c => { c with attached := true },
      [.attached c.spec.id])

theorem changeInput_disturbance (h : Hub) (c : Channel) (state : Bool) :
    Disturbance h c ((h.changeInput c state).1, (h.changeInput c state).2.1) := by
  unfold changeInput
  by_cases hk : c.spec.kind ≠ .digitalInput
  · rw [if_pos hk]
    exact .still [] (by simp)
  rw [if_neg hk]
  by_cases ha : (!c.attached) = true
  · rw [if_pos ha]
    exact .still [] (by simp)
  rw [if_neg ha]
  by_cases hs : c.state = state
  · rw [if_pos hs]
    exact .still [] (by simp)
  · rw [if_neg hs]
    exact .changed state

theorem reattach_disturbance (h : Hub) (c : Channel) : Disturbance h c (h.reattach c) := by
  unfold reattach
  by_cases ho : c.isOpen = true
  · rw [if_pos ho]
    exact .attached ho
  · rw [if_neg ho]
    exact .still [] (by simp)

/-- **All that an intervention can do** that does not operate a channel. -/
theorem intervene_disturbance (h : Hub) (now : Nat) (c : Channel) {what : Intervention}
    (hw : ∀ io, what ≠ .operate io) :
    Disturbance h c ((h.intervene now c what).1, (h.intervene now c what).2.1) := by
  cases what with
  | change state =>
    have hd := h.changeInput_disturbance c state
    simp only [intervene]
    generalize h.changeInput c state = changed at hd ⊢
    obtain ⟨hub, events, result⟩ := changed
    cases result <;> exact hd
  | detach => exact .detached
  | attach => exact h.reattach_disturbance c
  | fault code text => exact .still _ (by simp [intervene, raise])
  | inspect => exact .still [] (by simp)
  | operate io => exact absurd rfl (hw io)

theorem operate_fst (h : Hub) (now : Nat) (c : Channel) (io : Io) :
    (h.operate now c io).1 = (h.start now c io).1 := by
  unfold operate
  rcases h.start now c io with ⟨hub, events, status⟩
  cases status <;> rfl

theorem frame_intervene (h : Hub) (now : Nat) (c : Channel) (what : Intervention) :
    (h.intervene now c what).1.frame = h.frame := by
  by_cases hw : ∃ io, what = .operate io
  · obtain ⟨io, rfl⟩ := hw
    exact (congrArg frame (h.operate_fst now c io)).trans (h.frame_start now c io)
  · have hd := h.intervene_disturbance now c (fun io he => hw ⟨io, he⟩)
    generalize (h.intervene now c what).1 = hub, (h.intervene now c what).2.1 = events at hd ⊢
    cases hd <;> rfl

/-- The events of an open that ends at once tell of an attachment only. -/
theorem startOpen_events {now timeout : Nat} {events : List HubEvent} {status : IoStatus}
    (hs : h.startOpen now c timeout = (h', events, status)) :
    ∀ e ∈ events, e = .attached c.spec.id := by
  have ho := startOpen_outcome h now c timeout
  rw [hs] at ho
  cases ho <;> simp

/-- The events of an operation that has waited tell of an attachment only. -/
theorem resume_events {w : Waiting} {events : List HubEvent} {result : Except HubFailure Reply}
    (hs : h.resume c w = (h', events, result)) : ∀ e ∈ events, e = .attached c.spec.id := by
  cases w <;> (cases hs; simp)

end ChannelGateway.Hub
