import ChannelGateway.Proofs.Traffic
import Mathlib.Data.List.Induction

/-!
# Traffic beside channels that are operated directly

Whoever holds a channel may operate it without a request. Such an operation begins, may have to
wait, and ends when it is due or is given up; anything may happen in between. A `Scene` is traffic
together with the direct operations that wait, each under a handle. An act is a move of the traffic,
or it begins, ends or gives up an operation.

The end of an operation is not a move: it takes up what has waited on the hub as it is by then.

Results:
* `Scene.step_cases`: all that an act does to the traffic.
* `Scene.standing_step`, `Scene.operation_step`: how a request comes to stand where it does, and an
  operation to wait.
* **`Scene.origin`**: what has come about in a run has come about at a moment of it.
-/

namespace ChannelGateway

/-- A direct operation that has waited ends as the hub ends it. -/
theorem Hub.conclude_fst (h : Hub) {c : Channel} (hc : h.channel? c.serial = some c) (w : Waiting) :
    (h.conclude c w).1 = (h.resume c w).1 := by
  have hcurrent : h.current c = c := by
    unfold current
    rw [hc]
    rfl
  unfold conclude
  rw [hcurrent]
  rcases h.resume c w with ⟨hub, events, result⟩
  cases result <;> rfl

namespace Traffic

/-- What an operation waits for when it has begun, with the serial number of its channel. -/
def await? (t : Traffic) (serial : Nat) (io : Io) : Option (Nat × Waiting) :=
  match t.gateway.hub.channel? serial with
  | none => none
  | some c =>
    match (t.gateway.hub.start t.now c io).2.2 with
    | .finished _ => none
    | .waiting w => some (serial, w)

/-- A direct operation that has waited ends, and the gateway observes what the hub tells. -/
def conclude (t : Traffic) (serial : Nat) (w : Waiting) : Traffic :=
  match t.gateway.hub.channel? serial with
  | none => t
  | some c =>
    let (hub, events, _) := t.gateway.hub.conclude c w
    { t with gateway := { t.gateway with hub }.observeAll events }

/-- **All that the end of an operation does**: nothing, if its channel is gone; or the hub ends it,
and the gateway observes what the hub tells. -/
theorem conclude_cases (t : Traffic) (serial : Nat) (w : Waiting) :
    t.conclude serial w = t ∨
      ∃ c hub events, t.gateway.hub.channel? serial = some c ∧
        (t.gateway.hub.resume c w).1 = hub ∧
        t.conclude serial w =
          { t with gateway := { t.gateway with hub }.observeAll events } := by
  unfold conclude
  cases hc : t.gateway.hub.channel? serial with
  | none => exact .inl rfl
  | some c =>
    have hserial := Hub.serial_of_channel? hc
    have hresume := t.gateway.hub.conclude_fst (hserial.symm ▸ hc) w
    exact .inr ⟨c, _, _, rfl, hresume.symm, rfl⟩

end Traffic

/-- Traffic, and the direct operations that wait. -/
structure Scene where
  traffic : Traffic
  /-- The serial number of the channel and what is waited for, by handle. -/
  operation? : Nat → Option (Nat × Waiting)

/-- What can happen on a scene. -/
inductive Act where
  | move (m : Move)
  /-- An operation on the channel with a serial number begins; if it has to wait, it waits under the
  handle. -/
  | operate (handle serial : Nat) (io : Io)
  /-- The operation under a handle ends, if it is due. -/
  | conclude (handle : Nat)
  /-- The operation under a handle is given up. -/
  | abandon (handle : Nat)

/-- The move of the traffic that an act makes. -/
def Act.move? : Act → Option Move
  | .move m => some m
  | .operate _ serial io => some (.intervene serial (.operate io))
  | _ => none

/-- An act that puts no other hub in place makes no move that does. -/
theorem Act.ne_meddle {a : Act} (own : ∀ hub, a ≠ .move (.meddle hub)) {m : Move}
    (hm : a.move? = some m) (hub : Hub) : m ≠ .meddle hub := by
  rintro rfl
  cases a with
  | move m =>
    cases hm
    exact own hub rfl
  | _ => cases hm

namespace Scene

/-- A gateway at the beginning of time, with no task and no operation. -/
def ofGateway (gateway : Gateway) : Scene := ⟨.ofGateway gateway, fun _ => none⟩

/-- The hub of a scene. -/
def hub (s : Scene) : Hub := s.traffic.gateway.hub

/-- Act. -/
def step (s : Scene) : Act → Scene
  | .move m => { s with traffic := s.traffic.step m }
  | .operate handle serial io =>
    { traffic := s.traffic.step (.intervene serial (.operate io))
      operation? := Function.update s.operation? handle (s.traffic.await? serial io) }
  | .conclude handle =>
    match s.operation? handle with
    | none => s
    | some (serial, w) =>
      if w.due ≤ s.traffic.now then
        { traffic := s.traffic.conclude serial w
          operation? := Function.update s.operation? handle none }
      else s
  | .abandon handle => { s with operation? := Function.update s.operation? handle none }

/-- Act one after the other. -/
def run (s : Scene) (acts : List Act) : Scene :=
  acts.foldl step s

/-- **What has come about in a run has come about at a moment of it.** -/
theorem origin {P B : Scene → Prop} {start : Scene} (hstart : ¬ P start)
    (comes : ∀ s a, P (s.step a) → P s ∨ B (s.step a)) {acts : List Act} (h : P (start.run acts)) :
    ∃ before, before <+: acts ∧ B (start.run before) := by
  -- from the end of the run, since the moment has to be found in its beginning
  induction acts using List.reverseRecOn with
  | nil => exact absurd h hstart
  | append_singleton acts a ih =>
    have hrun : start.run (acts ++ [a]) = (start.run acts).step a := List.foldl_append
    rw [hrun] at h
    rcases comes _ a h with hold | hnew
    · obtain ⟨before, hbefore, hb⟩ := ih hold
      exact ⟨before, hbefore.trans (List.prefix_append ..), hb⟩
    · exact ⟨acts ++ [a], List.prefix_rfl, hrun ▸ hnew⟩

/-- What holds at the beginning and is kept by every allowed act holds after every run of them. -/
theorem run_induction_of {P : Scene → Prop} {Q : Act → Prop} {s : Scene} (start : P s)
    (keep : ∀ s a, Q a → P s → P (s.step a)) {acts : List Act} (allowed : ∀ a ∈ acts, Q a) :
    P (s.run acts) := by
  induction acts generalizing s with
  | nil => exact start
  | cons a acts ih =>
    have ha := keep s a (allowed a List.mem_cons_self) start
    exact ih ha fun a' ha' => allowed a' (List.mem_cons_of_mem a ha')

/-- An act may put no other hub in place but the same one with one more channel, which somebody has
created beside the gateway. -/
def Permits (s : Scene) (a : Act) : Prop :=
  ∀ hub, a = .move (.meddle hub) → ∃ held spec, hub = s.hub.create held spec

/-- Every act is permitted when its turn comes. -/
def PermitsAll (s : Scene) : List Act → Prop
  | [] => True
  | a :: acts => s.Permits a ∧ (s.step a).PermitsAll acts

theorem permits_of_ne {s : Scene} {a : Act} (own : ∀ hub, a ≠ .move (.meddle hub)) : s.Permits a :=
  fun hub ha => absurd ha (own hub)

theorem permitsAll_of_ne {s : Scene} {acts : List Act}
    (own : ∀ a ∈ acts, ∀ hub, a ≠ .move (.meddle hub)) : s.PermitsAll acts := by
  induction acts generalizing s with
  | nil => trivial
  | cons a acts ih =>
    obtain ⟨hfirst, hrest⟩ := List.forall_mem_cons.mp own
    exact ⟨permits_of_ne hfirst, ih hrest⟩

/-- What holds at the beginning and is kept by every permitted act holds after every run of them. -/
theorem run_induction_permitted {P : Scene → Prop} {s : Scene} (start : P s)
    (keep : ∀ s a, s.Permits a → P s → P (s.step a)) {acts : List Act}
    (permitted : s.PermitsAll acts) : P (s.run acts) := by
  induction acts generalizing s with
  | nil => exact start
  | cons a acts ih => exact ih (keep s a permitted.1 start) permitted.2

variable {s : Scene} {a : Act}

/-- **All that an act does to the traffic**: a move; or nothing; or an operation ends. -/
theorem step_cases (s : Scene) (a : Act) :
    (∃ m, a.move? = some m ∧ (s.step a).traffic = s.traffic.step m) ∨
      (s.step a).traffic = s.traffic ∨
      ∃ handle serial w, a = .conclude handle ∧ s.operation? handle = some (serial, w) ∧
        w.due ≤ s.traffic.now ∧ (s.step a).traffic = s.traffic.conclude serial w := by
  cases a with
  | move m => exact .inl ⟨m, rfl, rfl⟩
  | operate handle serial io => exact .inl ⟨_, rfl, rfl⟩
  | abandon handle => exact .inr (.inl rfl)
  | conclude handle =>
    simp only [step]
    cases ho : s.operation? handle with
    | none => exact .inr (.inl rfl)
    | some operation =>
      obtain ⟨serial, w⟩ := operation
      dsimp only
      by_cases hdue : w.due ≤ s.traffic.now
      · rw [if_pos hdue]
        exact .inr (.inr ⟨handle, serial, w, rfl, ho, hdue, rfl⟩)
      · rw [if_neg hdue]
        exact .inr (.inl rfl)

/-- Where a task stands after an act: where it stood, before a request, or where its request has
gone on to. -/
theorem standing_step {k : Nat} {p' : Progress} (hs : (s.step a).traffic.standing k = some p') :
    s.traffic.standing k = some p' ∨ (∃ job, p' = .ready job) ∨
      ∃ outside p, a = .move (.advance k outside) ∧ s.traffic.standing k = some p ∧
        s.traffic.gateway.advance s.traffic.now (s.traffic.held outside) k p =
          some ((s.step a).traffic.gateway, p') := by
  rcases s.step_cases a with ⟨m, hm, he⟩ | he | ⟨handle, serial, w, -, -, -, he⟩
  · rw [he] at hs ⊢
    cases s.traffic.step_change m with
    | removal taken gates standing frame =>
      rw [standing] at hs
      exact .inl hs
    | @begins ticket job idle gateway standing =>
      rw [standing, Function.update_apply] at hs
      split at hs
      · exact .inr (.inl ⟨job, (Option.some.inj hs).symm⟩)
      · exact .inl hs
    | ends stood gateway standing =>
      rw [standing, Function.update_apply] at hs
      split at hs
      · cases hs
      · exact .inl hs
    | @advances ticket outside p p'' own stood advance standing =>
      rw [standing, Function.update_apply] at hs
      split at hs
      · rename_i hk
        subst hk own
        cases hs
        cases a with
        | move m =>
          cases hm
          exact .inr (.inr ⟨outside, p, rfl, stood, advance⟩)
        | _ => cases hm
      · exact .inl hs
  · rw [he] at hs
    exact .inl hs
  · rcases s.traffic.conclude_cases serial w with hc | ⟨_, _, _, -, -, hc⟩
    · rw [he, hc] at hs
      exact .inl hs
    · rw [he, hc] at hs
      exact .inl hs

/-- An operation that waits after an act waited before, or it has just begun. -/
theorem operation_step {handle serial : Nat} {w : Waiting}
    (ho : (s.step a).operation? handle = some (serial, w)) :
    s.operation? handle = some (serial, w) ∨ ∃ io, a = .operate handle serial io ∧
      s.traffic.await? serial io = some (serial, w) := by
  have hcleared : ∀ {other}, Function.update s.operation? other none handle = some (serial, w) →
      s.operation? handle = some (serial, w) := by
    intro other hu
    rw [Function.update_apply] at hu
    split at hu
    · cases hu
    · exact hu
  cases a with
  | move m => exact .inl ho
  | operate other place io =>
    simp only [step, Function.update_apply] at ho
    split at ho
    · rename_i hk
      subst hk
      have hserial : place = serial := by
        have hawait := ho
        unfold Traffic.await? at hawait
        split at hawait
        · cases hawait
        · split at hawait
          · cases hawait
          · exact congrArg Prod.fst (Option.some.inj hawait)
      subst hserial
      exact .inr ⟨io, rfl, ho⟩
    · exact .inl ho
  | conclude other =>
    simp only [step] at ho
    split at ho
    · exact .inl ho
    · split at ho
      · exact .inl (hcleared ho)
      · exact .inl ho
  | abandon other => exact .inl (hcleared ho)

end Scene

end ChannelGateway
