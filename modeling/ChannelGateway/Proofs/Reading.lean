import ChannelGateway.Gateway.Registry
import ChannelGateway.Proofs.Hub

/-!
# Reading channels under injected faults

Reading an attached channel asks the injected faults once. If they let it pass, the channel tells
its state or its voltage, whichever it has; if not, the failure is one that is injected, never that
of a detached channel or of a channel that lacks what is read.

Results:
* `Injection.isInjected_of_check`: what injected faults can be.
* `Hub.read_attached`: what reading an attached channel comes to.
-/

namespace ChannelGateway

/-- Whether a cause is an injected fault. -/
def HubFailure.isInjected : HubFailure → Bool
  | callsUsedUp _ _ => true
  | operationTimeout _ => true
  | linkLost => true
  | hubFault _ => true
  | chance _ => true
  | _ => false

/-- An injected fault does not look like a detached channel or like a missing operation. -/
theorem HubFailure.kind_of_isInjected {f : HubFailure} (h : f.isInjected = true) :
    f.error.kind ≠ .notAttached ∧ f.error.kind ≠ .unsupported := by
  cases f with
  | attachTimeout address timeout => cases h
  | notAttached kind address => cases h
  | unsupported kind operation => cases h
  | voltageOutOfRange volts => cases h
  | _ => exact ⟨nofun, nofun⟩

theorem Injection.isInjected_of_scan {op : Operation} {calls : UInt32} {scenarios : List Scenario}
    {f : HubFailure} (h : (scan op calls scenarios).1 = some f) : f.isInjected = true := by
  induction scenarios generalizing calls with
  | nil => cases h
  | cons scenario rest ih =>
    cases scenario with
    | failAfter target count =>
      simp only [scan] at h
      split at h
      · split at h
        · cases h
          rfl
        · exact ih h
      · exact ih h
    | timeout target =>
      simp only [scan] at h
      split at h
      · cases h
        rfl
      · exact ih h
    | linkLoss =>
      cases h
      rfl
    | hubFault code =>
      cases h
      rfl

/-- **What injected faults can be.** -/
theorem Injection.isInjected_of_check {op : Operation} {i : Injection} {f : HubFailure}
    (h : (i.check op).1 = some f) : f.isInjected = true := by
  unfold check at h
  cases hl : i.latched with
  | some l =>
    rw [hl] at h
    cases h
    cases l <;> rfl
  | none =>
    rw [hl] at h
    dsimp only at h
    rcases hscan : scan op (i.calls.get op) i.scenarios with ⟨failure, calls⟩
    rw [hscan] at h
    cases failure with
    | some f' =>
      cases h
      exact isInjected_of_scan (congrArg Prod.fst hscan)
    | none =>
      dsimp only at h
      split at h
      · cases h
        rfl
      · cases h

/-- The operation that reads a channel of a kind. -/
def ChannelKind.reader : ChannelKind → Operation
  | voltageOutput => .readingVoltage
  | _ => .readingState

/-- The injected faults after operations have asked them. -/
def Injection.after (i : Injection) (ops : List Operation) : Injection :=
  ops.foldl (fun i op => (i.check op).2) i

/-- What an attached channel reads under injected faults. -/
def Channel.reading (c : Channel) (i : Injection) : Reading :=
  match (i.check c.spec.kind.reader).1 with
  | some f => .unavailable f.error.text
  | none => if c.spec.kind.isDigital then .state c.state else .voltage c.voltage

/-- **Reading an attached channel** asks the injected faults once. -/
theorem Hub.read_attached (h : Hub) {c : Channel} (attached : c.attached = true) :
    (h.read c).1 = h.withInjection (h.injection.check c.spec.kind.reader).2 ∧
      Reading.ofResult (h.read c).2 = c.reading h.injection := by
  unfold read Channel.reading
  cases hk : c.spec.kind with
  | voltageOutput =>
    simp only [ChannelKind.isDigital, Bool.false_eq_true, if_false, readVoltage, hk,
      ChannelKind.reader, check_eq, attached, if_true, ne_eq, not_true_eq_false]
    cases (h.injection.check .readingVoltage).1 <;> exact ⟨rfl, rfl⟩
  | digitalOutput =>
    simp only [ChannelKind.isDigital, Bool.not_true, Bool.false_eq_true, if_false, readState, hk,
      ChannelKind.reader, check_eq, attached, if_true]
    cases (h.injection.check .readingState).1 <;> exact ⟨rfl, rfl⟩
  | digitalInput =>
    simp only [ChannelKind.isDigital, Bool.not_true, Bool.false_eq_true, if_false, readState, hk,
      ChannelKind.reader, check_eq, attached, if_true]
    cases (h.injection.check .readingState).1 <;> exact ⟨rfl, rfl⟩

/-- A place of a hub has no negative number. -/
theorem HubConfig.nonneg_of_contains {config : HubConfig} {a : Address}
    (h : config.contains a = true) : 0 ≤ a.hubPort.toInt ∧ 0 ≤ a.channel.toInt := by
  unfold contains at h
  simp only [Bool.and_eq_true, decide_eq_true_eq] at h
  exact ⟨h.1.1.1, h.1.2⟩

end ChannelGateway
