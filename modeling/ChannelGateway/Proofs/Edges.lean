import ChannelGateway.Proofs.Rig

/-!
# Inputs tell of edges only

A digital input takes a state only by `changed`, the one deed that tells of a change, and only a
state that it does not have. So the number of changes told decides the state: it is true after an
odd number of them, and each change tells the other one. Opening, closing, losing the hardware,
getting it back, faults and calls that are refused leave the state alone, so it does not start again
from false.

Results:
* `Channel.Alternates.deed`: how a deed goes on with the changes told.
* **`Rig.inputs_tell_edges`**: over every run of calls, with every fault, the changes told of every
  channel alternate, beginning with true; the state of an input is the last of them; a change of an
  input is told once if it succeeds with true and not at all otherwise; outputs tell of none.
-/

namespace ChannelGateway

/-- The states that a touch tells a channel has changed to. -/
def CallReport.edges (report : CallReport) : List Bool :=
  report.events.filterMap fun
    | .changed _ state => some state
    | _ => none

/-- The states that a channel has been told to have changed to, one after the other. -/
def edges (told : List CallReport) : List Bool := told.flatMap CallReport.edges

/-- So many states in turn, beginning with true. -/
def alternating (n : Nat) : List Bool := (List.range n).map fun k => k % 2 = 0

/-- The state of an input that has changed so many times. -/
def stateAfter (n : Nat) : Bool := n % 2 = 1

theorem edges_concat (told : List CallReport) (report : CallReport) :
    edges (told ++ [report]) = edges told ++ report.edges := by
  simp [edges]

theorem length_alternating (n : Nat) : (alternating n).length = n := by
  simp [alternating]

theorem alternating_succ (n : Nat) :
    alternating (n + 1) = alternating n ++ [stateAfter (n + 1)] := by
  have hparity : (n + 1) % 2 = 1 ↔ n % 2 = 0 := by omega
  simp [alternating, stateAfter, List.range_succ, hparity]

example : alternating 3 = [true, false, true] := by decide

/-- The state of an input is the last one told, and false if none was. -/
theorem getLast?_alternating (n : Nat) : (alternating n).getLast?.getD false = stateAfter n := by
  cases n with
  | zero => rfl
  | succ n => rw [alternating_succ, List.getLast?_concat, Option.getD_some]

theorem stateAfter_succ (n : Nat) : stateAfter (n + 1) = !stateAfter n := by
  have hparity : (n + 1) % 2 = 1 ↔ ¬ n % 2 = 1 := by omega
  unfold stateAfter
  rw [← decide_not, decide_eq_decide]
  exact hparity

/-- What is told of a channel are changes in turn, and an input has the state that they lead to.
Only of inputs are changes told. -/
def Channel.Alternates (told : List CallReport) (c : Channel) : Prop :=
  ∃ n, edges told = alternating n ∧ (c.spec.kind = .digitalInput → c.state = stateAfter n) ∧
    (c.spec.kind ≠ .digitalInput → n = 0)

namespace Channel

variable {told : List CallReport} {c c' : Channel} {what : Intervention} {events : List HubEvent}
  {answer? : Option Answer}

namespace Alternates

theorem edges_eq (ha : Alternates told c) : edges told = alternating (edges told).length := by
  obtain ⟨n, he, -⟩ := ha
  rw [he, length_alternating]

theorem state_eq (ha : Alternates told c) (kind : c.spec.kind = .digitalInput) :
    c.state = (edges told).getLast?.getD false := by
  obtain ⟨n, he, hstate, -⟩ := ha
  rw [he, getLast?_alternating]
  exact hstate kind

theorem edges_nil (ha : Alternates told c) (kind : c.spec.kind ≠ .digitalInput) :
    edges told = [] := by
  obtain ⟨n, he, -, hzero⟩ := ha
  rw [he, hzero kind]
  rfl

theorem fresh (serial : Nat) (spec : ChannelSpec) : Alternates [] (.fresh serial spec) :=
  ⟨0, rfl, fun _ => rfl, fun _ => rfl⟩

/-- A touch that tells of no change leaves an input with its state. -/
theorem keep (ha : Alternates told c) {report : CallReport} (silent : report.edges = [])
    (spec : c'.spec = c.spec) (state : c.spec.kind = .digitalInput → c'.state = c.state) :
    Alternates (told ++ [report]) c' := by
  obtain ⟨n, he, hstate, hzero⟩ := ha
  refine ⟨n, ?_, fun hk => ?_, fun hk => ?_⟩
  · rw [edges_concat, silent, List.append_nil, he]
  · rw [spec] at hk
    rw [state hk, hstate hk]
  · rw [spec] at hk
    exact hzero hk

/-- An input takes the state that it does not have. -/
theorem change (ha : Alternates told c) {state : Bool} (kind : c.spec.kind = .digitalInput)
    (edge : c.state ≠ state) :
    Alternates (told ++ [⟨c, .change state, [.changed c.spec.id state], some (.flag true)⟩])
      { c with state } := by
  obtain ⟨n, he, hstate, -⟩ := ha
  have hnext : state = stateAfter (n + 1) := by
    rw [stateAfter_succ, ← hstate kind]
    exact Bool.eq_not.mpr (Ne.symm edge)
  refine ⟨n + 1, ?_, fun _ => hnext, fun hk => absurd kind hk⟩
  rw [edges_concat, he, alternating_succ, ← hnext]
  rfl

/-- **A deed goes on with the changes told.** -/
theorem deed (ha : Alternates told c) (hd : c.Deed what c' events answer?) :
    Alternates (told ++ [⟨c, what, events, answer?⟩]) c' := by
  cases hd with
  | changed kind attached edge => exact ha.change kind edge
  | @written w kind =>
    refine ha.keep rfl (by cases w <;> rfl) fun hk => ?_
    -- no input takes a write
    rw [hk] at kind
    cases w <;> cases kind
  | _ => exact ha.keep rfl rfl fun _ => rfl

end Alternates

namespace Deed

/-- A change of an input is told once if it is one, and not at all otherwise. -/
theorem told_once {state : Bool} (hd : c.Deed (.change state) c' events answer?) :
    answer? = some (.flag true) ∧ events = [.changed c.spec.id state] ∨
      answer? ≠ some (.flag true) ∧ events = [] := by
  cases hd with
  | changed kind attached edge => exact .inl ⟨rfl, rfl⟩
  | _ => exact .inr ⟨nofun, rfl⟩

/-- Only an input is told to have changed, and only when it is to take a state. -/
theorem of_edges (hd : c.Deed what c' events answer?) {id : ChannelId} {state : Bool}
    (he : .changed id state ∈ events) :
    c.spec.kind = .digitalInput ∧ what = .change state ∧ id = c.spec.id := by
  cases hd with
  | changed kind attached edge =>
    cases List.mem_singleton.mp he
    exact ⟨kind, rfl, rfl⟩
  | _ => simp at he

end Deed

end Channel

namespace Rig

/-- All changes that have been told, and those that the next touch tells, are edges of inputs. -/
structure TellsEdges (r : Rig) (told : Nat → List CallReport) (touch : Touch) : Prop where
  /-- The changes told of a channel alternate, and the first is to true. -/
  alternate : ∀ serial, edges (told serial) = alternating (edges (told serial)).length
  /-- An input has the last state that it was told to have changed to. -/
  state : ∀ {serial c}, r.hub.channel? serial = some c → c.spec.kind = .digitalInput →
    c.state = (edges (told serial)).getLast?.getD false
  /-- No change is told of an output. -/
  outputs : ∀ {serial c}, r.hub.channel? serial = some c → c.spec.kind ≠ .digitalInput →
    edges (told serial) = []
  /-- A change of an input is told once if it succeeds with true, and not at all otherwise. -/
  change : ∀ {report state}, r.report? touch = some report → report.what = .change state →
    report.answer? = some (.flag true) ∧
        report.events = [.changed report.channel.spec.id state] ∨
      report.answer? ≠ some (.flag true) ∧ report.events = []
  /-- Nothing else tells of a change. -/
  only : ∀ {report id state}, r.report? touch = some report → .changed id state ∈ report.events →
    report.channel.spec.kind = .digitalInput ∧ report.what = .change state ∧
      id = report.channel.spec.id

/-- **Inputs tell of edges only**, over every run of calls on the channels of a hub, with any
faults, in any mode and with any timing. -/
theorem inputs_tell_edges (config : HubConfig) (seed : UInt64) (injection : Injection)
    (touches : List Touch) (touch : Touch) :
    ((ofConfig config seed injection).run touches).TellsEdges
      ((ofConfig config seed injection).history touches) touch := by
  have hr := (sound_ofConfig config seed injection).run touches
  have hkept := channels_keep Channel.Alternates.fresh (fun ha hd => ha.deed hd) config seed
    injection touches
  refine ⟨fun serial => ?_, fun hc => ((hkept _).channel hr.numbered hc).state_eq,
    fun hc => ((hkept _).channel hr.numbered hc).edges_nil, fun ht hwhat => ?_, fun ht he => ?_⟩
  · -- of a channel that has not been created nothing has been told
    rcases Nat.lt_or_ge serial ((ofConfig config seed injection).run touches).hub.created with
      hlt | hge
    · obtain ⟨c, ha, -⟩ := (hkept serial).known hlt
      exact ha.edges_eq
    · rw [(hkept serial).unborn hge]
      rfl
  · obtain ⟨-, c', hd, -⟩ := deed_of_report hr ht
    rw [hwhat] at hd
    exact hd.told_once
  · obtain ⟨-, c', hd, -⟩ := deed_of_report hr ht
    exact hd.of_edges he

end Rig

end ChannelGateway
