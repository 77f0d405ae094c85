import ChannelGateway.Proofs.Reading

/-!
# Asking the injected faults

A scenario does one of three things to a call of an operation that reaches it: it counts the call
against a limit, it fails the call, or it lets the call go on to the next scenario. The failure of a
scenario that latches stays, so the latch is that of the first such scenario (`latched_after`).

Results:
* `scan_cons`: what becomes of a call at one scenario.
* `check_of_latched`, `check_of_fails`, `check_of_passes`: all that a check does.
* `latched_after`: what can have latched after any operations.
-/

namespace ChannelGateway

namespace Scenario

variable {s : Scenario} {op : Operation} {f : HubFailure} {count : UInt32}

/-- The latch that a scenario leaves behind at the first call that reaches it. -/
def latch? : Scenario → Option Latch
  | linkLoss => some .linkLost
  | hubFault code => some (.hubFault code)
  | _ => none

/-- The limit that a scenario sets to the calls of an operation. -/
def limit? (op : Operation) : Scenario → Option UInt32
  | failAfter target count => if target = op then some count else none
  | _ => none

/-- The failure of every call of an operation that reaches a scenario. -/
def failure? (op : Operation) : Scenario → Option HubFailure
  | failAfter _ _ => none
  | timeout target => if target = op then some (.operationTimeout op) else none
  | linkLoss => some .linkLost
  | hubFault code => some (.hubFault code)

theorem limit?_eq_some_iff : s.limit? op = some count ↔ s = .failAfter op count := by
  cases s with
  | failAfter target limit =>
    by_cases h : target = op
    · simp [limit?, h]
    · simp [limit?, h]
  | _ => simp [limit?]

theorem failure?_eq_none_iff : s.failure? op = none ↔ s ≠ .timeout op ∧ s.latch? = none := by
  cases s with
  | timeout target =>
    by_cases h : target = op
    · simp [failure?, latch?, h]
    · simp [failure?, latch?, h]
  | _ => simp [failure?, latch?]

/-- The failure of a scenario leaves its latch behind. -/
theorem latch?_of_failure? (h : s.failure? op = some f) : f.latch? = s.latch? := by
  cases s with
  | failAfter target limit => cases h
  | timeout target =>
    by_cases ht : target = op
    · simp only [failure?, ht, if_true, Option.some.injEq] at h
      subst h
      rfl
    · simp [failure?, ht] at h
  | linkLoss =>
    cases h
    rfl
  | hubFault code =>
    cases h
    rfl

end Scenario

namespace Injection

variable {i : Injection} {op : Operation} {calls : UInt32} {scenarios : List Scenario}
  {f : HubFailure} {l : Latch}

/-! ## Scans -/

/-- **What becomes of a call at one scenario.** -/
theorem scan_cons (op : Operation) (calls : UInt32) (s : Scenario) (rest : List Scenario) :
    scan op calls (s :: rest) =
      match s.limit? op with
      | some count =>
        if count < calls + 1 then (some (.callsUsedUp op count), calls + 1)
        else scan op (calls + 1) rest
      | Option.none =>
        match s.failure? op with
        | some f => (some f, calls)
        | Option.none => scan op calls rest := by
  cases s with
  | failAfter target count =>
    by_cases h : target = op
    · simp [scan, Scenario.limit?, h]
    · simp [scan, Scenario.limit?, Scenario.failure?, h]
  | timeout target =>
    by_cases h : target = op
    · simp [scan, Scenario.limit?, Scenario.failure?, h]
    · simp [scan, Scenario.limit?, Scenario.failure?, h]
  | linkLoss => rfl
  | hubFault code => rfl

/-- What a scan latches is latched by the first scenario that latches. -/
theorem latch?_of_scan (h : (scan op calls scenarios).1 = some f) (hl : f.latch? = some l) :
    scenarios.findSome? Scenario.latch? = some l := by
  induction scenarios generalizing calls with
  | nil => cases h
  | cons s rest ih =>
    rw [scan_cons] at h
    rw [List.findSome?_cons]
    cases hlimit : s.limit? op with
    | some count =>
      obtain rfl := Scenario.limit?_eq_some_iff.mp hlimit
      rw [hlimit] at h
      dsimp only at h
      split at h
      · cases h
        cases hl
      · exact ih h
    | none =>
      rw [hlimit] at h
      cases hfailure : s.failure? op with
      | some failure =>
        rw [hfailure] at h
        cases h
        rw [← Scenario.latch?_of_failure? hfailure, hl]
      | none =>
        rw [hfailure] at h
        rw [(Scenario.failure?_eq_none_iff.mp hfailure).2]
        exact ih h

/-! ## Checks -/

/-- A latched failure strikes, and nothing changes. -/
theorem check_of_latched (h : i.latched = some l) (op : Operation) :
    i.check op = (some l.failure, i) := by
  unfold check
  rw [h]

/-- A scenario fails the operation. -/
theorem check_of_fails (h : i.latched = Option.none)
    (hs : (scan op (i.calls.get op) i.scenarios).1 = some f) :
    i.check op = (some f, { i with
      calls := i.calls.set op (scan op (i.calls.get op) i.scenarios).2, latched := f.latch? }) := by
  unfold check
  rw [h]
  dsimp only
  generalize scan op (i.calls.get op) i.scenarios = scanned at hs ⊢
  obtain ⟨failure, calls⟩ := scanned
  obtain rfl : failure = some f := hs
  rfl

/-- The scenarios let the operation pass, and chance decides. -/
theorem check_of_passes (h : i.latched = Option.none)
    (hs : (scan op (i.calls.get op) i.scenarios).1 = Option.none) :
    i.check op = (if (i.chance.decide i.failureRate).1 then some (.chance op) else Option.none,
      { i with
        calls := i.calls.set op (scan op (i.calls.get op) i.scenarios).2
        chance := (i.chance.decide i.failureRate).2 }) := by
  unfold check
  rw [h]
  dsimp only
  generalize scan op (i.calls.get op) i.scenarios = scanned at hs ⊢
  obtain ⟨failure, calls⟩ := scanned
  obtain rfl : failure = Option.none := hs
  rfl

/-- A check changes neither the scenarios nor the failure rate. -/
theorem scenarios_check (i : Injection) (op : Operation) :
    (i.check op).2.scenarios = i.scenarios ∧ (i.check op).2.failureRate = i.failureRate := by
  cases hl : i.latched with
  | some l =>
    rw [check_of_latched hl]
    exact ⟨rfl, rfl⟩
  | none =>
    cases hs : (scan op (i.calls.get op) i.scenarios).1 with
    | some f =>
      rw [check_of_fails hl hs]
      exact ⟨rfl, rfl⟩
    | none =>
      rw [check_of_passes hl hs]
      exact ⟨rfl, rfl⟩

/-- What has latched after a check had latched before, or it is the latch of the first scenario that
latches. -/
theorem latched_check (h : (i.check op).2.latched = some l) :
    i.latched = some l ∨ i.scenarios.findSome? Scenario.latch? = some l := by
  cases hl : i.latched with
  | some l' =>
    rw [check_of_latched hl, hl] at h
    exact .inl h
  | none =>
    cases hs : (scan op (i.calls.get op) i.scenarios).1 with
    | some f =>
      rw [check_of_fails hl hs] at h
      exact .inr (latch?_of_scan hs h)
    | none =>
      rw [check_of_passes hl hs] at h
      cases hl.symm.trans h

/-! ## Sequences of operations -/

theorem after_append (i : Injection) (ops more : List Operation) :
    i.after (ops ++ more) = (i.after ops).after more :=
  List.foldl_append

theorem scenarios_after (i : Injection) (ops : List Operation) :
    (i.after ops).scenarios = i.scenarios ∧ (i.after ops).failureRate = i.failureRate := by
  induction ops generalizing i with
  | nil => exact ⟨rfl, rfl⟩
  | cons op ops ih =>
    obtain ⟨hscenarios, hrate⟩ := ih (i.check op).2
    exact ⟨hscenarios.trans (i.scenarios_check op).1, hrate.trans (i.scenarios_check op).2⟩

/-- **What can have latched** after any operations: what had latched before, or the latch of the
first scenario that latches. -/
theorem latched_after {ops : List Operation} (h : (i.after ops).latched = some l) :
    i.latched = some l ∨ i.scenarios.findSome? Scenario.latch? = some l := by
  induction ops generalizing i with
  | nil => exact .inl h
  | cons op ops ih =>
    rcases ih (i := (i.check op).2) h with hl | hfirst
    · exact latched_check hl
    · rw [(i.scenarios_check op).1] at hfirst
      exact .inr hfirst

end Injection

end ChannelGateway
