import ChannelGateway.Proofs.Faults
import Mathlib.Algebra.Ring.Nat
import Mathlib.Data.List.Induction

/-!
# What the limits of an operation let through

All limits that scenarios set to an operation share one counter of 32 bits, and a call moves it on
once for each limit that it reaches. Beside the counter there is the number of calls that have been
counted, as a natural number (`counted`); the counter is that number in 32 bits (`calls_after`). A
call that is let through has reached every limit, so as long as calls are let through, the number is
that of the calls times that of the limits. Once a call has failed, the number can only be larger,
and until it no longer fits the counter every later call fails.

Results:
* `scan_eq_none_iff`: what lets a single call through, by the counter.
* `calls_after`: the counter after any operations.
* `letsThrough_ofScenarios`: which calls are let through, by the calls before.
* `persists_ofScenarios`: what has failed fails again, until the counter comes around; then it may
  not (`opening_heals`).
-/

namespace ChannelGateway

namespace Injection

variable {i : Injection} {op : Operation} {calls : UInt32} {scenarios : List Scenario}
  {ops : List Operation} {n : Nat}

/-! ## One call -/

/-- The limits that scenarios set to an operation, in their order. -/
def limits (op : Operation) (scenarios : List Scenario) : List UInt32 :=
  scenarios.filterMap (Scenario.limit? op)

/-- How many limits a call reaches when so many calls have been counted: those up to the one that it
exceeds, or to the scenario that fails it. -/
def reach (op : Operation) (calls : UInt32) : List Scenario → Nat
  | [] => 0
  | s :: rest =>
    match s.limit? op with
    | some count => if count < calls + 1 then 1 else reach op (calls + 1) rest + 1
    | Option.none =>
      match s.failure? op with
      | some _ => 0
      | Option.none => reach op calls rest

theorem add_ofNat_succ (calls : UInt32) (n : Nat) :
    calls + UInt32.ofNat (n + 1) = calls + 1 + UInt32.ofNat n := by
  rw [UInt32.ofNat_add, UInt32.add_comm (UInt32.ofNat n), ← UInt32.add_assoc]
  rfl

/-- A call is counted once at each limit that it reaches. -/
theorem scan_snd (op : Operation) (calls : UInt32) (scenarios : List Scenario) :
    (scan op calls scenarios).2 = calls + UInt32.ofNat (reach op calls scenarios) := by
  fun_induction reach op calls scenarios with
  | case1 calls => simp [scan]
  | case2 calls s rest count hlimit hover =>
    simp [scan_cons, hlimit, hover]
  | case3 calls s rest count hlimit hover ih =>
    simp only [scan_cons, hlimit, hover, if_false, ih, add_ofNat_succ]
  | case4 calls s rest hlimit f hfails => simp [scan_cons, hlimit, hfails]
  | case5 calls s rest hlimit hfails ih => simp only [scan_cons, hlimit, hfails, ih]

/-- A call reaches no more limits than there are. -/
theorem reach_le (op : Operation) (calls : UInt32) (scenarios : List Scenario) :
    reach op calls scenarios ≤ (limits op scenarios).length := by
  fun_induction reach op calls scenarios with
  | case1 calls => exact Nat.zero_le _
  | case2 calls s rest count hlimit hover => simp [limits, List.filterMap_cons_some hlimit]
  | case3 calls s rest count hlimit hover ih =>
    simpa [limits, List.filterMap_cons_some hlimit] using ih
  | case4 calls s rest hlimit f hfails => exact Nat.zero_le _
  | case5 calls s rest hlimit hfails ih => simpa [limits, List.filterMap_cons_none hlimit] using ih

/-- A call that is let through has reached every limit. -/
theorem reach_of_passes (h : (scan op calls scenarios).1 = Option.none) :
    reach op calls scenarios = (limits op scenarios).length := by
  fun_induction reach op calls scenarios with
  | case1 calls => rfl
  | case2 calls s rest count hlimit hover => simp [scan_cons, hlimit, hover] at h
  | case3 calls s rest count hlimit hover ih =>
    simp only [scan_cons, hlimit, hover, if_false] at h
    simp [limits, List.filterMap_cons_some hlimit, ih h]
  | case4 calls s rest hlimit f hfails => simp [scan_cons, hlimit, hfails] at h
  | case5 calls s rest hlimit hfails ih =>
    simp only [scan_cons, hlimit, hfails] at h
    simp [limits, List.filterMap_cons_none hlimit, ih h]

/-- **What lets a call through**: no scenario fails it, and it exceeds no limit. -/
theorem scan_eq_none_iff :
    (scan op calls scenarios).1 = Option.none ↔ (∀ s ∈ scenarios, s.failure? op = Option.none) ∧
      ∀ j count, (limits op scenarios)[j]? = some count → calls + UInt32.ofNat (j + 1) ≤ count := by
  fun_induction reach op calls scenarios with
  | case1 calls => simp [scan, limits]
  | case2 calls s rest count hlimit hover =>
    have hfirst : (limits op (s :: rest))[0]? = some count := by
      simp [limits, List.filterMap_cons_some hlimit]
    simp only [scan_cons, hlimit, hover, if_true, reduceCtorEq, false_iff]
    rintro ⟨-, hwithin⟩
    exact UInt32.not_le.mpr hover (hwithin 0 count hfirst)
  | case3 calls s rest count hlimit hover ih =>
    have hpass : s.failure? op = Option.none := by
      rw [Scenario.limit?_eq_some_iff.mp hlimit]
      rfl
    have hlimits : limits op (s :: rest) = count :: limits op rest :=
      List.filterMap_cons_some hlimit
    simp only [scan_cons, hlimit, hover, if_false, ih, List.forall_mem_cons, hpass, true_and,
      hlimits]
    refine and_congr_right fun _ => ⟨fun hrest j limit hj => ?_, fun hall j limit hj => ?_⟩
    · cases j with
      | zero =>
        cases hj
        exact UInt32.not_lt.mp hover
      | succ j =>
        rw [add_ofNat_succ]
        exact hrest j limit hj
    · rw [← add_ofNat_succ]
      exact hall (j + 1) limit hj
  | case4 calls s rest hlimit f hfails => simp [scan_cons, hlimit, hfails]
  | case5 calls s rest hlimit hfails ih =>
    simp [scan_cons, hlimit, hfails, limits, List.filterMap_cons_none hlimit, ih]

/-- A single limit is reached by every call that no scenario fails. -/
theorem reach_of_single (hunfailed : ∀ s ∈ scenarios, s.failure? op = Option.none)
    (hsingle : (limits op scenarios).length ≤ 1) :
    reach op calls scenarios = (limits op scenarios).length := by
  fun_induction reach op calls scenarios with
  | case1 calls => rfl
  | case2 calls s rest count hlimit hover =>
    rw [limits, List.filterMap_cons_some hlimit, List.length_cons] at hsingle ⊢
    omega
  | case3 calls s rest count hlimit hover ih =>
    have hrest := reach_le op (calls + 1) rest
    rw [limits] at hrest
    rw [limits, List.filterMap_cons_some hlimit, List.length_cons] at hsingle ⊢
    omega
  | case4 calls s rest hlimit f hfails =>
    rw [hunfailed s List.mem_cons_self] at hfails
    cases hfails
  | case5 calls s rest hlimit hfails ih =>
    rw [limits, List.filterMap_cons_none hlimit] at hsingle ⊢
    exact ih (fun s' hs' => hunfailed s' (List.mem_cons_of_mem s hs')) hsingle

theorem mem_limits {count : UInt32} :
    count ∈ limits op scenarios ↔ .failAfter op count ∈ scenarios := by
  simp [limits, List.mem_filterMap, Scenario.limit?_eq_some_iff]

/-! ## Sequences of calls -/

/-- How often a call of an operation is counted. -/
def counts (i : Injection) (op : Operation) : Nat :=
  match i.latched with
  | some _ => 0
  | Option.none => reach op (i.calls.get op) i.scenarios

/-- How often the calls of an operation are counted in the course of operations. -/
def counted (i : Injection) (op : Operation) : List Operation → Nat
  | [] => 0
  | o :: ops => (if o = op then i.counts op else 0) + (i.check o).2.counted op ops

/-- A check moves the counter of its operation on by as often as the call is counted. -/
theorem calls_check (i : Injection) (o op : Operation) :
    (i.check o).2.calls.get op =
      i.calls.get op + UInt32.ofNat (if o = op then i.counts op else 0) := by
  unfold counts
  cases hl : i.latched with
  | some l =>
    rw [check_of_latched hl]
    simp
  | none =>
    have hcalls : (i.check o).2.calls =
        i.calls.set o (scan o (i.calls.get o) i.scenarios).2 := by
      cases hs : (scan o (i.calls.get o) i.scenarios).1 with
      | some f => rw [check_of_fails hl hs]
      | none => rw [check_of_passes hl hs]
    rw [hcalls, CallCounts.get_set, scan_snd]
    by_cases ho : o = op
    · subst ho
      simp
    · simp [ho, Ne.symm ho]

/-- **The counter is the number of calls that have been counted, in 32 bits.** -/
theorem calls_after (i : Injection) (op : Operation) (ops : List Operation) :
    (i.after ops).calls.get op = i.calls.get op + UInt32.ofNat (i.counted op ops) := by
  induction ops generalizing i with
  | nil => simp [after, counted]
  | cons o ops ih =>
    have hrest := ih (i.check o).2
    rw [calls_check, UInt32.add_assoc, ← UInt32.ofNat_add] at hrest
    exact hrest

theorem counted_append (i : Injection) (op : Operation) (ops more : List Operation) :
    i.counted op (ops ++ more) = i.counted op ops + (i.after ops).counted op more := by
  induction ops generalizing i with
  | nil => simp [after, counted]
  | cons o ops ih =>
    simp only [List.cons_append, counted]
    rw [ih, Nat.add_assoc]
    rfl

theorem counted_concat (i : Injection) (op o : Operation) (ops : List Operation) :
    i.counted op (ops ++ [o]) =
      i.counted op ops + if o = op then (i.after ops).counts op else 0 := by
  rw [counted_append]
  simp [counted]

theorem counts_le (i : Injection) (op : Operation) :
    i.counts op ≤ (limits op i.scenarios).length := by
  unfold counts
  cases i.latched with
  | some l => exact Nat.zero_le _
  | none => exact reach_le ..

/-- A call is counted at most once for each limit. -/
theorem counted_le (i : Injection) (op : Operation) (ops : List Operation) :
    i.counted op ops ≤ ops.count op * (limits op i.scenarios).length := by
  induction ops using List.reverseRecOn with
  | nil => exact Nat.zero_le _
  | append_singleton ops o ih =>
    have hcounts := (i.after ops).counts_le op
    rw [(i.scenarios_after ops).1] at hcounts
    rw [counted_concat, List.count_append, Nat.add_mul]
    by_cases ho : o = op
    · subst ho
      simp only [if_true, List.count_singleton_self, Nat.one_mul]
      omega
    · simp only [ho, if_false, Nat.add_zero]
      omega

/-! ## Faults that nobody has asked yet -/

/-- Nobody has asked the injected faults yet, and no operation fails by chance. -/
structure IsNew (i : Injection) : Prop where
  calls : i.calls = {}
  latched : i.latched = Option.none
  failureRate : i.failureRate ≤ 0

theorem isNew_ofScenarios (scenarios : List Scenario) {rate : Float} (hrate : rate ≤ 0)
    (seed : UInt64) : (ofScenarios scenarios rate seed).IsNew :=
  ⟨rfl, rfl, hrate⟩

/-- What lets one more call of an operation through when so many have been counted. -/
structure Lets (scenarios : List Scenario) (op : Operation) (n : Nat) : Prop where
  unfailed : ∀ s ∈ scenarios, s.failure? op = Option.none
  within : ∀ j count, (limits op scenarios)[j]? = some count → n + j + 1 ≤ count.toNat

/-- Where a later call is let through, an earlier one is. -/
theorem Lets.anti {m : Nat} (h : Lets scenarios op n) (hle : m ≤ n) : Lets scenarios op m where
  unfailed := h.unfailed
  within j count hj := by
    have := h.within j count hj
    omega

namespace IsNew

variable (hi : i.IsNew)
include hi

theorem calls_after_eq (op : Operation) (ops : List Operation) :
    (i.after ops).calls.get op = UInt32.ofNat (i.counted op ops) := by
  rw [calls_after, hi.calls]
  cases op <;> exact UInt32.zero_add _

/-- As long as the counter does not come around, it is the number of calls that have been
counted. -/
theorem toNat_calls (fits : i.counted op ops < 2 ^ 32) :
    ((i.after ops).calls.get op).toNat = i.counted op ops := by
  rw [hi.calls_after_eq, UInt32.toNat_ofNat_of_lt' fits]

/-- Nothing latches where no scenario fails an operation. -/
theorem latched_eq_none (hpass : ∀ s ∈ i.scenarios, s.failure? op = Option.none)
    (ops : List Operation) : (i.after ops).latched = Option.none := by
  cases hl : (i.after ops).latched with
  | none => rfl
  | some l =>
    rcases latched_after hl with hold | hfirst
    · rw [hi.latched] at hold
      cases hold
    · obtain ⟨s, hs, hsl⟩ := List.exists_of_findSome?_eq_some hfirst
      rw [(Scenario.failure?_eq_none_iff.mp (hpass s hs)).2] at hsl
      cases hsl

/-- As long as nothing has latched, the scenarios decide. -/
theorem check_fst (hl : (i.after ops).latched = Option.none) (op : Operation) :
    ((i.after ops).check op).1 =
      (scan op (UInt32.ofNat (i.counted op ops)) i.scenarios).1 := by
  rw [← hi.calls_after_eq]
  obtain ⟨hscenarios, hrate⟩ := i.scenarios_after ops
  rw [← hscenarios]
  cases hs : (scan op ((i.after ops).calls.get op) (i.after ops).scenarios).1 with
  | some f => rw [check_of_fails hl hs]
  | none =>
    have hdraw : (i.after ops).chance.decide (i.after ops).failureRate =
        (false, (i.after ops).chance) := if_pos (hrate ▸ hi.failureRate)
    rw [check_of_passes hl hs, hdraw]
    rfl

theorem counts_after (hl : (i.after ops).latched = Option.none) (op : Operation) :
    (i.after ops).counts op = reach op (UInt32.ofNat (i.counted op ops)) i.scenarios := by
  rw [← hi.calls_after_eq]
  unfold counts
  rw [hl, (i.scenarios_after ops).1]

/-- A call that is let through exceeds no limit, and no scenario fails it. -/
theorem scan_of_passes (h : ((i.after ops).check op).1 = Option.none) :
    (i.after ops).latched = Option.none ∧
      (scan op (UInt32.ofNat (i.counted op ops)) i.scenarios).1 = Option.none := by
  cases hl : (i.after ops).latched with
  | some l =>
    rw [check_of_latched hl] at h
    cases h
  | none => exact ⟨rfl, (hi.check_fst hl op).symm.trans h⟩

/-- A call that is let through is counted once for each limit. -/
theorem counts_of_passes (h : ((i.after ops).check op).1 = Option.none) :
    (i.after ops).counts op = (limits op i.scenarios).length := by
  obtain ⟨hl, hscan⟩ := hi.scan_of_passes h
  rw [hi.counts_after hl, reach_of_passes hscan]

/-- A scenario that fails an operation lets no call of it through. -/
theorem unfailed_of_passes (h : ((i.after ops).check op).1 = Option.none) :
    ∀ s ∈ i.scenarios, s.failure? op = Option.none :=
  (scan_eq_none_iff.mp (hi.scan_of_passes h).2).1

/-- **What lets a call through**: the counter of its operation, in 32 bits. -/
theorem passes_iff_mod :
    ((i.after ops).check op).1 = Option.none ↔
      (∀ s ∈ i.scenarios, s.failure? op = Option.none) ∧
        ∀ j count, (limits op i.scenarios)[j]? = some count →
          (i.counted op ops + j + 1) % 2 ^ 32 ≤ count.toNat := by
  have hmod (j : Nat) (count : UInt32) :
      UInt32.ofNat (i.counted op ops) + UInt32.ofNat (j + 1) ≤ count ↔
        (i.counted op ops + j + 1) % 2 ^ 32 ≤ count.toNat := by
    rw [← UInt32.ofNat_add, UInt32.le_iff_toNat_le, UInt32.toNat_ofNat', ← Nat.add_assoc]
  constructor
  · intro h
    obtain ⟨hunfailed, hwithin⟩ := scan_eq_none_iff.mp (hi.scan_of_passes h).2
    exact ⟨hunfailed, fun j count hj => (hmod j count).mp (hwithin j count hj)⟩
  · rintro ⟨hunfailed, hwithin⟩
    rw [hi.check_fst (hi.latched_eq_none hunfailed ops), scan_eq_none_iff]
    exact ⟨hunfailed, fun j count hj => (hmod j count).mpr (hwithin j count hj)⟩

/-- Where a call is let through, the counter tells why, unless it comes around. -/
theorem lets_of_passes (fits : i.counted op (ops ++ [op]) < 2 ^ 32)
    (h : ((i.after ops).check op).1 = Option.none) :
    Lets i.scenarios op (i.counted op ops) := by
  rw [counted_concat, if_pos rfl, hi.counts_of_passes h] at fits
  obtain ⟨hunfailed, hwithin⟩ := hi.passes_iff_mod.mp h
  refine ⟨hunfailed, fun j count hj => ?_⟩
  have hlt : j < (limits op i.scenarios).length := (List.getElem?_eq_some_iff.mp hj).1
  have hsum : i.counted op ops + j + 1 < 2 ^ 32 := by omega
  simpa only [Nat.mod_eq_of_lt hsum] using hwithin j count hj

/-- A call that fewer have been counted before than every limit allows is let through. -/
theorem passes_of_lets (h : Lets i.scenarios op (i.counted op ops)) :
    ((i.after ops).check op).1 = Option.none := by
  refine hi.passes_iff_mod.mpr ⟨h.unfailed, fun j count hj => ?_⟩
  exact Nat.le_trans (Nat.mod_le ..) (h.within j count hj)

/-- **What lets a call through**, as long as the counter does not come around. -/
theorem passes_iff_lets (fits : i.counted op (ops ++ [op]) < 2 ^ 32) :
    ((i.after ops).check op).1 = Option.none ↔ Lets i.scenarios op (i.counted op ops) :=
  ⟨hi.lets_of_passes fits, hi.passes_of_lets⟩

/-- Where a call is let through, every one before it was, so each has been counted once for each
limit. -/
theorem counted_of_lets (h : Lets i.scenarios op (i.counted op ops)) :
    i.counted op ops = ops.count op * (limits op i.scenarios).length := by
  induction ops using List.reverseRecOn with
  | nil => simp [counted]
  | append_singleton ops o ih =>
    rw [counted_concat] at h ⊢
    have hbefore : Lets i.scenarios op (i.counted op ops) := h.anti (Nat.le_add_right _ _)
    rw [ih hbefore, List.count_append, Nat.add_mul]
    by_cases ho : o = op
    · subst ho
      rw [if_pos rfl, hi.counts_of_passes (hi.passes_of_lets hbefore), List.count_singleton_self,
        Nat.one_mul]
    · simp [ho]

/-- **How many calls are let through**, as long as the counter does not come around: each of them
has moved it on by the number of limits. -/
theorem passes_iff (fits : i.counted op (ops ++ [op]) < 2 ^ 32) :
    ((i.after ops).check op).1 = Option.none ↔
      Lets i.scenarios op (ops.count op * (limits op i.scenarios).length) := by
  rw [hi.passes_iff_lets fits]
  constructor
  · intro h
    rwa [← hi.counted_of_lets h]
  · intro h
    exact h.anti (i.counted_le op ops)

/-- With a single limit every call is counted once. -/
theorem counted_of_single (hunfailed : ∀ s ∈ i.scenarios, s.failure? op = Option.none)
    (hsingle : (limits op i.scenarios).length ≤ 1) (ops : List Operation) :
    i.counted op ops = ops.count op * (limits op i.scenarios).length := by
  induction ops using List.reverseRecOn with
  | nil => simp [counted]
  | append_singleton ops o ih =>
    rw [counted_concat, ih, List.count_append, Nat.add_mul]
    by_cases ho : o = op
    · subst ho
      rw [if_pos rfl, hi.counts_after (hi.latched_eq_none hunfailed ops),
        reach_of_single hunfailed hsingle, List.count_singleton_self, Nat.one_mul]
    · simp [ho]

/-- **How many calls a single limit lets through**, however often the counter comes around. -/
theorem passes_iff_of_single (hsingle : (limits op i.scenarios).length ≤ 1) :
    ((i.after ops).check op).1 = Option.none ↔
      (∀ s ∈ i.scenarios, s.failure? op = Option.none) ∧
        ∀ count ∈ limits op i.scenarios, (ops.count op + 1) % 2 ^ 32 ≤ count.toNat := by
  rw [hi.passes_iff_mod]
  refine and_congr_right fun hunfailed => ?_
  rw [hi.counted_of_single hunfailed hsingle]
  match limits op i.scenarios, hsingle with
  | [], _ => simp
  | [limit], _ => simp [List.getElem?_singleton]

end IsNew

/-! ## The law of the limits -/

theorem unfailed_iff (lasting : ∀ s ∈ scenarios, s.latch? = Option.none) :
    (∀ s ∈ scenarios, s.failure? op = Option.none) ↔ .timeout op ∉ scenarios := by
  constructor
  · intro h hmem
    exact (Scenario.failure?_eq_none_iff.mp (h _ hmem)).1 rfl
  · intro h s hs
    refine Scenario.failure?_eq_none_iff.mpr ⟨?_, lasting s hs⟩
    rintro rfl
    exact h hs

/-- Which calls of an operation injected faults let through. The limits of the operation share one
counter in 32 bits, and each of them that a call reaches moves it on. -/
structure LetsThrough (i : Injection) (op : Operation) : Prop where
  /-- The counter decides, in 32 bits. -/
  counter (before : List Operation) : ((i.after before).check op).1 = Option.none ↔
    .timeout op ∉ i.scenarios ∧ ∀ j count, (limits op i.scenarios)[j]? = some count →
      (i.counted op before + j + 1) % 2 ^ 32 ≤ count.toNat
  /-- Until the counter comes around, each call before has been counted once for each limit. -/
  unwrapped (before : List Operation) : i.counted op (before ++ [op]) < 2 ^ 32 →
    (((i.after before).check op).1 = Option.none ↔
      .timeout op ∉ i.scenarios ∧ ∀ j count, (limits op i.scenarios)[j]? = some count →
        before.count op * (limits op i.scenarios).length + j + 1 ≤ count.toNat)
  /-- With a single limit the calls are counted one by one. -/
  single (before : List Operation) : (limits op i.scenarios).length ≤ 1 →
    (((i.after before).check op).1 = Option.none ↔
      .timeout op ∉ i.scenarios ∧ ∀ count, .failAfter op count ∈ i.scenarios →
        (before.count op + 1) % 2 ^ 32 ≤ count.toNat)

/-- **Which calls are let through** by scenarios of which none latches, when nothing fails by
chance. A call is measured against the counter that all limits of its operation share, so a limit
lets as many calls through as it says only where it is the single one of its operation. -/
theorem letsThrough_ofScenarios (scenarios : List Scenario) {rate : Float} (hrate : rate ≤ 0)
    (seed : UInt64) (lasting : ∀ s ∈ scenarios, s.latch? = Option.none) (op : Operation) :
    (ofScenarios scenarios rate seed).LetsThrough op := by
  have hnew := isNew_ofScenarios scenarios hrate seed
  have hunfailed : (∀ s ∈ scenarios, s.failure? op = Option.none) ↔ .timeout op ∉ scenarios :=
    unfailed_iff lasting
  constructor
  · intro before
    rw [hnew.passes_iff_mod]
    exact and_congr_left fun _ => hunfailed
  · intro before fits
    rw [hnew.passes_iff fits]
    constructor
    · intro h
      exact ⟨hunfailed.mp h.unfailed, h.within⟩
    · rintro ⟨htimeout, hwithin⟩
      exact ⟨hunfailed.mpr htimeout, hwithin⟩
  · intro before hsingle
    rw [hnew.passes_iff_of_single hsingle]
    simp only [mem_limits]
    exact and_congr_left fun _ => hunfailed

/-- A limit of two openings lets the second one through, whatever else has been counted. -/
theorem letsThrough_second_opening :
    let i := ofScenarios [.failAfter .opening 2, .failAfter .closing 0] 0 7
    (0 : Float) ≤ 0 ∧ (∀ s ∈ i.scenarios, s.latch? = Option.none) ∧ i.LetsThrough .opening ∧
      ((i.after [.closing, .opening, .readingState]).check .opening).1 = Option.none := by
  intro i
  have hrate : (0 : Float) ≤ 0 := by decide +kernel
  have lasting : ∀ s ∈ i.scenarios, s.latch? = Option.none := by decide +kernel
  have h : i.LetsThrough .opening := letsThrough_ofScenarios _ hrate 7 lasting .opening
  refine ⟨hrate, lasting, h, (h.single _ (by decide +kernel)).mpr ⟨by decide +kernel, ?_⟩⟩
  intro count hcount
  rw [← mem_limits, show limits .opening i.scenarios = [2] from rfl, List.mem_singleton] at hcount
  subst hcount
  decide

/-- Two limits of two openings each let one opening through: it is counted at both of them. -/
theorem second_opening_fails :
    (∀ s ∈ [Scenario.failAfter .opening 2, .failAfter .opening 2], s = .failAfter .opening 2) ∧
      let i := ofScenarios [.failAfter .opening 2, .failAfter .opening 2] 0 7
      (i.check .opening).1.isNone ∧ ((i.after [.opening]).check .opening).1.isSome := by
  decide +kernel

/-! ## What stays failed -/

/-- How long injected faults keep failing an operation. -/
structure Persists (i : Injection) (op : Operation) : Prop where
  /-- The counter is the number of calls that have been counted, in 32 bits. -/
  counter (ops : List Operation) : (i.after ops).calls.get op = UInt32.ofNat (i.counted op ops)
  /-- A call is counted at most once for each limit. -/
  counted (ops : List Operation) :
    i.counted op ops ≤ ops.count op * (limits op i.scenarios).length
  /-- Until the counter comes around, an operation that has failed fails again. -/
  fails (before more : List Operation) : ((i.after before).check op).1 ≠ Option.none →
    i.counted op (before ++ op :: more ++ [op]) < 2 ^ 32 →
    ((i.after (before ++ op :: more)).check op).1 ≠ Option.none
  /-- Until the counter comes around, a limit that has been exceeded stays exceeded. -/
  exceeded (count : UInt32) (before more : List Operation) :
    count < (i.after before).calls.get op → i.counted op (before ++ more) < 2 ^ 32 →
    count < (i.after (before ++ more)).calls.get op
  /-- What a scenario fails in itself fails forever. -/
  failed (s : Scenario) : s ∈ i.scenarios → s.failure? op ≠ Option.none →
    ∀ before, ((i.after before).check op).1 ≠ Option.none

/-- **Injected faults do not heal** until the counter of their operation comes around, when nothing
fails by chance. -/
theorem persists_ofScenarios (scenarios : List Scenario) {rate : Float} (hrate : rate ≤ 0)
    (seed : UInt64) (op : Operation) : (ofScenarios scenarios rate seed).Persists op := by
  have hnew := isNew_ofScenarios scenarios hrate seed
  generalize ofScenarios scenarios rate seed = i at hnew ⊢
  refine ⟨hnew.calls_after_eq op, i.counted_le op, ?_, ?_, ?_⟩
  · intro before more hfailed fits hpasses
    have hlets := hnew.lets_of_passes fits hpasses
    rw [counted_append] at hlets
    exact hfailed (hnew.passes_of_lets (hlets.anti (Nat.le_add_right _ _)))
  · intro count before more hover fits
    have hfits := fits
    rw [counted_append] at hfits
    have hbefore : ((i.after before).calls.get op).toNat = i.counted op before :=
      hnew.toNat_calls (by omega)
    have hmore := hnew.toNat_calls fits
    rw [counted_append] at hmore
    rw [UInt32.lt_iff_toNat_lt] at hover ⊢
    omega
  · intro s hs hfails before hpasses
    exact hfails (hnew.unfailed_of_passes hpasses s hs)

/-- A limit of no opening fails one after the other. -/
theorem persists_second_opening :
    let i := ofScenarios [.failAfter .opening 0] 0 7
    (0 : Float) ≤ 0 ∧ i.Persists .opening ∧
      ((i.after [.opening, .readingState]).check .opening).1 ≠ Option.none := by
  intro i
  have hrate : (0 : Float) ≤ 0 := by decide +kernel
  have h : i.Persists .opening := persists_ofScenarios _ hrate 7 .opening
  refine ⟨hrate, h, h.fails [] [.readingState] ?_ (by decide +kernel)⟩
  rw [← Option.isSome_iff_ne_none]
  decide +kernel

/-- After as many openings as 32 bits can count, the counter starts again and an opening that had
always failed is let through. -/
theorem opening_heals :
    let i := ofScenarios [.failAfter .opening 0] 0 7
    (i.check .opening).1 ≠ Option.none ∧
      ((i.after (List.replicate (2 ^ 32 - 1) .opening)).check .opening).1 = Option.none ∧
      0 < (i.after [.opening]).calls.get .opening ∧
      (i.after (List.replicate (2 ^ 32) .opening)).calls.get .opening = 0 := by
  intro i
  have hnew : i.IsNew := isNew_ofScenarios _ (by decide +kernel) 7
  have hunfailed : ∀ s ∈ i.scenarios, s.failure? .opening = Option.none := by decide +kernel
  have hlimits : limits .opening i.scenarios = [0] := rfl
  have hsingle : (limits .opening i.scenarios).length ≤ 1 := by rw [hlimits]; decide
  have hcalls (n : Nat) :
      (i.after (List.replicate n .opening)).calls.get .opening = UInt32.ofNat n := by
    rw [hnew.calls_after_eq, hnew.counted_of_single hunfailed hsingle, hlimits]
    simp
  have hpasses (n : Nat) : ((i.after (List.replicate n .opening)).check .opening).1 = Option.none ↔
      (n + 1) % 2 ^ 32 = 0 := by
    rw [hnew.passes_iff_of_single hsingle, hlimits, and_iff_right hunfailed]
    simp
  refine ⟨fun h => ?_, (hpasses _).mpr rfl, ?_, ?_⟩
  · exact absurd ((hpasses 0).mp h) (by decide)
  · have hone := hcalls 1
    rw [List.replicate_one] at hone
    rw [hone]
    decide
  · rw [hcalls]
    decide

end Injection

end ChannelGateway
