import ChannelGateway.Decimal.Basic
import Mathlib.Tactic.Ring

/-!
# Shortest decimals: where they lie

A grid of 17 digits is finer than the reals that round to one number: its neighbours are at most one
part in `10 ^ 16` of the value apart, and the interval reaches at least one part in `2 ^ 54` to each
side. So the nearer neighbour of the value lies in the interval, the search for digits ends with a
hit, and what it finds has at most 17 digits.

Results:
* `leadingExponent_spec`: the leading digit of a fraction.
* **`exists_onGrid?`**: the grid of 17 digits has a hit.
* `shortestFrom_spec`: what is found is a hit on a grid of at most 17 digits.
-/

namespace ChannelGateway.Decimal

open Float.Model

/-! ## Digits of a fraction -/

theorem digitCount_spec {n : Nat} (h : 0 < n) :
    0 < digitCount n ∧ 10 ^ (digitCount n - 1) ≤ n ∧ n < 10 ^ digitCount n := by
  have hcount : digitCount n = (Nat.toDigits 10 n).length := if_neg (by omega)
  have hpos : 0 < digitCount n := hcount ▸ Nat.length_toDigits_pos
  refine ⟨hpos, ?_, ?_⟩
  · obtain hone | hmore := Nat.eq_or_lt_of_le (show 1 ≤ digitCount n from hpos)
    · rw [← hone]
      exact h
    · refine Nat.le_of_not_lt fun hlt => ?_
      have := (Nat.length_toDigits_le_iff (by decide) (by omega)).mpr hlt
      omega
  · exact (Nat.length_toDigits_le_iff (by decide) hpos).mp (Nat.le_of_eq hcount.symm)

/-- Powers of ten with exponents of either sign, without fractions. -/
theorem ten_shift (scale : Int) (k : Nat) :
    10 ^ scale.toNat * 10 ^ k * 10 ^ (-(scale + k)).toNat =
      10 ^ (scale + k).toNat * 10 ^ (-scale).toNat := by
  rw [← Nat.pow_add, ← Nat.pow_add, ← Nat.pow_add]
  congr 1
  omega

/-- The leading digit of a positive fraction stands for the power of ten below it. -/
theorem leadingExponent_spec {n d : Nat} (hn : 0 < n) (hd : 0 < d) :
    d * 10 ^ (leadingExponent n d).toNat ≤ n * 10 ^ (-leadingExponent n d).toNat ∧
      n * 10 ^ (-(leadingExponent n d + 1)).toNat < d * 10 ^ (leadingExponent n d + 1).toNat := by
  unfold leadingExponent
  split
  · rename_i hle
    obtain ⟨hpos, hlow, hhigh⟩ := digitCount_spec (Nat.div_pos hle hd)
    have hdown : (-(Int.ofNat (digitCount (n / d)) - 1)).toNat = 0 := by
      simp only [Int.ofNat_eq_natCast]
      omega
    have hdown' : (-(Int.ofNat (digitCount (n / d)) - 1 + 1)).toNat = 0 := by
      simp only [Int.ofNat_eq_natCast]
      omega
    have hup : (Int.ofNat (digitCount (n / d)) - 1).toNat = digitCount (n / d) - 1 := by
      simp only [Int.ofNat_eq_natCast]
      omega
    have hup' : (Int.ofNat (digitCount (n / d)) - 1 + 1).toNat = digitCount (n / d) := by
      simp only [Int.ofNat_eq_natCast]
      omega
    rw [hdown, hdown', hup, hup', Nat.pow_zero, Nat.mul_one]
    constructor
    · rw [Nat.mul_comm]
      exact (Nat.le_div_iff_mul_le hd).mp hlow
    · rw [Nat.mul_comm]
      exact (Nat.div_lt_iff_lt_mul hd).mp hhigh
  · rename_i hlt
    obtain ⟨q, hq⟩ : ∃ q, q = (d + n - 1) / n := ⟨_, rfl⟩
    have hparts := Nat.div_add_mod (d + n - 1) n
    have hrest := Nat.mod_lt (d + n - 1) hn
    rw [← hq] at hparts
    have htwo : 1 < q := by
      rw [hq]
      exact (Nat.le_div_iff_mul_le hn).mpr (by omega)
    obtain ⟨k, rfl⟩ : ∃ k, q = k + 1 := ⟨q - 1, by omega⟩
    rw [Nat.mul_succ] at hparts
    obtain ⟨hpos, hlow, hhigh⟩ := digitCount_spec (show 0 < k by omega)
    simp only [← hq, Nat.add_sub_cancel, Int.negOfNat_eq, Int.ofNat_eq_natCast]
    have hup : (-(digitCount k : Int)).toNat = 0 := by omega
    have hup' : (-(digitCount k : Int) + 1).toNat = 0 := by omega
    have hdown : (- -(digitCount k : Int)).toNat = digitCount k := by omega
    have hdown' : (-(-(digitCount k : Int) + 1)).toNat = digitCount k - 1 := by omega
    rw [hup, hup', hdown, hdown', Nat.pow_zero, Nat.mul_one]
    constructor
    · have := Nat.mul_le_mul_left n (show k + 1 ≤ 10 ^ digitCount k by omega)
      rw [Nat.mul_succ] at this
      omega
    · have := Nat.mul_le_mul_left n hlow
      omega

namespace Interval

/-! ## Grids -/

/-- The distance of two neighbours on a grid, over the denominator of an interval. -/
def unit (i : Interval) (scale : Int) : Nat :=
  i.denominator * 10 ^ scale.toNat

/-- The value of an interval in multiples of the distance on a grid, rounded down. -/
def below (i : Interval) (scale : Int) : Nat :=
  i.value * 10 ^ (-scale).toNat / i.unit scale

/-- Whether a multiple of the distance on a grid lies in an interval. -/
def holds (i : Interval) (scale : Int) (c : Nat) : Bool :=
  if i.closed then
    i.low * 10 ^ (-scale).toNat ≤ c * i.unit scale &&
      c * i.unit scale ≤ i.high * 10 ^ (-scale).toNat
  else
    i.low * 10 ^ (-scale).toNat < c * i.unit scale &&
      c * i.unit scale < i.high * 10 ^ (-scale).toNat

/-- A hit on a grid is one of the two neighbours of the value, and lies in the interval. -/
theorem onGrid?_cases {i : Interval} {tie : Tie} {scale : Int} {s : Scaled}
    (h : i.onGrid? tie scale = some s) :
    s.exponent = scale ∧ i.holds scale s.coefficient = true ∧
      (s.coefficient = i.below scale ∨ s.coefficient = i.below scale + 1) := by
  unfold onGrid? at h
  simp only at h
  split at h
  · rename_i hbelow habove
    cases h
    split
    · exact ⟨rfl, hbelow, .inl rfl⟩
    · exact ⟨rfl, habove, .inr rfl⟩
  · rename_i hbelow _
    cases h
    exact ⟨rfl, hbelow, .inl rfl⟩
  · rename_i _ habove
    cases h
    exact ⟨rfl, habove, .inr rfl⟩
  · cases h

theorem onGrid?_isSome {i : Interval} (tie : Tie) {scale : Int}
    (h : i.holds scale (i.below scale) = true ∨ i.holds scale (i.below scale + 1) = true) :
    (i.onGrid? tie scale).isSome = true := by
  unfold onGrid?
  simp only
  split
  · rfl
  · rfl
  · rfl
  · rename_i hbelow habove
    obtain h | h := h
    · exact absurd (hbelow.symm.trans h) Bool.false_ne_true
    · exact absurd (habove.symm.trans h) Bool.false_ne_true

theorem bounds_of_holds {i : Interval} {scale : Int} {c : Nat} (h : i.holds scale c = true) :
    i.low * 10 ^ (-scale).toNat ≤ c * i.unit scale ∧
      c * i.unit scale ≤ i.high * 10 ^ (-scale).toNat := by
  unfold holds at h
  split at h
  · simpa using h
  · simp only [Bool.and_eq_true, decide_eq_true_eq] at h
    omega

theorem holds_of_bounds {i : Interval} {scale : Int} {c : Nat}
    (low : i.low * 10 ^ (-scale).toNat < c * i.unit scale)
    (high : c * i.unit scale < i.high * 10 ^ (-scale).toNat) : i.holds scale c = true := by
  unfold holds
  split <;> simp only [Bool.and_eq_true, decide_eq_true_eq] <;> omega

/-! ## Seventeen digits suffice -/

/-- An interval is that of a number: it reaches at least one part in `2 ^ 54` of its value to each
side. -/
structure IsWide (i : Interval) : Prop where
  value : 0 < i.value
  denominator : 0 < i.denominator
  low : 2 ^ 54 * i.low + i.value ≤ 2 ^ 54 * i.value
  high : 2 ^ 54 * i.value + i.value ≤ 2 ^ 54 * i.high

variable {i : Interval}

/-- The exponent of ten of the leading digit of the value. -/
def leading (i : Interval) : Int :=
  leadingExponent i.value i.denominator

theorem IsWide.unit_pos (h : i.IsWide) (scale : Int) : 0 < i.unit scale :=
  Nat.mul_pos h.denominator (Nat.pow_pos (by decide))

/-- On the grid of 17 digits neighbours are at most one part in `10 ^ 16` of the value apart. -/
theorem IsWide.unit_le (h : i.IsWide) :
    10 ^ 16 * i.unit (i.leading - 16) ≤ i.value * 10 ^ (-(i.leading - 16)).toNat := by
  have hlead := (leadingExponent_spec h.value h.denominator).1
  have hshift := ten_shift (i.leading - 16) 16
  rw [show i.leading - 16 + (16 : Nat) = i.leading by omega] at hshift
  have hpos : 0 < 10 ^ (-i.leading).toNat := Nat.pow_pos (by decide)
  refine Nat.le_of_mul_le_mul_right ?_ hpos
  calc 10 ^ 16 * i.unit (i.leading - 16) * 10 ^ (-i.leading).toNat
      = i.denominator * (10 ^ (i.leading - 16).toNat * 10 ^ 16 * 10 ^ (-i.leading).toNat) := by
        unfold unit
        ring
    _ = i.denominator * 10 ^ i.leading.toNat * 10 ^ (-(i.leading - 16)).toNat := by
        rw [hshift, Nat.mul_assoc]
    _ ≤ i.value * 10 ^ (-i.leading).toNat * 10 ^ (-(i.leading - 16)).toNat :=
        Nat.mul_le_mul_right _ hlead
    _ = i.value * 10 ^ (-(i.leading - 16)).toNat * 10 ^ (-i.leading).toNat := Nat.mul_right_comm ..

/-- On the grid of 17 digits the nearer neighbour of the value lies in the interval. -/
theorem IsWide.exists_onGrid? (h : i.IsWide) (tie : Tie) :
    (i.onGrid? tie (i.leading - 16)).isSome = true := by
  apply onGrid?_isSome
  have hfine := h.unit_le
  have hunit := h.unit_pos (i.leading - 16)
  have hlow := Nat.mul_le_mul_right (10 ^ (-(i.leading - 16)).toNat) h.low
  have hhigh := Nat.mul_le_mul_right (10 ^ (-(i.leading - 16)).toNat) h.high
  have hrest := Nat.mod_lt (i.value * 10 ^ (-(i.leading - 16)).toNat) hunit
  have hparts :=
    Nat.div_add_mod (i.value * 10 ^ (-(i.leading - 16)).toNat) (i.unit (i.leading - 16))
  rw [Nat.add_mul, Nat.mul_assoc, Nat.mul_assoc] at hlow hhigh
  rw [Nat.mul_comm, show _ / _ = i.below (i.leading - 16) from rfl] at hparts
  have habove : (i.below (i.leading - 16) + 1) * i.unit (i.leading - 16) =
      i.below (i.leading - 16) * i.unit (i.leading - 16) + i.unit (i.leading - 16) :=
        Nat.succ_mul ..
  by_cases hnear : 2 * (i.value * 10 ^ (-(i.leading - 16)).toNat % i.unit (i.leading - 16)) ≤
      i.unit (i.leading - 16)
  · exact .inl (holds_of_bounds (by omega) (by omega))
  · exact .inr (holds_of_bounds (by omega) (by omega))

/-- On the grid of some digits the value lies below the power of ten with one digit more. -/
theorem IsWide.below_lt (h : i.IsWide) (digits : Nat) :
    i.below (i.leading - digits + 1) < 10 ^ digits := by
  have hlead := (leadingExponent_spec h.value h.denominator).2
  have hshift := ten_shift (i.leading - digits + 1) digits
  rw [show i.leading - digits + 1 + digits = i.leading + 1 by omega] at hshift
  unfold below
  rw [Nat.div_lt_iff_lt_mul (h.unit_pos _)]
  have hpos : 0 < 10 ^ (-(i.leading + 1)).toNat := Nat.pow_pos (by decide)
  refine Nat.lt_of_mul_lt_mul_right (a := 10 ^ (-(i.leading + 1)).toNat) ?_
  calc i.value * 10 ^ (-(i.leading - digits + 1)).toNat * 10 ^ (-(i.leading + 1)).toNat
      = i.value * 10 ^ (-(i.leading + 1)).toNat * 10 ^ (-(i.leading - digits + 1)).toNat :=
        Nat.mul_right_comm ..
    _ < i.denominator * 10 ^ (i.leading + 1).toNat * 10 ^ (-(i.leading - digits + 1)).toNat :=
        (Nat.mul_lt_mul_right (Nat.pow_pos (by decide))).mpr hlead
    _ = i.denominator * (10 ^ (i.leading - digits + 1).toNat * 10 ^ digits *
          10 ^ (-(i.leading + 1)).toNat) := by
        rw [hshift, Nat.mul_assoc]
    _ = 10 ^ digits * i.unit (i.leading - digits + 1) * 10 ^ (-(i.leading + 1)).toNat := by
        unfold unit
        ring

/-! ## The search -/

/-- The search finds a hit on one of the grids that it looks at, if there is one. -/
theorem shortestFrom_cases {tie : Tie} {leading : Int} {digits fuel last : Nat}
    (first : digits ≤ last) (enough : last < digits + fuel)
    (h : (i.onGrid? tie (leading - last + 1)).isSome = true) :
    ∃ n, digits ≤ n ∧ n ≤ last ∧
      i.onGrid? tie (leading - n + 1) = some (i.shortestFrom tie leading digits fuel) := by
  induction fuel generalizing digits with
  | zero => omega
  | succ fuel ih =>
    unfold shortestFrom
    split
    · rename_i s hs
      exact ⟨digits, Nat.le_refl _, first, hs⟩
    · rename_i hnone
      obtain heq | hlt := Nat.eq_or_lt_of_le first
      · have hnone : i.onGrid? tie (leading - digits + 1) = none := hnone
        rw [← heq, hnone] at h
        cases h
      · obtain ⟨n, hdigits, hn⟩ := ih hlt (by omega)
        exact ⟨n, Nat.le_of_succ_le hdigits, hn⟩

/-- What the search finds lies in the interval, is a neighbour of the value on a grid that is not
coarser than the leading digit, and has at most 17 digits. -/
theorem IsWide.shortestFrom_spec (h : i.IsWide) (tie : Tie) {s : Scaled}
    (hs : i.shortestFrom tie i.leading 1 17 = s) :
    i.holds s.exponent s.coefficient = true ∧ s.exponent ≤ i.leading ∧
      s.coefficient ≤ i.below s.exponent + 1 ∧ s.coefficient ≤ 10 ^ 17 := by
  have hlast : (i.onGrid? tie (i.leading - (17 : Nat) + 1)).isSome = true := by
    rw [show i.leading - (17 : Nat) + 1 = i.leading - 16 by omega]
    exact h.exists_onGrid? tie
  obtain ⟨n, hfirst, hn, hgrid⟩ := shortestFrom_cases (show 1 ≤ 17 by decide)
    (show 17 < 1 + 17 by decide) hlast
  rw [hs] at hgrid
  obtain ⟨hexponent, hholds, hneighbour⟩ := onGrid?_cases hgrid
  have hbelow := h.below_lt n
  have hpow : 10 ^ n ≤ 10 ^ 17 := Nat.pow_le_pow_right (by decide) hn
  rw [hexponent]
  refine ⟨hholds, ?_, ?_, ?_⟩ <;> omega

end Interval

/-! ## The interval of a number -/

/-- A binary number is finite: 53 bits at most, at an exponent within range, and the gap below it is
narrow only at a power of two. -/
structure Binary.IsFinite (b : Binary) : Prop where
  mantissa : b.mantissa < 2 ^ 53
  low : -1074 ≤ b.exponent
  high : b.exponent ≤ 971
  narrow : b.narrowBelow = true → b.mantissa = 2 ^ 52

/-- The exponent field of a number. -/
theorem toNat_unpackExponent (x : Float) :
    (@UnpackedFloat.unpackExponent .binary64 x.toModel.toBits.toBitVec).toNat =
      x.toBits.toNat / Nat.pow 2 52 % 2048 := by
  simp [UnpackedFloat.unpackExponent, BitVec.extractLsb_toNat, Nat.shiftRight_eq_div_pow]
  rfl

/-- The exponent field of a finite number is not the greatest one. -/
theorem biased_lt {x : Float} (h : x.isFinite = true) :
    x.toBits.toNat / Nat.pow 2 52 % 2048 < 2047 := by
  refine Nat.lt_of_le_of_ne (by omega) fun hmax => ?_
  have hfield :
      @UnpackedFloat.unpackExponent .binary64 x.toModel.toBits.toBitVec = -1#11 :=
    BitVec.eq_of_toNat_eq ((toNat_unpackExponent x).trans hmax)
  have hfinite : (UnpackedFloat.unpack .binary64 x.toModel.toBits.toBitVec).isFinite = true := h
  unfold UnpackedFloat.unpack at hfinite
  rw [if_pos hfield] at hfinite
  split at hfinite <;> cases hfinite

theorem Binary.isFinite_ofFloat {x : Float} (h : x.isFinite = true) : (ofFloat x).IsFinite := by
  have hbiased := biased_lt h
  have hfraction : x.toBits.toNat % Nat.pow 2 52 < 2 ^ 52 := Nat.mod_lt _ (by decide)
  unfold ofFloat
  simp only
  generalize x.toBits.toNat / Nat.pow 2 52 % 2048 = biased at hbiased
  generalize x.toBits.toNat % Nat.pow 2 52 = fraction at hfraction
  have hhidden : Nat.pow 2 52 = 2 ^ 52 := rfl
  rw [hhidden]
  split
  · exact ⟨by simp only; omega, by simp, by simp, fun hn => by cases hn⟩
  · refine ⟨by simp only; omega, by simp; omega, by simp; omega, fun hn => ?_⟩
    simp only [Bool.and_eq_true, beq_iff_eq] at hn
    simp only
    omega

theorem Binary.IsFinite.isWide {b : Binary} (h : b.IsFinite) (pos : b.mantissa ≠ 0) :
    (Interval.ofBinary b).IsWide := by
  obtain ⟨hmantissa, -, -, hnarrow⟩ := h
  have hup : 0 < Nat.pow 2 b.exponent.toNat := Nat.two_pow_pos _
  have hdown : 0 < Nat.pow 2 (-b.exponent).toNat := Nat.two_pow_pos _
  -- A quarter below a power of two, half a unit elsewhere: both are as wide as a part of the value.
  have hgap : 2 ^ 54 * (4 * b.mantissa - (if b.narrowBelow then 1 else 2)) + 4 * b.mantissa ≤
      2 ^ 54 * (4 * b.mantissa) := by
    split
    · have := hnarrow ‹_›
      omega
    · omega
  have hhalf : 2 ^ 54 * (4 * b.mantissa) + 4 * b.mantissa ≤ 2 ^ 54 * (4 * b.mantissa + 2) := by
    omega
  refine ⟨Nat.mul_pos (by omega) hup, Nat.mul_pos (by decide) hdown, ?_, ?_⟩
  · have := Nat.mul_le_mul_right (Nat.pow 2 b.exponent.toNat) hgap
    rwa [Nat.add_mul, Nat.mul_assoc (2 ^ 54), Nat.mul_assoc (2 ^ 54)] at this
  · have := Nat.mul_le_mul_right (Nat.pow 2 b.exponent.toNat) hhalf
    rwa [Nat.add_mul, Nat.mul_assoc (2 ^ 54), Nat.mul_assoc (2 ^ 54)] at this

/-! ## Shortest decimals -/

theorem trim_cases (s : Scaled) :
    s.trim = s ∨ s.coefficient = 10 * s.trim.coefficient ∧ s.trim.exponent = s.exponent + 1 := by
  unfold Scaled.trim
  split
  · refine .inr ⟨?_, rfl⟩
    simp only
    omega
  · exact .inl rfl

/-- What the shortest decimal of a number that is not zero is found to be, before it loses a
zero. -/
structure IsFound (b : Binary) (s : Scaled) : Prop where
  holds : (Interval.ofBinary b).holds s.exponent s.coefficient = true
  scale : s.exponent ≤ (Interval.ofBinary b).leading
  neighbour : s.coefficient ≤ (Interval.ofBinary b).below s.exponent + 1
  short : s.coefficient ≤ 10 ^ 17

/-- The shortest decimal of a finite number that is not zero. -/
theorem shortest_cases {x : Float} (h : x.isFinite = true) (pos : (Binary.ofFloat x).mantissa ≠ 0)
    (tie : Tie) : ∃ s, IsFound (Binary.ofFloat x) s ∧ shortest tie x = s.trim := by
  have hwide := (Binary.isFinite_ofFloat h).isWide pos
  obtain ⟨hholds, hscale, hneighbour, hshort⟩ := hwide.shortestFrom_spec tie rfl
  exact ⟨_, ⟨hholds, hscale, hneighbour, hshort⟩, if_neg pos⟩

end ChannelGateway.Decimal
