import ChannelGateway.Channel.Basic
import ChannelGateway.Proofs.Agreement

/-!
# Volts: what the range of an output says of a number

`inVoltageRange` compares a number with the two ends as binary numbers are compared. What satisfies
both comparisons is zero or has digits whose parts are not beyond those of ten, so `NaN`, the
infinities and every number beyond the ends are outside, and both zeros inside.

Its text is that of a decimal, and that decimal too is not beyond ten (`Scaled.AtMost`). The digits
are those of a neighbour of the number on a grid, which may be the one above; but a grid with no
step greater than one has ten among its points, so the neighbour above of a number below ten is not
beyond it. Ten itself has a coarser grid, and is found there as it is.

Results:
* `Binary.ofFloat_finite`, `Binary.ofFloat_zero`: the parts of a number are those of its model.
* `unpack_of_inVoltageRange`: what the two comparisons say of the model of a number.
* `Decimal.shortest_atMost`: the shortest decimal of what is in range is not beyond ten.
* **`settable_of_inVoltageRange`**: what is in range is finite, and is told as a number of at most
  ten volts.
-/

namespace ChannelGateway

open Float.Model Float.Model.UnpackedFloat

namespace Decimal

/-! ## The parts of a number -/

/-- The fraction field of a number. -/
theorem toNat_unpackMantissa (x : Float) :
    (@unpackMantissa .binary64 x.toModel.toBits.toBitVec).toNat =
      x.toBits.toNat % Nat.pow 2 52 := by
  simp [unpackMantissa, BitVec.extractLsb_toNat]
  rfl

/-- The parts of a number whose model is not zero are those of the model. -/
theorem Binary.ofFloat_finite {x : Float} {s : Sign} {m : Nat} {e : Int} {pos : 0 < m}
    (h : x.toModel.unpack = .finite s m e pos) :
    (ofFloat x).mantissa = m ∧ (ofFloat x).exponent = e := by
  have hbias : (Format.binary64.exponentBias : Int) = 1023 := rfl
  change UnpackedFloat.unpack .binary64 x.toModel.toBits.toBitVec = _ at h
  unfold UnpackedFloat.unpack at h
  unfold ofFloat
  simp only at h ⊢
  rw [← toNat_unpackExponent x, ← toNat_unpackMantissa x]
  split at h
  · split at h <;> cases h
  · split at h
    · rename_i hzero
      split at h
      · cases h
      · -- a number without the hidden digit
        cases h
        have hfield : (@unpackExponent .binary64 x.toModel.toBits.toBitVec).toNat = 0 :=
          congrArg BitVec.toNat hzero
        rw [if_pos hfield, hfield, hbias]
        exact ⟨rfl, rfl⟩
    · rename_i hzero
      cases h
      have hne : (@unpackExponent .binary64 x.toModel.toBits.toBitVec).toNat ≠ 0 :=
        fun hz => hzero (BitVec.eq_of_toNat_eq hz)
      rw [if_neg hne, Rounding.toNat_implicit, hbias]
      exact ⟨Nat.add_comm _ _, rfl⟩

/-- A number whose model is zero has no digits. -/
theorem Binary.ofFloat_zero {x : Float} {s : Sign} (h : x.toModel.unpack = .zero s) :
    (ofFloat x).mantissa = 0 := by
  change UnpackedFloat.unpack .binary64 x.toModel.toBits.toBitVec = _ at h
  unfold UnpackedFloat.unpack at h
  unfold ofFloat
  simp only at h ⊢
  rw [← toNat_unpackExponent x, ← toNat_unpackMantissa x]
  split at h
  · split at h <;> cases h
  · split at h
    · rename_i hexponent
      split at h
      · rename_i hmantissa
        have hfield : (@unpackExponent .binary64 x.toModel.toBits.toBitVec).toNat = 0 :=
          congrArg BitVec.toNat hexponent
        rw [if_pos hfield]
        exact congrArg BitVec.toNat hmantissa
      · cases h
    · cases h

/-! ## Shortest decimals below ten -/

/-- A decimal is not greater than a whole number. -/
def Scaled.AtMost (s : Scaled) (n : Nat) : Prop :=
  s.coefficient * 10 ^ s.exponent.toNat ≤ n * 10 ^ (-s.exponent).toNat

/-- A decimal that loses a zero stays what it is. -/
theorem Scaled.AtMost.trim {s : Scaled} {n : Nat} (h : s.AtMost n) : s.trim.AtMost n := by
  rcases trim_cases s with he | ⟨hcoefficient, hexponent⟩
  · rwa [he]
  unfold AtMost at h ⊢
  rw [hcoefficient] at h
  rw [hexponent]
  by_cases hneg : s.exponent < 0
  · obtain ⟨k, hk⟩ : ∃ k, (-s.exponent).toNat = k + 1 := ⟨(-s.exponent).toNat - 1, by omega⟩
    rw [show s.exponent.toNat = 0 by omega, hk, Nat.pow_succ] at h
    rw [show (s.exponent + 1).toNat = 0 by omega, show (-(s.exponent + 1)).toNat = k by omega]
    rw [← Nat.mul_assoc n] at h
    omega
  · rw [show (-s.exponent).toNat = 0 by omega] at h
    rw [show (s.exponent + 1).toNat = s.exponent.toNat + 1 by omega,
      show (-(s.exponent + 1)).toNat = 0 by omega, Nat.pow_succ, Nat.mul_comm _ 10,
      ← Nat.mul_assoc, Nat.mul_comm _ 10]
    exact h

/-- What is found for a number below ten is not greater than ten: the grid it is found on has ten
among its points. -/
theorem IsFound.atMost {b : Binary} {s : Scaled} (hs : IsFound b s)
    (wide : (Interval.ofBinary b).IsWide)
    (small : (Interval.ofBinary b).value < 10 * (Interval.ofBinary b).denominator) :
    s.AtMost 10 := by
  have hscale := hs.scale
  have hneighbour := hs.neighbour
  generalize Interval.ofBinary b = i at wide small hscale hneighbour
  have hleading : i.leading ≤ 0 := by
    by_contra hpos
    have hlead := (leadingExponent_spec wide.value wide.denominator).1
    change i.denominator * 10 ^ i.leading.toNat ≤ i.value * 10 ^ (-i.leading).toNat at hlead
    obtain ⟨k, hk⟩ : ∃ k, i.leading.toNat = k + 1 := ⟨i.leading.toNat - 1, by omega⟩
    rw [show (-i.leading).toNat = 0 by omega, hk, Nat.pow_succ] at hlead
    have hten : 10 ≤ 10 ^ k * 10 := Nat.le_mul_of_pos_left 10 (Nat.pow_pos (by decide))
    have hmul := Nat.mul_le_mul_left i.denominator hten
    omega
  have hbelow : i.below s.exponent < 10 * 10 ^ (-s.exponent).toNat := by
    unfold Interval.below Interval.unit
    rw [show s.exponent.toNat = 0 by omega, Nat.pow_zero, Nat.mul_one,
      Nat.div_lt_iff_lt_mul wide.denominator, Nat.mul_right_comm]
    exact Nat.mul_lt_mul_of_pos_right small (Nat.pow_pos (by decide))
  unfold Scaled.AtMost
  rw [show s.exponent.toNat = 0 by omega]
  omega

/-- The value of a number below ten, by its parts. -/
theorem value_lt {b : Binary} (hmax : b.mantissa < 2 ^ 53)
    (h : b.exponent < -49 ∨ b.exponent = -49 ∧ b.mantissa < 5 * 2 ^ 50) :
    (Interval.ofBinary b).value < 10 * (Interval.ofBinary b).denominator := by
  change 4 * b.mantissa * 2 ^ b.exponent.toNat < 10 * (4 * 2 ^ (-b.exponent).toNat)
  rw [show b.exponent.toNat = 0 by omega, Nat.pow_zero, Nat.mul_one]
  rcases h with hlow | ⟨heq, hsmall⟩
  · have hpow : 2 ^ 50 ≤ 2 ^ (-b.exponent).toNat := Nat.pow_le_pow_right (by decide) (by omega)
    omega
  · rw [show (-b.exponent).toNat = 49 by omega]
    omega

/-- Ten has a grid coarser than one, and is found there as it is. -/
theorem shortest_ten {x : Float} (h : x.isFinite = true)
    (hmantissa : (Binary.ofFloat x).mantissa = 5 * 2 ^ 50)
    (hexponent : (Binary.ofFloat x).exponent = -49) (tie : Tie) : shortest tie x = ⟨1, 1⟩ := by
  have hnarrow := (Binary.isFinite_ofFloat h).narrow
  unfold shortest
  generalize Binary.ofFloat x = b at *
  obtain ⟨negative, mantissa, exponent, narrowBelow⟩ := b
  simp only at hmantissa hexponent hnarrow
  subst hmantissa hexponent
  cases narrowBelow with
  | true => exact absurd (hnarrow rfl) (by decide)
  | false => cases negative <;> cases tie <;> decide +kernel

end Decimal

/-! ## The range -/

theorem unpack_maxVoltage :
    maxVoltage.toModel.unpack = .finite .positive (5 * 2 ^ 50) (-49) (by decide) := by
  rfl

theorem unpack_minVoltage :
    minVoltage.toModel.unpack = .finite .negative (5 * 2 ^ 50) (-49) (by decide) := by
  rfl

/-- Numbers with digits are compared by their exponents first. -/
theorem lex_of_isLE {e e' : Int} {m m' : Nat}
    (h : ((compare e e').then (compare m m')).isLE = true) : e < e' ∨ e = e' ∧ m ≤ m' := by
  rw [Ordering.isLE_then_iff_or, Int.compare_eq_lt] at h
  rcases h with hlt | ⟨heq, hle⟩
  · exact .inl hlt
  · exact .inr ⟨Int.compare_eq_eq.mp heq, Nat.isLE_compare.mp hle⟩

/-- What satisfies both comparisons is zero, or a number with digits whose parts are not beyond
those of ten. -/
theorem unpack_of_inVoltageRange {x : Float} (h : inVoltageRange x = true) :
    (∃ s, x.toModel.unpack = .zero s) ∨
      ∃ s m e pos, x.toModel.unpack = .finite s m e pos ∧ (e < -49 ∨ e = -49 ∧ m ≤ 5 * 2 ^ 50) := by
  obtain ⟨hmin, hmax⟩ : minVoltage ≤ x ∧ x ≤ maxVoltage := by simpa [inVoltageRange] using h
  have hlow : minVoltage.toModel.unpack.le x.toModel.unpack = true := of_decide_eq_true hmin
  have hhigh : x.toModel.unpack.le maxVoltage.toModel.unpack = true := of_decide_eq_true hmax
  rw [unpack_minVoltage] at hlow
  rw [unpack_maxVoltage] at hhigh
  cases hu : x.toModel.unpack with
  | notANumber =>
    rw [hu] at hhigh
    cases hhigh
  | infinity s =>
    rw [hu] at hlow hhigh
    cases s with
    | positive => cases hhigh
    | negative => cases hlow
  | zero s => exact .inl ⟨s, rfl⟩
  | finite s m e pos =>
    rw [hu] at hlow hhigh
    refine .inr ⟨s, m, e, pos, rfl, ?_⟩
    cases s with
    | positive =>
      exact lex_of_isLE hhigh
    | negative =>
      -- negative numbers are compared the other way round
      have hswap : ((compare (-49) e).then (compare (5 * 2 ^ 50) m)).swap.isLE = true := hlow
      rw [Ordering.swap_then, Int.compare_swap, Nat.compare_swap] at hswap
      exact lex_of_isLE hswap

/-- What is in range is finite. -/
theorem isFinite_of_inVoltageRange {x : Float} (h : inVoltageRange x = true) :
    x.isFinite = true := by
  change x.toModel.unpack.isFinite = true
  rcases unpack_of_inVoltageRange h with ⟨s, hu⟩ | ⟨s, m, e, pos, hu, -⟩
  · rw [hu]
    rfl
  · rw [hu]
    rfl

/-- The shortest decimal of what is in range is not greater than ten. -/
theorem Decimal.shortest_atMost {x : Float} (h : inVoltageRange x = true) (tie : Tie) :
    (shortest tie x).AtMost 10 := by
  have hfinite := isFinite_of_inVoltageRange h
  rcases unpack_of_inVoltageRange h with ⟨s, hu⟩ | ⟨s, m, e, pos, hu, hparts⟩
  · have hshortest : shortest tie x = ⟨0, 0⟩ := if_pos (Binary.ofFloat_zero hu)
    rw [hshortest]
    exact Nat.zero_le _
  obtain ⟨hmantissa, hexponent⟩ := Binary.ofFloat_finite hu
  have hmax := (Binary.isFinite_ofFloat hfinite).mantissa
  by_cases hten : e = -49 ∧ m = 5 * 2 ^ 50
  · rw [shortest_ten hfinite (hmantissa.trans hten.2) (hexponent.trans hten.1)]
    exact Nat.le_refl 10
  · have hne : (Binary.ofFloat x).mantissa ≠ 0 := by omega
    obtain ⟨s, hs, he⟩ := shortest_cases hfinite hne tie
    rw [he]
    refine (hs.atMost ((Binary.isFinite_ofFloat hfinite).isWide hne) (value_lt hmax ?_)).trim
    omega

/-- A voltage that an output can be set to, and what is told of it. -/
structure IsSettable (volts : Float) : Prop where
  range : inVoltageRange volts = true
  finite : volts.isFinite = true
  /-- Wherever it is written, it is written as a decimal of at most ten volts. -/
  text : ∀ sp depth, ∃ sign s, (sign = [] ∨ sign = ['-']) ∧ s.AtMost 10 ∧
    (Json.float volts).write sp depth = sign ++ Decimal.Layout.json.magnitude s
  /-- Its text is read as a number. -/
  number : ∃ y, Json.reread? volts = some y

/-- **What is in range is finite, and is told as a number of at most ten volts.** -/
theorem settable_of_inVoltageRange {volts : Float} (h : inVoltageRange volts = true) :
    IsSettable volts := by
  have hfinite := isFinite_of_inVoltageRange h
  obtain ⟨y, hy, -⟩ := Json.exists_reread? hfinite
  refine ⟨h, hfinite, fun sp depth => ?_, y, hy⟩
  have htext : (Json.float volts).write sp depth = (Decimal.Layout.json.finite volts).toList := by
    rw [Json.write, Json.floatText, if_pos hfinite]
  refine ⟨_, _, ?_, Decimal.shortest_atMost h Decimal.Layout.json.tie,
    htext.trans String.toList_ofList⟩
  cases (Decimal.Binary.ofFloat volts).negative with
  | true => exact .inr rfl
  | false => exact .inl rfl

/-- Both zeros are in range, and neither the ends of the numbers nor what is no number. -/
example : inVoltageRange 0 = true ∧ inVoltageRange (-0) = true ∧
    inVoltageRange (1 / 0) = false ∧ inVoltageRange (-1 / 0) = false ∧
    inVoltageRange (0 / 0) = false := by
  decide +kernel

end ChannelGateway
