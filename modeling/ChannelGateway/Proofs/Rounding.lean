import ChannelGateway.Json.Basic
import Mathlib

/-!
# Rounding: the numbers that a significand is scaled with

A number is rounded by shifting its mantissa until 53 bits are left; what is rounded is the first
bit that falls off. Three numbers are rounded when a literal is read: the significand, the power of
ten, and their product. Each rounding adds at most one part in `2 ^ 53`, so a product stays finite
as long as the exact product, with both errors added, lies below the middle between the greatest
number and the power of two that follows it.

Results:
* `roundedMantissa_mul_le`: rounding adds at most half of the last bit that is kept.
* `exists_round`: what becomes of a mantissa of 53 bits or more.
* `isInf_mul`: a product below the limit is finite.
* `isFinite_ofInt`: an integer of at most 64 bits is a finite number.
* **`scale?_isSome`**: a significand can be scaled if it is far enough from the limit.
-/

namespace ChannelGateway.Rounding

open Json Float.Model Float.Model.UnpackedFloat

/-! ## Shifting and rounding a mantissa -/

theorem shiftRight_succ (em : ExtendedMantissa) (k : Nat) :
    em >>> (k + 1) = (em >>> k).shiftRightOne :=
  rfl

theorem mantissa_shiftRight (em : ExtendedMantissa) (k : Nat) :
    (em >>> k).mantissa = em.mantissa / 2 ^ k := by
  induction k with
  | zero => simp [HShiftRight.hShiftRight, Nat.repeat]
  | succ k ih =>
    rw [shiftRight_succ, ExtendedMantissa.shiftRightOne, ih, Nat.div_div_eq_div_mul, Nat.pow_succ]

/-- A mantissa is only rounded up when the first bit that fell off is set. -/
theorem roundedMantissa_le (em : ExtendedMantissa) :
    em.mantissa ≤ em.roundedMantissa ∧
      em.roundedMantissa ≤ em.mantissa + em.roundBit.toNat := by
  obtain ⟨m, roundBit, stickyBit⟩ := em
  cases roundBit <;> cases stickyBit <;>
    simp [ExtendedMantissa.roundedMantissa, ExtendedMantissa.accuracy,
      Accuracy.roundToNearestEven]
  omega

/-- A mantissa without residual bits. -/
def exactly (m : Nat) : ExtendedMantissa := ⟨m, false, false⟩

/-- Rounding adds at most half of the last bit that is kept. -/
theorem roundedMantissa_mul_le (m k : Nat) :
    (exactly m >>> k).roundedMantissa * 2 ^ (k + 1) ≤ 2 * m + 2 ^ k := by
  cases k with
  | zero =>
    have h : (exactly m >>> 0).roundedMantissa = m := rfl
    omega
  | succ k =>
    have hround := (roundedMantissa_le (exactly m >>> (k + 1))).2
    have hbit : (exactly m >>> (k + 1)).roundBit.toNat = m / 2 ^ k % 2 := by
      rw [shiftRight_succ, ExtendedMantissa.shiftRightOne, mantissa_shiftRight]
      show (m / 2 ^ k % 2 != 0).toNat = m / 2 ^ k % 2
      obtain h | h := Nat.mod_two_eq_zero_or_one (m / 2 ^ k) <;> rw [h] <;> rfl
    rw [mantissa_shiftRight, hbit, show (exactly m).mantissa = m from rfl, Nat.pow_succ,
      ← Nat.div_div_eq_div_mul] at hround
    have hfloor : m / 2 ^ k * 2 ^ k ≤ m := Nat.div_mul_le_self m _
    generalize m / 2 ^ k = q at hround hfloor
    calc (exactly m >>> (k + 1)).roundedMantissa * 2 ^ (k + 1 + 1)
        ≤ (q / 2 + q % 2) * 2 ^ (k + 1 + 1) := Nat.mul_le_mul_right _ hround
      _ = 4 * (q / 2 + q % 2) * 2 ^ k := by ring
      _ ≤ (2 * q + 2) * 2 ^ k := Nat.mul_le_mul_right _ (by omega)
      _ = 2 * (q * 2 ^ k) + 2 ^ (k + 1) := by ring
      _ ≤ 2 * m + 2 ^ (k + 1) := by omega

/-! ## Rounding to 53 bits -/

/-- The exponent that a mantissa is shifted to: 53 bits are left, or fewer at the least exponent. -/
theorem targetExponent_eq (m : Nat) (e : Int) :
    Format.binary64.targetExponent (totalExponent m e) = max (m.log2 + e - 52) (-1074) := by
  simp only [Format.targetExponent, totalExponent, Format.mantissaBits, Format.minExponent]
  norm_num
  omega

theorem shiftToTargetExponent_eq {m k : Nat} {e : Int} (hlog : m.log2 = 52 + k)
    (low : -1074 ≤ e + k) :
    shiftToTargetExponent .binary64 m e .exact = (exactly m >>> k, e + k) := by
  have htarget : Format.binary64.targetExponent (totalExponent m e) = e + k := by
    rw [targetExponent_eq, hlog]
    omega
  have hshift : (e + (k : Int) - e).toNat = k := by omega
  rw [shiftToTargetExponent, htarget]
  simp only [shiftToExponent, hshift]
  rfl

theorem log2_mul_two_pow {r : Nat} (h : r.log2 = 52) (c : Nat) : (r * 2 ^ c).log2 = 52 + c := by
  have hr : r ≠ 0 := by
    rintro rfl
    simp at h
  obtain ⟨hlow, hhigh⟩ := (Nat.log2_eq_iff hr).mp h
  have hpow : 0 < 2 ^ c := Nat.two_pow_pos c
  rw [Nat.log2_eq_iff (Nat.mul_ne_zero hr (by omega)), Nat.pow_add,
    show 52 + c + 1 = 53 + c by omega, Nat.pow_add]
  exact ⟨Nat.mul_le_mul_right _ hlow, (Nat.mul_lt_mul_right hpow).mpr hhigh⟩

/-- What a mantissa of `53 + k` bits is rounded to. Rounding may give it `c` bits more than 53, and
these are zero. -/
theorem roundWithAccuracy_eq {m k c r : Nat} {e : Int} (hlog : m.log2 = 52 + k) (low : -1074 ≤ e)
    (hround : (exactly m >>> k).roundedMantissa = r * 2 ^ c) (hr : r.log2 = 52) (h : 0 < r)
    (sign : Sign) :
    roundWithAccuracy .binary64 sign m e .exact = .finite sign r (e + (k + c : Nat)) h := by
  have hsecond := shiftToTargetExponent_eq (e := e + k) (log2_mul_two_pow hr c) (by omega)
  have hleft : (exactly (r * 2 ^ c) >>> c).mantissa = r := by
    rw [mantissa_shiftRight]
    exact Nat.mul_div_cancel _ (Nat.two_pow_pos c)
  unfold roundWithAccuracy
  simp only [shiftToTargetExponent_eq hlog (show -1074 ≤ e + k by omega), hround, hsecond, hleft]
  rw [dif_neg (by omega)]
  simp only [Int.natCast_add, Int.add_assoc]

/-- A mantissa of 53 bits or more is rounded to one of 53 bits, at an exponent that is `j` larger.
At most half of the last bit is added, and what lies below the middle between two powers of two, up
to that bit, does not reach the larger one. -/
theorem exists_round {m : Nat} {e : Int} (long : 52 ≤ m.log2) (low : -1074 ≤ e) (sign : Sign) :
    ∃ (r j : Nat) (h : 0 < r),
      roundWithAccuracy .binary64 sign m e .exact = .finite sign r (e + j) h ∧
      r.log2 = 52 ∧ m.log2 ≤ 52 + j ∧ 2 ^ 53 * (r * 2 ^ j) ≤ (2 ^ 53 + 1) * m ∧
      (2 ^ 54 - 1) * 2 ^ j ≤ 4 * m := by
  obtain ⟨k, hk⟩ := Nat.exists_eq_add_of_le long
  have hm : m ≠ 0 := by
    rintro rfl
    simp at long
  obtain ⟨hlow, hhigh⟩ := (Nat.log2_eq_iff hm).mp hk
  have hfloor := (roundedMantissa_le (exactly m >>> k)).1
  have hceil := (roundedMantissa_le (exactly m >>> k)).2
  have herror := roundedMantissa_mul_le m k
  have hbit : (exactly m >>> k).roundBit.toNat ≤ 1 := Bool.toNat_le _
  rw [mantissa_shiftRight, show (exactly m).mantissa = m from rfl] at hfloor hceil
  have hpow : 0 < 2 ^ k := Nat.two_pow_pos k
  have hfront : 2 ^ 52 ≤ m / 2 ^ k := by
    rw [Nat.le_div_iff_mul_le hpow, ← Nat.pow_add]
    exact hlow
  have hback : m / 2 ^ k < 2 ^ 53 := by
    rw [Nat.div_lt_iff_lt_mul hpow, ← Nat.pow_add]
    rw [show 52 + k + 1 = 53 + k by omega] at hhigh
    exact hhigh
  rw [Nat.pow_add] at hlow
  rw [Nat.pow_succ, ← Nat.mul_assoc] at herror
  obtain hr | hr := Nat.lt_or_ge (exactly m >>> k).roundedMantissa (2 ^ 53)
  · have hlog : (exactly m >>> k).roundedMantissa.log2 = 52 :=
      (Nat.log2_eq_iff (by omega)).mpr ⟨by omega, hr⟩
    refine ⟨_, k, by omega, ?_, hlog, by omega, by omega, by omega⟩
    exact roundWithAccuracy_eq (c := 0) hk low (Nat.mul_one _).symm hlog _ sign
  · -- The carry: all 53 bits were set, and the bit that fell off rounded them up.
    have hr : (exactly m >>> k).roundedMantissa = 2 ^ 53 := by omega
    rw [hr] at herror
    refine ⟨2 ^ 52, k + 1, by decide, ?_, Nat.log2_two_pow, by omega, ?_, ?_⟩
    · exact roundWithAccuracy_eq (c := 1) hk low hr Nat.log2_two_pow _ sign
    · rw [Nat.pow_succ]
      omega
    · rw [Nat.pow_succ]
      omega

/-! ## Numbers with 53 bits -/

/-- A positive number is `m · 2 ^ (a - 52)`, with a mantissa of 53 bits. -/
structure IsScaled (x : Float) (m a : Nat) : Prop where
  long : m.log2 = 52
  unpack : ∃ h, x.toModel.unpack = .finite .positive m (a - 52) h

theorem toNat_implicit (m : BitVec 52) : (1#1 ++ m).toNat = 2 ^ 52 + m.toNat := by
  rw [BitVec.toNat_append, ← Nat.shiftLeft_add_eq_or_of_lt m.isLt]
  simp [Nat.shiftLeft_eq]

/-- The packed form of a mantissa of 53 bits, in parts. -/
theorem pack_eq {m biased : Nat} {e : Int} (sign : Sign) (h : 0 < m) (long : m.log2 = 52)
    (hbiased : (biased : Int) = e + 1075) (high : biased < 2047) :
    UnpackedFloat.pack .binary64 (.finite sign m e h) =
      packComponents .binary64 sign (BitVec.ofNat 11 biased) (BitVec.ofNat 52 m) := by
  have htoNat : (e + (Format.binary64.exponentBias : Int) +
      (Format.binary64.mantissaBitsWithoutImplicit : Int)).toNat = biased := by
    have hbias : (Format.binary64.exponentBias : Int) = 1023 := rfl
    have hbits : (Format.binary64.mantissaBitsWithoutImplicit : Int) = 52 := rfl
    rw [hbias, hbits]
    omega
  unfold UnpackedFloat.pack
  simp only [htoNat]
  rw [if_neg (by omega), if_pos (by rw [long]; rfl)]

/-- A number with a mantissa of 53 bits keeps its parts when it is packed. -/
theorem unpack_pack {m : Nat} {e : Int} (sign : Sign) (h : 0 < m) (long : m.log2 = 52)
    (low : -1074 ≤ e) (high : e ≤ 971) :
    (Float.Model.pack (.finite sign m e h)).unpack = .finite sign m e h := by
  obtain ⟨hlow, hhigh⟩ := (Nat.log2_eq_iff (by omega)).mp long
  obtain ⟨biased, hbiased⟩ : ∃ biased : Nat, (biased : Int) = e + 1075 :=
    ⟨(e + 1075).toNat, by omega⟩
  have hexponent : (BitVec.ofNat 11 biased).toNat = biased := by
    rw [BitVec.toNat_ofNat, Nat.mod_eq_of_lt (by omega)]
  have hne : ∀ field : BitVec 11, biased ≠ field.toNat → BitVec.ofNat 11 biased ≠ field :=
    fun field hfield heq => hfield (heq ▸ hexponent.symm)
  have hinf : BitVec.ofNat 11 biased ≠ -1#11 := by
    refine hne _ ?_
    rw [show (-1#11).toNat = 2047 from rfl]
    omega
  have hzero : BitVec.ofNat 11 biased ≠ 0#11 := by
    refine hne _ ?_
    rw [show (0#11).toNat = 0 from rfl]
    omega
  have hmantissa : (1#1 ++ BitVec.ofNat 52 m).toNat = m := by
    rw [toNat_implicit, BitVec.toNat_ofNat]
    omega
  show UnpackedFloat.unpack .binary64 (UnpackedFloat.pack .binary64 _) = _
  rw [pack_eq sign h long hbiased (by omega)]
  unfold UnpackedFloat.unpack
  simp only [unpackMantissa_packComponents, unpackExponent_packComponents,
    unpackSign_packComponents, Sign.ofBitVec_toBitVec, if_neg hinf, if_neg hzero, hmantissa,
    hexponent]
  congr 1
  have hbias : (Format.binary64.exponentBias : Int) = 1023 := rfl
  rw [hbias]
  omega

/-- The middle between the greatest number and the power of two after it: what is not smaller is not
rounded to a finite number. -/
def limit : Nat := (2 ^ 54 - 1) * 2 ^ 970

/-- A positive number with a mantissa of 53 bits, as it is held. -/
structure IsHeld (x : Float) (m : Nat) (e : Int) : Prop where
  long : m.log2 = 52
  low : -1074 ≤ e
  high : e ≤ 971
  unpack : ∃ h, x.toModel.unpack = .finite .positive m e h

theorem IsHeld.of_pack {x : Float} {m : Nat} {e : Int} (h : 0 < m) (long : m.log2 = 52)
    (low : -1074 ≤ e) (high : e ≤ 971)
    (hx : x.toModel = Float.Model.pack (.finite .positive m e h)) : IsHeld x m e := by
  refine ⟨long, low, high, h, ?_⟩
  rw [hx]
  exact unpack_pack .positive h long low high

/-- A product that stays below the limit is held. -/
theorem exists_mul {x y : Float} {m a n b : Nat} (hx : IsScaled x m a) (hy : IsScaled y n b)
    (h : m * 2 ^ a * (n * 2 ^ b) < 2 ^ 104 * limit) : ∃ r e, IsHeld (x * y) r e := by
  obtain ⟨hm, hmpos, hxu⟩ := hx
  obtain ⟨hn, hnpos, hyu⟩ := hy
  have hproduct : (x * y).toModel = Float.Model.pack (roundWithAccuracy .binary64 .positive (m * n)
      ((a : Int) - 52 + ((b : Int) - 52)) .exact) := by
    show Float.Model.pack (UnpackedFloat.mul .binary64 x.toModel.unpack y.toModel.unpack) = _
    rw [hxu, hyu]
    rfl
  have hlong : 52 ≤ (m * n).log2 := by
    rw [Nat.le_log2 (Nat.mul_ne_zero (by omega) (by omega))]
    have hm' := Nat.log2_self_le (show m ≠ 0 by omega)
    rw [hm] at hm'
    exact Nat.le_trans hm' (Nat.le_mul_of_pos_right m hnpos)
  obtain ⟨r, j, hr, hround, hlog, -, -, hlimit⟩ :=
    exists_round (e := (a : Int) - 52 + ((b : Int) - 52)) hlong (by omega) .positive
  have hexponent : j + (a + b) < 1076 := by
    apply (Nat.pow_lt_pow_iff_right (by decide : 1 < 2)).mp
    have hshift : (2 ^ 54 - 1) * 2 ^ (j + (a + b)) ≤ 4 * (m * 2 ^ a * (n * 2 ^ b)) :=
      calc (2 ^ 54 - 1) * 2 ^ (j + (a + b)) = (2 ^ 54 - 1) * 2 ^ j * 2 ^ (a + b) := by ring
        _ ≤ 4 * (m * n) * 2 ^ (a + b) := Nat.mul_le_mul_right _ hlimit
        _ = 4 * (m * 2 ^ a * (n * 2 ^ b)) := by ring
    have hlimit' : (2 ^ 54 - 1) * 2 ^ 1076 = 4 * (2 ^ 104 * limit) := by decide +kernel
    omega
  rw [hround] at hproduct
  exact ⟨r, _, .of_pack hr hlog (by omega) (by omega) hproduct⟩

/-- A product that stays below the limit is finite. -/
theorem isInf_mul {x y : Float} {m a n b : Nat} (hx : IsScaled x m a) (hy : IsScaled y n b)
    (h : m * 2 ^ a * (n * 2 ^ b) < 2 ^ 104 * limit) : (x * y).isInf = false := by
  obtain ⟨r, e, held⟩ := exists_mul hx hy h
  obtain ⟨hr, hunpack⟩ := held.unpack
  show (x * y).toModel.unpack.isInf = false
  rw [hunpack]
  rfl

/-! ## The numbers that are multiplied -/

theorem round_natCast {n k : Nat} (hk : k = 52 - n.log2) (sign : Sign) :
    UnpackedFloat.round .binary64 sign n 0 =
      roundWithAccuracy .binary64 sign (n * 2 ^ k) (-k) .exact := by
  have hshift : (0 - Format.binary64.targetExponent (totalExponent n 0)).toNat = k := by
    rw [targetExponent_eq]
    omega
  unfold UnpackedFloat.round decreaseExponent
  simp only [hshift, Nat.shiftLeft_eq]
  rw [Int.zero_sub]

/-- An integer of at most 64 bits, as a number. -/
theorem exists_toFloat {n : Nat} (pos : 0 < n) (h : n < 2 ^ 64) :
    ∃ m a, IsScaled n.toUInt64.toFloat m a ∧ 2 * (m * 2 ^ a) ≤ (2 ^ 53 + 1) * n := by
  obtain ⟨k, hk⟩ : ∃ k, k = 52 - n.log2 := ⟨_, rfl⟩
  have hmodel : n.toUInt64.toFloat.toModel =
      Float.Model.pack (roundWithAccuracy .binary64 .positive (n * 2 ^ k) (-k) .exact) := by
    have htoNat : n.toUInt64.toNat = n := Nat.mod_eq_of_lt h
    show Float.Model.pack (UnpackedFloat.normalize .binary64 n.toUInt64.toNat 0 .positive) = _
    rw [htoNat, UnpackedFloat.normalize, Int.compare_eq_gt.mpr (by omega), ← round_natCast hk]
    rfl
  have hlong : 52 ≤ (n * 2 ^ k).log2 := by
    rw [Nat.le_log2 (Nat.mul_ne_zero (by omega) (Nat.two_pow_pos k).ne')]
    calc 2 ^ 52 ≤ 2 ^ (n.log2 + k) := Nat.pow_le_pow_right (by decide) (by omega)
      _ = 2 ^ n.log2 * 2 ^ k := Nat.pow_add ..
      _ ≤ n * 2 ^ k := Nat.mul_le_mul_right _ (Nat.log2_self_le (by omega))
  obtain ⟨r, j, hr, hround, hlog, -, herror, hlimit⟩ :=
    exists_round (e := -(k : Int)) hlong (by omega) .positive
  have hj : j < 118 := by
    apply (Nat.pow_lt_pow_iff_right (by decide : 1 < 2)).mp
    have hshort : n * 2 ^ k < 2 ^ 64 * 2 ^ 52 :=
      Nat.mul_lt_mul_of_lt_of_le h (Nat.pow_le_pow_right (by decide) (by omega)) (by decide)
    omega
  refine ⟨r, j + (52 - k), ⟨hlog, hr, ?_⟩, ?_⟩
  · rw [hmodel, hround, unpack_pack .positive hr hlog (by omega) (by omega)]
    congr 1
    omega
  · refine Nat.le_of_mul_le_mul_left ?_ (Nat.two_pow_pos 52)
    calc 2 ^ 52 * (2 * (r * 2 ^ (j + (52 - k))))
        = 2 ^ 53 * (r * 2 ^ j) * 2 ^ (52 - k) := by ring
      _ ≤ (2 ^ 53 + 1) * (n * 2 ^ k) * 2 ^ (52 - k) := Nat.mul_le_mul_right _ herror
      _ = (2 ^ 53 + 1) * n * 2 ^ (k + (52 - k)) := by ring
      _ = 2 ^ 52 * ((2 ^ 53 + 1) * n) := by
        rw [show k + (52 - k) = 52 by omega, Nat.mul_comm]

theorem powerOfTen_toModel (e : Nat) : (powerOfTen e).toModel = Float.Model.ofScientific 1 e := by
  have hsmall : ∀ e < 23, (powerOfTen e).toModel = Float.Model.ofScientific 1 e := by
    decide +kernel
  obtain he | he := Nat.lt_or_ge e 23
  · exact hsmall e he
  · unfold powerOfTen Float.ofScientific
    rw [dif_neg (by omega)]
    rfl

/-- A power of ten, as a number. -/
theorem exists_powerOfTen {e : Nat} (h : e ≤ 308) :
    ∃ m a, IsScaled (powerOfTen e) m a ∧ 2 * (m * 2 ^ a) ≤ (2 ^ 53 + 1) * 10 ^ e := by
  have hpos : 0 < 10 ^ e := Nat.pow_pos (by decide)
  have hmodel : (powerOfTen e).toModel =
      Float.Model.pack (roundWithAccuracy .binary64 .positive (2 ^ 53 * 10 ^ e) (-53) .exact) := by
    rw [powerOfTen_toModel]
    unfold Float.Model.ofScientific UnpackedFloat.ofScientific
    rw [dif_neg (by decide), if_neg (by norm_num; omega), if_neg (by norm_num; omega),
      if_pos (by omega)]
    rfl
  have hlong : 53 ≤ (2 ^ 53 * 10 ^ e).log2 := by
    rw [Nat.le_log2 (by omega)]
    omega
  obtain ⟨r, j, hr, hround, hlog, hj, herror, hlimit⟩ :=
    exists_round (e := -53) (m := 2 ^ 53 * 10 ^ e) (by omega) (by decide) .positive
  have hhigh : j < 1025 := by
    apply (Nat.pow_lt_pow_iff_right (by decide : 1 < 2)).mp
    have hpow := Nat.pow_le_pow_right (show 0 < 10 by decide) h
    have hlarge : 4 * (2 ^ 53 * 10 ^ 308) < (2 ^ 54 - 1) * 2 ^ 1025 := by decide +kernel
    omega
  refine ⟨r, j - 1, ⟨hlog, hr, ?_⟩, ?_⟩
  · rw [hmodel, hround, unpack_pack .positive hr hlog (by omega) (by omega)]
    congr 1
    omega
  · have hsplit : r * 2 ^ j = 2 * (r * 2 ^ (j - 1)) := by
      conv_lhs => rw [show j = j - 1 + 1 by omega]
      ring
    omega

/-! ## Integers -/

namespace IsHeld

variable {x : Float} {m : Nat} {e : Int}

theorem isFinite (h : IsHeld x m e) : x.isFinite = true := by
  obtain ⟨hm, hunpack⟩ := h.unpack
  show x.toModel.unpack.isFinite = true
  rw [hunpack]
  rfl

theorem isFinite_neg (h : IsHeld x m e) : (-x).isFinite = true := by
  obtain ⟨hm, hunpack⟩ := h.unpack
  have hneg : (-x).toModel = Float.Model.pack (.finite .negative m e hm) := by
    show Float.Model.pack x.toModel.unpack.neg = _
    rw [hunpack]
    rfl
  show (-x).toModel.unpack.isFinite = true
  rw [hneg, unpack_pack .negative hm h.long h.low h.high]
  rfl

end IsHeld

/-- An integer of at most 64 bits, as the nearest number. -/
theorem exists_ofNat {n : Nat} (pos : 0 < n) (h : n < 2 ^ 64) :
    ∃ m e, IsHeld (Float.ofNat n) m e := by
  by_cases hsmall : n < 2 ^ 53
  · -- a small integer is converted as it is, and then multiplied with one
    obtain ⟨m, a, hx, hm⟩ := exists_toFloat pos h
    obtain ⟨l, b, hy, hl⟩ := exists_powerOfTen (e := 0) (by decide)
    have hvalue : Float.ofNat n = n.toUInt64.toFloat * powerOfTen 0 := by
      show Float.ofScientific n false 0 = _
      rw [Float.ofScientific, dif_pos ⟨hsmall, by decide⟩]
      rfl
    have hone : l * 2 ^ b ≤ 2 ^ 53 := by omega
    have hproduct : m * 2 ^ a * (l * 2 ^ b) < 2 ^ 104 * limit :=
      calc m * 2 ^ a * (l * 2 ^ b) ≤ 2 ^ 118 * 2 ^ 53 := Nat.mul_le_mul (by omega) hone
        _ < 2 ^ 104 * limit := by decide +kernel
    rw [hvalue]
    exact exists_mul hx hy hproduct
  · -- a large one is rounded once
    have hmodel : (Float.ofNat n).toModel =
        Float.Model.pack (roundWithAccuracy .binary64 .positive (n * 2 ^ 53) (-53) .exact) := by
      show (Float.ofScientific n false 0).toModel = _
      rw [Float.ofScientific, dif_neg fun hfits => hsmall hfits.1]
      show Float.Model.pack (UnpackedFloat.ofScientific .binary64 n 0) = _
      rw [UnpackedFloat.ofScientific, dif_neg (by omega), if_neg (by decide),
        if_neg (by norm_num), if_pos (by decide)]
      simp only [UnpackedFloat.mul, Nat.shiftLeft_eq, show 10 ^ Int.toNat 0 = 1 from rfl,
        Nat.mul_one]
      rfl
    have hlong : 52 ≤ (n * 2 ^ 53).log2 := by
      rw [Nat.le_log2 (by omega)]
      omega
    obtain ⟨r, j, hr, hround, hlog, -, -, hlimit⟩ :=
      exists_round (e := -53) hlong (by decide) .positive
    have hj : j < 118 := by
      apply (Nat.pow_lt_pow_iff_right (by decide : 1 < 2)).mp
      omega
    rw [hround] at hmodel
    exact ⟨r, _, .of_pack hr hlog (by omega) (by omega) hmodel⟩

/-- **An integer of at most 64 bits is a finite number.** -/
theorem isFinite_ofInt {n : Int} (h : n.natAbs < 2 ^ 64) : (Float.ofInt n).isFinite = true := by
  have hzero : (Float.ofNat 0).isFinite = true := by decide +kernel
  cases n with
  | ofNat k =>
    show (Float.ofNat k).isFinite = true
    obtain rfl | hk := Nat.eq_zero_or_pos k
    · exact hzero
    · obtain ⟨m, e, held⟩ := exists_ofNat hk h
      exact held.isFinite
  | negSucc k =>
    obtain ⟨m, e, held⟩ := exists_ofNat (Nat.succ_pos k) h
    exact held.isFinite_neg

/-! ## Scaling a significand -/

/-- A significand can be scaled if the exact product, with the errors of three roundings added,
stays below the middle between the greatest number and the power of two that follows it. -/
theorem scale?_isSome {n e : Nat} (pos : 0 < n) (fits : n < 2 ^ 64) (he : e ≤ 308)
    (h : (2 ^ 53 + 1) ^ 2 * (n * 10 ^ e) < 2 ^ 106 * limit) :
    (scale? n e).isSome = true := by
  obtain ⟨m, a, hx, hm⟩ := exists_toFloat pos fits
  obtain ⟨l, b, hy, hl⟩ := exists_powerOfTen he
  have hproduct : m * 2 ^ a * (l * 2 ^ b) < 2 ^ 104 * limit := by
    have hboth : 2 * (m * 2 ^ a) * (2 * (l * 2 ^ b)) ≤ (2 ^ 53 + 1) ^ 2 * (n * 10 ^ e) :=
      calc 2 * (m * 2 ^ a) * (2 * (l * 2 ^ b))
          ≤ (2 ^ 53 + 1) * n * ((2 ^ 53 + 1) * 10 ^ e) := Nat.mul_le_mul hm hl
        _ = (2 ^ 53 + 1) ^ 2 * (n * 10 ^ e) := by ring
    have hfour : 2 * (m * 2 ^ a) * (2 * (l * 2 ^ b)) = 4 * (m * 2 ^ a * (l * 2 ^ b)) := by ring
    omega
  unfold scale?
  simp only [Int.toNat_natCast, isInf_mul hx hy hproduct]
  rw [if_neg (by omega), if_pos (by omega)]
  rfl

end ChannelGateway.Rounding
