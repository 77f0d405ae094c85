import ChannelGateway.Json.Writer
import ChannelGateway.Proofs.Numerals
import ChannelGateway.Proofs.Rounding
import ChannelGateway.Proofs.Shortest

/-!
# Texts of numbers: every finite number that is written is read

A number is written with the digits of its shortest decimal, with the point among them or with a
power of ten. Either text is that of a literal (`exists_positional`, `exists_exponent`) whose
digits, at most 17 and some zeros, fit a significand. A point among the digits makes the power of
ten that the significand is multiplied with negative, and then there always is a number. With a
power of ten that is not negative the question is whether the product stays finite.

It does, but not by much. A decimal in the rounding interval of a finite number is not greater than
`Rounding.limit`, and its digits before so many zeros are too few to come near the limit, except for
the 17 digits of the greatest numbers: there the decimals around the greatest one need a look of
their own, and the one that would be too large is not the nearest to any number (`whole_bounds`).

Results:
* `scale?_shortest`: the shortest decimal of a finite number can be scaled.
* **`exists_readNumber?_floatText`**: every finite number that is written is read as a number.
-/

namespace ChannelGateway.Json

open Decimal Rounding

/-! ## Shortest decimals can be scaled -/

theorem scale?_of_neg (significand : Nat) {exponent : Int} (h : exponent < 0) :
    (scale? significand exponent).isSome = true := by
  unfold scale?
  simp only [h, if_true, Option.isSome_some]

theorem four_mul_le_unit (b : Binary) (scale : Int) :
    4 * 10 ^ scale.toNat ≤ (Interval.ofBinary b).unit scale :=
  Nat.mul_le_mul_right _ (Nat.le_mul_of_pos_right 4 (Nat.two_pow_pos _))

/-- What rounds to a finite number is not greater than the limit. -/
theorem mul_le_limit {b : Binary} (hb : b.IsFinite) {s : Scaled}
    (h : (Interval.ofBinary b).holds s.exponent s.coefficient = true) (hs : 0 ≤ s.exponent) :
    s.coefficient * 10 ^ s.exponent.toNat ≤ limit := by
  have hbound := (Interval.bounds_of_holds h).2
  rw [show (-s.exponent).toNat = 0 by omega, Nat.pow_zero, Nat.mul_one] at hbound
  have hhigh : (Interval.ofBinary b).high ≤ 4 * limit := by
    have hexponent : b.exponent.toNat ≤ 971 := by
      have := hb.high
      omega
    have hmantissa : 4 * b.mantissa + 2 ≤ 2 ^ 55 - 2 := by
      have := hb.mantissa
      omega
    have hpow : ∀ k, b.exponent.toNat ≤ k → 2 ^ b.exponent.toNat ≤ 2 ^ k :=
      fun _ => Nat.pow_le_pow_right (by decide)
    have hlimit : (2 ^ 55 - 2) * 2 ^ 971 = 4 * limit := by decide +kernel
    rw [← hlimit]
    exact Nat.mul_le_mul hmantissa (hpow 971 hexponent)
  have hmul := Nat.mul_le_mul_left s.coefficient (four_mul_le_unit b s.exponent)
  rw [Nat.mul_left_comm] at hmul
  omega

/-- What rounds to a number that is not zero is not zero. -/
theorem coefficient_pos {b : Binary} (pos : b.mantissa ≠ 0) {s : Scaled}
    (h : (Interval.ofBinary b).holds s.exponent s.coefficient = true) : 0 < s.coefficient := by
  have hbound := (Interval.bounds_of_holds h).1
  have hlow : 0 < (Interval.ofBinary b).low * 10 ^ (-s.exponent).toNat := by
    refine Nat.mul_pos (Nat.mul_pos ?_ (Nat.two_pow_pos _)) (Nat.pow_pos (by decide))
    split <;> omega
  refine Nat.pos_of_ne_zero fun hzero => ?_
  rw [hzero, Nat.zero_mul] at hbound
  omega

/-- The greatest number. -/
def greatest (negative : Bool) : Binary := ⟨negative, 2 ^ 53 - 1, 971, false⟩

theorem shortest_greatest {x : Float} {negative : Bool}
    (h : Binary.ofFloat x = greatest negative) (tie : Tie) :
    shortest tie x = ⟨17976931348623157, 292⟩ := by
  have hsearch : ((Interval.ofBinary (greatest negative)).shortestFrom tie
      (Interval.ofBinary (greatest negative)).leading 1 17).trim = ⟨17976931348623157, 292⟩ := by
    cases negative <;> cases tie <;> decide +kernel
  unfold shortest
  rw [h]
  exact (if_neg (by simp [greatest])).trans hsearch

/-- Only the greatest number is as large as its own decimal. -/
theorem eq_greatest {b : Binary} (hb : b.IsFinite)
    (h : 17976931348623157 * 10 ^ 292 ≤ b.mantissa * 2 ^ b.exponent.toNat) :
    b = greatest b.negative := by
  obtain ⟨negative, mantissa, exponent, narrowBelow⟩ := b
  obtain ⟨hmantissa, -, hhigh, hnarrow⟩ := hb
  simp only at hmantissa hhigh hnarrow h
  have hsmaller : (2 ^ 53 - 1) * 2 ^ 970 < 17976931348623157 * 10 ^ 292 := by decide +kernel
  have hbefore : (2 ^ 53 - 2) * 2 ^ 971 < 17976931348623157 * 10 ^ 292 := by decide +kernel
  have hpow : ∀ k, exponent.toNat ≤ k → 2 ^ exponent.toNat ≤ 2 ^ k :=
    fun _ => Nat.pow_le_pow_right (by decide)
  generalize 17976931348623157 * 10 ^ 292 = decimal at h hsmaller hbefore
  have hexponent : exponent = 971 := by
    by_contra hne
    have hle := Nat.mul_le_mul (show mantissa ≤ 2 ^ 53 - 1 by omega) (hpow 970 (by omega))
    exact absurd (Nat.le_trans h hle) (Nat.not_le_of_lt hsmaller)
  have hmax : mantissa = 2 ^ 53 - 1 := by
    by_contra hne
    have hle := Nat.mul_le_mul (show mantissa ≤ 2 ^ 53 - 2 by omega) (hpow 971 (by omega))
    exact absurd (Nat.le_trans h hle) (Nat.not_le_of_lt hbefore)
  have hwide : narrowBelow = false := by
    cases narrowBelow with
    | false => rfl
    | true => exact absurd (hnarrow rfl) (by omega)
  rw [hexponent, hmax, hwide]
  rfl

/-- What a number has below it on a grid of whole numbers is not greater than it. -/
theorem mul_le_value {b : Binary} {scale : Int} (hs : 0 ≤ scale) {n : Nat}
    (h : n ≤ (Interval.ofBinary b).below scale) :
    n * 10 ^ scale.toNat ≤ b.mantissa * 2 ^ b.exponent.toNat := by
  have hunit := four_mul_le_unit b scale
  have hpos : 0 < (Interval.ofBinary b).unit scale :=
    Nat.lt_of_lt_of_le (Nat.mul_pos (by decide) (Nat.pow_pos (by decide))) hunit
  have hvalue := (Nat.le_div_iff_mul_le hpos).mp h
  rw [show (-scale).toNat = 0 by omega, Nat.pow_zero, Nat.mul_one] at hvalue
  have hfour : 4 * (n * 10 ^ scale.toNat) ≤ 4 * (b.mantissa * 2 ^ b.exponent.toNat) :=
    calc 4 * (n * 10 ^ scale.toNat) = n * (4 * 10 ^ scale.toNat) := Nat.mul_left_comm ..
      _ ≤ n * (Interval.ofBinary b).unit scale := Nat.mul_le_mul_left _ hunit
      _ ≤ (Interval.ofBinary b).value := hvalue
      _ = 4 * (b.mantissa * 2 ^ b.exponent.toNat) := Nat.mul_assoc ..
  omega

/-- Below the limit no significand of a whole decimal with so many zeros is near enough to it. -/
theorem coarse {e : Nat} (low : 293 ≤ e) (high : e ≤ 308) {n : Nat} (h : n * 10 ^ e ≤ limit) :
    (2 ^ 53 + 1) ^ 2 * (n * 10 ^ e) < 2 ^ 106 * limit := by
  have htable : ∀ k < 16, (2 ^ 53 + 1) ^ 2 * (limit / 10 ^ (293 + k) * 10 ^ (293 + k)) <
      2 ^ 106 * limit := by
    decide +kernel
  obtain ⟨k, rfl⟩ := Nat.exists_eq_add_of_le low
  have hn : n ≤ limit / 10 ^ (293 + k) := (Nat.le_div_iff_mul_le (Nat.pow_pos (by decide))).mpr h
  exact Nat.lt_of_le_of_lt (Nat.mul_le_mul_left _ (Nat.mul_le_mul_right _ hn))
    (htable k (by omega))

/-- The significands just below the decimal of the greatest number, and that decimal itself, are
rounded down far enough. -/
theorem scale?_near_greatest :
    ∀ k < 3, (scale? (17976931348623155 + k) 292).isSome = true := by
  decide +kernel

section Shortest

variable {x : Float} {tie : Tie}

/-- The significand of the shortest decimal is that of a number. -/
theorem coefficient_bounds (h : x.isFinite = true) (pos : (Binary.ofFloat x).mantissa ≠ 0)
    (tie : Tie) :
    0 < (shortest tie x).coefficient ∧ (shortest tie x).coefficient ≤ 10 ^ 17 := by
  obtain ⟨s, hs, heq⟩ := shortest_cases h pos tie
  have hs' := coefficient_pos pos hs.holds
  have hshort := hs.short
  rw [heq]
  obtain htrim | ⟨htrim, -⟩ := trim_cases s
  · rw [htrim]
    exact ⟨hs', hshort⟩
  · omega

/-- A shortest decimal that is a whole number is not greater than the limit, and for the greatest
significands not greater than the decimal of the greatest number. -/
theorem whole_bounds (h : x.isFinite = true) (pos : (Binary.ofFloat x).mantissa ≠ 0) {e : Nat}
    (he : (shortest tie x).exponent = e) (large : 0 < e) :
    (shortest tie x).coefficient * 10 ^ e ≤ limit ∧
      (e = 292 → (shortest tie x).coefficient ≤ 17976931348623157) := by
  have hfinite := Binary.isFinite_ofFloat h
  obtain ⟨s, hs, heq⟩ := shortest_cases h pos tie
  rw [heq] at he ⊢
  obtain htrim | ⟨hcoefficient, hexponent⟩ := trim_cases s
  · rw [htrim] at he ⊢
    have hlimit := mul_le_limit hfinite hs.holds (by omega)
    rw [he, Int.toNat_natCast] at hlimit
    refine ⟨hlimit, fun h292 => ?_⟩
    by_contra hgreater
    have hneighbour := hs.neighbour
    rw [he, h292] at hneighbour
    have hbelow : 17976931348623157 ≤
        (Interval.ofBinary (Binary.ofFloat x)).below (292 : Nat) := by omega
    have hvalue := mul_le_value (by omega) hbelow
    rw [Int.toNat_natCast] at hvalue
    have hgreatest := shortest_greatest (eq_greatest hfinite hvalue) tie
    rw [heq, htrim] at hgreatest
    rw [hgreatest] at hgreater
    exact hgreater (Nat.le_refl _)
  · have hshort := hs.short
    have hlimit := mul_le_limit hfinite hs.holds (by omega)
    rw [show e = s.exponent.toNat + 1 by omega, Nat.pow_succ, Nat.mul_comm (10 ^ _) 10,
      ← Nat.mul_assoc, Nat.mul_comm _ 10, ← hcoefficient]
    exact ⟨hlimit, fun _ => by omega⟩

theorem exponent_le (h : x.isFinite = true) (pos : (Binary.ofFloat x).mantissa ≠ 0)
    (tie : Tie) : (shortest tie x).exponent ≤ 308 := by
  by_contra hlarge
  obtain ⟨e, he⟩ : ∃ e : Nat, (shortest tie x).exponent = e :=
    ⟨(shortest tie x).exponent.toNat, by omega⟩
  have hle := (whole_bounds h pos he (by omega)).1
  have hpow : ∀ k, k ≤ e → 10 ^ k ≤ (shortest tie x).coefficient * 10 ^ e := fun _ hk =>
    Nat.le_trans (Nat.pow_le_pow_right (by decide) hk)
      (Nat.le_mul_of_pos_left _ (coefficient_bounds h pos tie).1)
  have hlimit : limit < 10 ^ 309 := by decide +kernel
  exact absurd (Nat.le_trans (hpow 309 (by omega)) hle) (Nat.not_le_of_lt hlimit)

/-- The shortest decimal of a finite number can be scaled. -/
theorem scale?_shortest (h : x.isFinite = true) (pos : (Binary.ofFloat x).mantissa ≠ 0)
    (tie : Tie) :
    (scale? (shortest tie x).coefficient (shortest tie x).exponent).isSome = true := by
  obtain hneg | hnonneg := Int.lt_or_le (shortest tie x).exponent 0
  · exact scale?_of_neg _ hneg
  obtain ⟨e, he⟩ : ∃ e : Nat, (shortest tie x).exponent = e :=
    ⟨(shortest tie x).exponent.toNat, by omega⟩
  obtain ⟨hpos, hshort⟩ := coefficient_bounds h pos tie
  have hle := exponent_le h pos tie
  rw [he] at hle ⊢
  have hscale := scale?_isSome (e := e) hpos (by omega) (by omega)
  obtain hsmall | hedge | hlarge : e ≤ 291 ∨ e = 292 ∨ 293 ≤ e := by omega
  · apply hscale
    have hpow : ∀ k, e ≤ k → 10 ^ e ≤ 10 ^ k := fun _ => Nat.pow_le_pow_right (by decide)
    have hfar : (2 ^ 53 + 1) ^ 2 * (10 ^ 17 * 10 ^ 291) < 2 ^ 106 * limit := by decide +kernel
    exact Nat.lt_of_le_of_lt (Nat.mul_le_mul_left _ (Nat.mul_le_mul hshort (hpow 291 hsmall))) hfar
  · have hbest := (whole_bounds h pos he (by omega)).2 hedge
    obtain hfar | hnear := Nat.lt_or_ge (shortest tie x).coefficient 17976931348623155
    · apply hscale
      have hfit : (2 ^ 53 + 1) ^ 2 * (17976931348623154 * 10 ^ 292) < 2 ^ 106 * limit := by
        decide +kernel
      rw [hedge]
      exact Nat.lt_of_le_of_lt
        (Nat.mul_le_mul_left _ (Nat.mul_le_mul_right _ (Nat.le_of_lt_succ hfar))) hfit
    · obtain ⟨k, hk⟩ := Nat.exists_eq_add_of_le hnear
      rw [hk, hedge]
      exact scale?_near_greatest k (by omega)
  · exact hscale (coarse hlarge (by omega) (whole_bounds h pos he (by omega)).1)

end Shortest

/-! ## The literals that are written -/

section Literals

theorem isRun_replicate (k : Nat) : IsRun (List.replicate k '0') := by
  intro c hc
  rw [List.eq_of_mem_replicate hc]
  rfl

theorem IsRun.append {run more : List Char} (h : IsRun run) (h' : IsRun more) :
    IsRun (run ++ more) :=
  List.forall_mem_append.mpr ⟨h, h'⟩

theorem ofDigits_zeros_append (k : Nat) (run : List Char) :
    ofDigits (List.replicate k '0' ++ run) = ofDigits run := by
  rw [ofDigits_eq, ofDigits_eq, Nat.ofDigitChars_append, Nat.ofDigitChars_replicate_zero,
    Nat.mul_zero]

theorem ofDigits_append_zeros (run : List Char) (k : Nat) :
    ofDigits (run ++ List.replicate k '0') = 10 ^ k * ofDigits run := by
  rw [ofDigits_eq, ofDigits_eq, Nat.ofDigitChars_append, Nat.ofDigitChars_replicate_zero]

/-- A literal with digits behind the point and no power of ten denotes a number. -/
theorem denotes_of_fraction (negative : Bool) (whole run : List Char)
    (digits : IsRun (whole ++ run))
    (leading : whole = ['0'] ∨ whole ≠ [] ∧ whole.head? ≠ some '0') (behind : run ≠ [])
    (fits : ofDigits (whole ++ run) < significandLimit) :
    Literal.Denotes ⟨negative, whole, some run, none⟩ := by
  obtain ⟨hwhole, hrun⟩ := List.forall_mem_append.mp digits
  refine ⟨⟨hwhole, leading, ?_, ?_⟩, .inl rfl, fits, scale?_of_neg _ ?_, ?_⟩
  · rintro _ ⟨⟩
    exact ⟨behind, hrun⟩
  · rintro _ ⟨⟩
  · have := List.length_pos_iff.mpr behind
    simp only [Literal.exponent, Option.getD_some, Int.ofNat_eq_natCast]
    omega
  · rintro _ ⟨⟩

/-- A literal with one digit before the point and a power of ten denotes a number if its digits can
be scaled. -/
theorem denotes_of_power (negative : Bool) {first : Char} {rest : List Char} {e : Int}
    (digits : IsRun (first :: rest)) (leading : first ≠ '0') (small : e < exponentLimit)
    (fits : ofDigits (first :: rest) < significandLimit)
    (scaled : (scale? (ofDigits (first :: rest)) (e - rest.length)).isSome = true) :
    Literal.Denotes ⟨negative, [first], if rest = [] then none else some rest,
      some (decide (e < 0), Nat.toDigits 10 e.natAbs)⟩ := by
  obtain ⟨hfirst, hrest⟩ := List.forall_mem_cons.mp digits
  have hgetD : (if rest = [] then none else some rest : Option (List Char)).getD [] = rest := by
    split
    · rename_i h
      exact h.symm
    · rfl
  refine ⟨⟨?_, ?_, ?_, ?_⟩, .inr rfl, ?_, ?_, ?_⟩
  · exact List.forall_mem_singleton.mpr hfirst
  · exact .inr ⟨by simp, by simpa using leading⟩
  · intro run hrun
    split at hrun
    · cases hrun
    · rename_i hne
      cases hrun
      exact ⟨hne, hrest⟩
  · rintro _ ⟨⟩
    exact ⟨Nat.toDigits_ne_nil, isRun_toDigits _⟩
  · unfold Literal.significand
    rw [hgetD]
    exact fits
  · unfold Literal.significand Literal.exponent
    rw [hgetD]
    have hdigits : ofDigits (Nat.toDigits 10 e.natAbs) = e.natAbs := ofDigits_toDigits _
    by_cases he : e < 0
    · simp only [he, decide_true, hdigits]
      rwa [show -Int.ofNat rest.length - Int.ofNat e.natAbs = e - rest.length by
        simp only [Int.ofNat_eq_natCast]; omega]
    · simp only [he, decide_false, hdigits]
      rwa [show -Int.ofNat rest.length + Int.ofNat e.natAbs = e - rest.length by
        simp only [Int.ofNat_eq_natCast]; omega]
  · intro run hrun
    simp only [Option.some.injEq, Prod.mk.injEq, decide_eq_false_iff_not] at hrun
    rw [← hrun.2, ofDigits_toDigits]
    omega

theorem text_of_fraction (negative : Bool) (whole run : List Char) :
    Literal.text ⟨negative, whole, some run, none⟩ =
      Literal.signText ⟨negative, whole, some run, none⟩ ++ (whole ++ '.' :: run) := by
  simp only [Literal.text, Literal.fractionText, Literal.powerText, List.append_nil]

theorem lt_pow_length (c : Nat) : c < 10 ^ (Nat.toDigits 10 c).length :=
  (Nat.length_toDigits_le_iff (by decide) Nat.length_toDigits_pos).mp (Nat.le_refl _)

theorem positionalText_whole {digits : List Char} {e : Int} (he : ¬e < 0)
    (h : digits.length ≤ e.toNat + 1) :
    positionalText true digits e =
      digits ++ List.replicate (e.toNat + 1 - digits.length) '0' ++ ['.', '0'] := by
  unfold positionalText
  rw [if_neg he]
  simp only [List.drop_eq_nil_iff.mpr h, List.take_of_length_le h, if_true]

theorem positionalText_split {digits : List Char} {e : Int} (he : ¬e < 0)
    (h : e.toNat + 1 < digits.length) :
    positionalText true digits e =
      digits.take (e.toNat + 1) ++ '.' :: digits.drop (e.toNat + 1) := by
  unfold positionalText
  rw [if_neg he]
  simp only [Nat.sub_eq_zero_of_le (Nat.le_of_lt h), List.replicate_zero, List.append_nil]
  split
  · rename_i hdrop
    have := List.drop_eq_nil_iff.mp hdrop
    omega
  · rfl

/-- A text with the point among the digits is that of a literal. -/
theorem exists_positional (negative : Bool) {c : Nat} (pos : 0 < c) (short : c ≤ 10 ^ 17) {e : Int}
    (small : e ≤ 15) :
    ∃ l : Literal, l.Denotes ∧ l.negative = negative ∧
      l.text = l.signText ++ positionalText true (Nat.toDigits 10 c) e := by
  have hlimit : 10 ^ 17 < significandLimit := by decide
  have hdigits := ofDigits_toDigits c
  have hhead := head?_toDigits (show c ≠ 0 by omega)
  have hlength := lt_pow_length c
  have hrun := isRun_toDigits c
  have hne : Nat.toDigits 10 c ≠ [] := Nat.toDigits_ne_nil
  generalize Nat.toDigits 10 c = digits at *
  by_cases he : e < 0
  · refine ⟨_, denotes_of_fraction negative ['0']
      (List.replicate ((-e).toNat - 1) '0' ++ digits) ?_ (.inl rfl) (by simp [hne]) ?_,
      rfl, ?_⟩
    · exact (isRun_replicate 1).append ((isRun_replicate _).append hrun)
    · rw [← List.append_assoc, show ['0'] = List.replicate 1 '0' from rfl,
        List.replicate_append_replicate, ofDigits_zeros_append, hdigits]
      omega
    · rw [text_of_fraction, positionalText, if_pos he]
      rfl
  obtain hsplit | hwhole := Nat.lt_or_ge (e.toNat + 1) digits.length
  · refine ⟨_, denotes_of_fraction negative (digits.take (e.toNat + 1))
      (digits.drop (e.toNat + 1)) ?_ (.inr ⟨?_, ?_⟩) ?_ ?_, rfl, ?_⟩
    · rwa [List.take_append_drop]
    · simp [hne]
    · rwa [List.head?_take, if_neg (by omega)]
    · rw [ne_eq, List.drop_eq_nil_iff]
      omega
    · rw [List.take_append_drop, hdigits]
      omega
    · rw [text_of_fraction, positionalText_split he hsplit]
  · have hzeros : digits ++ List.replicate (e.toNat + 1 - digits.length) '0' ++ ['0'] =
        digits ++ List.replicate (e.toNat + 1 - digits.length + 1) '0' := by
      rw [List.append_assoc, List.replicate_succ']
    refine ⟨_, denotes_of_fraction negative
      (digits ++ List.replicate (e.toNat + 1 - digits.length) '0') ['0'] ?_ (.inr ⟨?_, ?_⟩)
      (by simp) ?_, rfl, ?_⟩
    · rw [hzeros]
      exact hrun.append (isRun_replicate _)
    · simp [hne]
    · cases digits with
      | nil => exact absurd rfl hne
      | cons first rest => exact hhead
    · rw [hzeros, ofDigits_append_zeros, hdigits]
      calc 10 ^ (e.toNat + 1 - digits.length + 1) * c
          < 10 ^ (e.toNat + 1 - digits.length + 1) * 10 ^ digits.length :=
            (Nat.mul_lt_mul_left (Nat.pow_pos (by decide))).mpr hlength
        _ = 10 ^ (e.toNat + 2) := by
            rw [← Nat.pow_add]
            congr 1
            omega
        _ ≤ 10 ^ 17 := Nat.pow_le_pow_right (by decide) (by omega)
        _ < significandLimit := hlimit
    · rw [text_of_fraction, positionalText_whole he hwhole, List.append_assoc]

/-- A text with a power of ten is that of a literal. -/
theorem exists_exponent (negative : Bool) {c : Nat} (pos : 0 < c) (short : c ≤ 10 ^ 17) {e : Int}
    (small : e < exponentLimit)
    (scaled : (scale? c (e - ((Nat.toDigits 10 c).length - 1 : Nat))).isSome = true) :
    ∃ l : Literal, l.Denotes ∧ l.negative = negative ∧
      l.text = l.signText ++ exponentText (Nat.toDigits 10 c) e := by
  have hlimit : 10 ^ 17 < significandLimit := by decide
  have hdigits := ofDigits_toDigits c
  have hhead := head?_toDigits (show c ≠ 0 by omega)
  have hrun := isRun_toDigits c
  cases hc : Nat.toDigits 10 c with
  | nil => exact absurd hc Nat.toDigits_ne_nil
  | cons first rest =>
    rw [hc] at hdigits hhead hrun scaled
    refine ⟨_, denotes_of_power negative hrun (by simpa using hhead) small ?_ ?_, rfl, ?_⟩
    · omega
    · rw [hdigits]
      exact scaled
    · have hsign : (if decide (e < 0) = true then '-' else '+') = if e < 0 then '-' else '+' := by
        simp only [decide_eq_true_eq]
      unfold Literal.text Literal.fractionText Literal.powerText exponentText
      cases rest with
      | nil => simp only [if_true, hsign, List.nil_append]
      | cons second rest => simp

/-- The written magnitude of a decimal that can be scaled is that of a literal. -/
theorem exists_magnitude (negative : Bool) {s : Scaled} (pos : 0 < s.coefficient)
    (short : s.coefficient ≤ 10 ^ 17) (small : s.exponent ≤ 308)
    (scaled : (scale? s.coefficient s.exponent).isSome = true) :
    ∃ l : Literal, l.Denotes ∧ l.negative = negative ∧
      l.text = l.signText ++ Layout.json.magnitude s := by
  have hlength : (Nat.toDigits 10 s.coefficient).length ≤ 18 :=
    (Nat.length_toDigits_le_iff (by decide) (by decide)).mpr (by omega)
  have hlimit : exponentLimit = 2147483648 := by decide
  have hsome : 0 < (Nat.toDigits 10 s.coefficient).length := Nat.length_toDigits_pos
  unfold Layout.magnitude
  simp only [Int.ofNat_eq_natCast]
  split
  · rename_i hpositional
    refine exists_positional negative pos short ?_
    simp only [Layout.positional, Layout.json, Option.all_some, Bool.and_eq_true,
      decide_eq_true_eq] at hpositional
    exact hpositional.2
  · refine exists_exponent negative pos short (by omega) ?_
    rwa [show s.exponent + ((Nat.toDigits 10 s.coefficient).length : Int) - 1 -
      ((Nat.toDigits 10 s.coefficient).length - 1 : Nat) = s.exponent by omega]

end Literals

/-- Every finite number that is written is read as a number. -/
theorem exists_readNumber?_floatText {x : Float} (h : x.isFinite = true) :
    ∃ y, readNumber? (floatText x) = some (.float y) := by
  have hliteral : ∃ l : Literal, l.Denotes ∧ l.negative = (Binary.ofFloat x).negative ∧
      l.text = l.signText ++ Layout.json.magnitude (shortest Layout.json.tie x) := by
    by_cases hzero : (Binary.ofFloat x).mantissa = 0
    · have hshortest : shortest Layout.json.tie x = ⟨0, 0⟩ := if_pos hzero
      rw [hshortest]
      exact ⟨_, denotes_of_fraction _ ['0'] ['0'] (isRun_replicate 2)
        (.inl rfl) (by simp) (by decide), rfl, rfl⟩
    · obtain ⟨hpos, hshort⟩ := coefficient_bounds h hzero Layout.json.tie
      exact exists_magnitude _ hpos hshort (exponent_le h hzero _) (scale?_shortest h hzero _)
  obtain ⟨l, hl, hnegative, htext⟩ := hliteral
  obtain ⟨y, hy⟩ := exists_readNumber?_text hl
  refine ⟨y, ?_⟩
  rw [floatText, if_pos h, Layout.finite, String.toList_ofList]
  rwa [htext, Literal.signText, hnegative] at hy

end ChannelGateway.Json
