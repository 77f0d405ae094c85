import ChannelGateway.Json.Basic
import Mathlib.Algebra.Ring.Int.Defs
import Mathlib.Data.List.TakeDrop

/-!
# Number literals: their texts, and what is read from them

`Literal.text` puts the parts of a literal together, and `Literal.split?` takes such a text apart
again as long as the parts are `Proper`. Whoever writes a number writes the text of some literal, so
what is read from it is `Literal.value?` of that literal.

An integer has a literal of digits alone, and it is read exactly. The number of any other literal is
its digits without the point, times a power of ten: `Literal.significand` and `Literal.exponent`, as
long as the digits fit a significand. Whether there is a number depends on `scale?` of the two
alone, not on the sign.

Results:
* `split?_text`: the text of a proper literal has its parts.
* `readNumber?_toString`: every integer of 64 bits is read back from its digits.
* **`exists_readNumber?_text`**: a literal with a fraction or a power of ten, whose digits fit a
  significand that can be scaled, is read as a number.
-/

namespace ChannelGateway.Json

/-! ## Runs of digits -/

/-- Whether characters are digits. -/
def IsRun (cs : List Char) : Prop := ∀ c ∈ cs, c.isDigit = true

theorem isRun_toDigits (n : Nat) : IsRun (Nat.toDigits 10 n) :=
  fun _ h => Nat.isDigit_of_mem_toDigits (by decide) (by decide) h

theorem head?_toDigits {n : Nat} (h : n ≠ 0) : (Nat.toDigits 10 n).head? ≠ some '0' := by
  induction n using Nat.strongRecOn with
  | ind n ih =>
    rw [Nat.toDigits_eq_if (by decide)]
    split
    · rename_i hlt
      have hdigit : ∀ k < 10, k ≠ 0 → Nat.digitChar k ≠ '0' := by decide
      simpa using hdigit n hlt h
    · rename_i hle
      have hfront := ih (n / 10) (by omega) (by omega)
      cases hdigits : Nat.toDigits 10 (n / 10) with
      | nil => exact absurd hdigits Nat.toDigits_ne_nil
      | cons d ds =>
        rw [hdigits] at hfront
        exact hfront

theorem digitRun_append {run rest : List Char} (hrun : IsRun run)
    (hrest : ∀ c ∈ rest.head?, c.isDigit = false) : digitRun (run ++ rest) = (run, rest) := by
  rw [digitRun, List.span_eq_takeWhile_dropWhile, List.takeWhile_append_of_pos hrun,
    List.dropWhile_append_of_pos hrun]
  cases rest with
  | nil => simp
  | cons c rest =>
    have hc : c.isDigit = false := hrest c rfl
    rw [List.takeWhile_cons_of_neg (by simp [hc]), List.dropWhile_cons_of_neg (by simp [hc]),
      List.append_nil]

theorem ofDigits_eq (run : List Char) : ofDigits run = Nat.ofDigitChars 10 run 0 := by
  rw [Nat.ofDigitChars_eq_foldl]
  unfold ofDigits
  congr 1
  funext n d
  rw [Nat.mul_comm]
  rfl

theorem ofDigits_toDigits (n : Nat) : ofDigits (Nat.toDigits 10 n) = n := by
  rw [ofDigits_eq, Nat.ofDigitChars_ten_toDigits]

/-- The number of a run never gets smaller as digits are appended. -/
theorem le_ofDigitChars (significand : Nat) (run : List Char) :
    significand ≤ Nat.ofDigitChars 10 run significand := by
  rw [Nat.ofDigitChars_eq_ofDigitChars_zero]
  have hpow : 1 ≤ 10 ^ run.length := Nat.one_le_pow _ _ (by decide)
  exact Nat.le_trans (Nat.le_mul_of_pos_left _ hpow) (Nat.le_add_right _ _)

theorem accumulate_eq {significand : Nat} {run : List Char}
    (h : Nat.ofDigitChars 10 run significand < significandLimit) :
    accumulate significand run = (Nat.ofDigitChars 10 run significand, []) := by
  induction run generalizing significand with
  | nil => simp [accumulate]
  | cons d run ih =>
    rw [Nat.ofDigitChars_cons, Nat.mul_comm] at h ⊢
    have hnext : significand * 10 + (d.toNat - 48) < significandLimit :=
      Nat.lt_of_le_of_lt (le_ofDigitChars _ run) h
    rw [accumulate, if_pos hnext]
    exact ih h

namespace Literal

/-! ## The text of a literal -/

/-- The sign. -/
def signText (l : Literal) : List Char :=
  if l.negative then ['-'] else []

/-- The point and the digits after it. -/
def fractionText (l : Literal) : List Char :=
  match l.fraction with
  | some run => '.' :: run
  | none => []

/-- The power of ten. -/
def powerText (l : Literal) : List Char :=
  match l.power with
  | some (down, run) => 'e' :: (if down then '-' else '+') :: run
  | none => []

/-- The text of a literal. -/
def text (l : Literal) : List Char :=
  l.signText ++ (l.whole ++ (l.fractionText ++ l.powerText))

/-- The parts of a literal are those of a number: runs of digits of which none is empty, and no zero
in front of other digits. -/
structure Proper (l : Literal) : Prop where
  whole : IsRun l.whole
  leading : l.whole = ['0'] ∨ l.whole ≠ [] ∧ l.whole.head? ≠ some '0'
  fraction : ∀ run ∈ l.fraction, run ≠ [] ∧ IsRun run
  power : ∀ p ∈ l.power, p.2 ≠ [] ∧ IsRun p.2

/-! ## Taking a text apart -/

/-- The sign in front, and what follows it. -/
def takeSign (cs : List Char) : Bool × List Char :=
  match cs with
  | '-' :: rest => (true, rest)
  | _ => (false, cs)

/-- Whether digits can stand before a point. -/
def isWhole (run : List Char) : Bool :=
  match run with
  | [] => false
  | '0' :: rest => rest.isEmpty
  | _ => true

/-- The digits after a point, and what follows them. -/
def takeFraction (cs : List Char) : Option (List Char) × List Char :=
  match cs with
  | '.' :: rest => (some (digitRun rest).1, (digitRun rest).2)
  | _ => (none, cs)

/-- The sign of a power of ten, and what follows it. -/
def takePowerSign (cs : List Char) : Bool × List Char :=
  match cs with
  | '-' :: rest => (true, rest)
  | '+' :: rest => (false, rest)
  | _ => (false, cs)

/-- The power of ten, and what follows it. -/
def takePower (cs : List Char) : Option (Bool × List Char) × List Char :=
  match cs with
  | e :: rest =>
    if e = 'e' ∨ e = 'E' then
      let sign := takePowerSign rest
      (some (sign.1, (digitRun sign.2).1), (digitRun sign.2).2)
    else (none, cs)
  | [] => (none, cs)

theorem split?_eq (cs : List Char) :
    split? cs =
      let sign := takeSign cs
      let whole := digitRun sign.2
      let fraction := takeFraction whole.2
      let power := takePower fraction.2
      if isWhole whole.1 && fraction.1 != some [] && power.1.all (fun p => !p.2.isEmpty) &&
          power.2.isEmpty then
        some ⟨sign.1, whole.1, fraction.1, power.1⟩
      else none :=
  rfl

variable {l : Literal}

theorem Proper.isWhole (h : l.Proper) : isWhole l.whole = true := by
  obtain h0 | ⟨hne, hhead⟩ := h.leading
  · rw [h0]
    rfl
  · unfold Literal.isWhole
    split
    · rename_i heq
      exact absurd heq hne
    · rename_i heq
      rw [heq] at hhead
      exact absurd rfl hhead
    · rfl

theorem Proper.takeSign (h : l.Proper) (rest : List Char) :
    takeSign (l.signText ++ (l.whole ++ rest)) = (l.negative, l.whole ++ rest) := by
  unfold signText
  cases l.negative with
  | true => rfl
  | false =>
    cases hw : l.whole with
    | nil =>
      have := h.isWhole
      rw [hw] at this
      cases this
    | cons d ds =>
      have hd : d.isDigit = true := h.whole d (by simp [hw])
      unfold Literal.takeSign
      split
      · rename_i heq
        cases heq
        exact absurd hd (by decide)
      · rfl

theorem takePower_powerText (h : l.Proper) : takePower l.powerText = (l.power, []) := by
  unfold powerText
  cases hp : l.power with
  | none => rfl
  | some p =>
    obtain ⟨down, run⟩ := p
    have hrun : digitRun (run ++ []) = (run, []) := digitRun_append (h.power _ hp).2 (by simp)
    rw [List.append_nil] at hrun
    cases down <;> simp [takePower, takePowerSign, hrun]

theorem takeFraction_fractionText (h : l.Proper) :
    takeFraction (l.fractionText ++ l.powerText) = (l.fraction, l.powerText) := by
  have hend : ∀ c ∈ l.powerText.head?, c.isDigit = false := by
    unfold powerText
    cases l.power <;> simp
  unfold fractionText
  cases hf : l.fraction with
  | none =>
    unfold powerText
    cases l.power <;> rfl
  | some run =>
    have hrun := digitRun_append (h.fraction run hf).2 hend
    simp only [List.cons_append, takeFraction, hrun]

theorem head?_fractionText (l : Literal) :
    ∀ c ∈ (l.fractionText ++ l.powerText).head?, c.isDigit = false := by
  unfold fractionText powerText
  cases l.fraction <;> cases l.power <;> simp

/-- The text of a proper literal has its parts. -/
theorem split?_text (h : l.Proper) : split? l.text = some l := by
  have hfraction : (l.fraction != some []) = true := by
    cases hf : l.fraction with
    | none => rfl
    | some run => simpa using (h.fraction run hf).1
  have hpower : l.power.all (fun p => !p.2.isEmpty) = true := by
    cases hp : l.power with
    | none => rfl
    | some p => simpa using (h.power p hp).1
  rw [split?_eq, text]
  simp only [h.takeSign, digitRun_append h.whole l.head?_fractionText, takeFraction_fractionText h,
    takePower_powerText h, h.isWhole, hfraction, hpower, Bool.and_self, List.isEmpty_nil, if_true]

theorem readNumber?_text (h : l.Proper) : readNumber? l.text = l.value? := by
  rw [readNumber?, split?_text h, Option.bind_some]

/-! ## Integers -/

/-- The literal of an integer. -/
def ofInt (n : Int) : Literal :=
  ⟨decide (n < 0), Nat.toDigits 10 n.natAbs, none, none⟩

theorem ofInt_proper (n : Int) : (ofInt n).Proper where
  whole := isRun_toDigits _
  leading := by
    by_cases h : n.natAbs = 0
    · exact .inl (by simp [ofInt, h])
    · exact .inr ⟨Nat.toDigits_ne_nil, head?_toDigits h⟩
  fraction _ h := by cases h
  power _ h := by cases h

theorem text_ofInt (n : Int) : (ofInt n).text = (toString n).toList := by
  rw [Int.toString_eq_repr, Int.repr_eq_if]
  by_cases h : 0 ≤ n
  · have hneg : decide (n < 0) = false := decide_eq_false (by omega)
    have habs : n.toNat = n.natAbs := by omega
    simp [text, ofInt, signText, fractionText, powerText, h, hneg, habs]
  · have hneg : decide (n < 0) = true := decide_eq_true (by omega)
    have habs : (-n).toNat = n.natAbs := by omega
    simp [text, ofInt, signText, fractionText, powerText, h, hneg, habs]

end Literal

/-- Every integer of 64 bits, with or without sign, is read back from its digits. -/
theorem readNumber?_toString {n : Int} (low : -2 ^ 63 ≤ n) (high : n < 2 ^ 64) :
    readNumber? (toString n).toList = some (.int n) := by
  rw [← Literal.text_ofInt, Literal.readNumber?_text (Literal.ofInt_proper n)]
  have hvalue : ofDigits (Literal.ofInt n).whole = n.natAbs := ofDigits_toDigits _
  have hunsigned : UInt64.size = 2 ^ 64 := rfl
  have hsigned : Int64.size / 2 = 2 ^ 63 := rfl
  unfold Literal.value?
  rw [hvalue]
  by_cases h : n < 0
  · have hneg : (Literal.ofInt n).negative = true := decide_eq_true h
    rw [if_neg (by simp [hneg]), if_pos ⟨rfl, rfl, hneg, by omega, by omega⟩,
      Int.negOfNat_eq, Int.ofNat_eq_natCast, Int.ofNat_natAbs_of_nonpos (by omega), Int.neg_neg]
  · have hneg : (Literal.ofInt n).negative = false := decide_eq_false h
    rw [if_pos ⟨rfl, rfl, hneg, by omega⟩, Int.ofNat_eq_natCast,
      Int.natAbs_of_nonneg (by omega)]

namespace Literal

/-! ## Numbers with a fraction or a power of ten -/

variable {l : Literal}

/-- The digits of a literal without the point, as a number. -/
def significand (l : Literal) : Nat :=
  ofDigits (l.whole ++ l.fraction.getD [])

/-- The power of ten that the digits of a literal without the point are multiplied by. -/
def exponent (l : Literal) : Int :=
  match l.power with
  | none => -Int.ofNat (l.fraction.getD []).length
  | some (true, run) => -Int.ofNat (l.fraction.getD []).length - Int.ofNat (ofDigits run)
  | some (false, run) => -Int.ofNat (l.fraction.getD []).length + Int.ofNat (ofDigits run)

theorem accumulate_significand (h : l.significand < significandLimit) :
    accumulate 0 l.whole = (ofDigits l.whole, []) ∧
      accumulate (ofDigits l.whole) (l.fraction.getD []) = (l.significand, []) := by
  have hsplit : l.significand = Nat.ofDigitChars 10 (l.fraction.getD []) (ofDigits l.whole) := by
    rw [significand, ofDigits_eq, Nat.ofDigitChars_append, ← ofDigits_eq]
  rw [hsplit] at h ⊢
  have hfront : ofDigits l.whole < significandLimit := Nat.lt_of_le_of_lt (le_ofDigitChars _ _) h
  refine ⟨?_, accumulate_eq h⟩
  rw [ofDigits_eq] at hfront ⊢
  exact accumulate_eq hfront

/-- A literal is that of a number with a fraction or a power of ten: its digits fit a significand,
the significand can be scaled, and a power of ten that makes the number large is not too large
itself. -/
structure Denotes (l : Literal) : Prop where
  proper : l.Proper
  broken : l.fraction.isSome = true ∨ l.power.isSome = true
  fits : l.significand < significandLimit
  scaled : (scale? l.significand l.exponent).isSome = true
  bounded : ∀ run, l.power = some (false, run) → ofDigits run < exponentLimit

theorem Denotes.float?_isSome (h : l.Denotes) : l.float?.isSome = true := by
  obtain ⟨-, -, fits, scaled, bounded⟩ := h
  obtain ⟨hwhole, hfraction⟩ := accumulate_significand fits
  unfold float?
  simp only [hwhole, hfraction, List.length_nil, Nat.sub_zero, Option.isSome_map]
  have hzero : Int.ofNat 0 - Int.ofNat (l.fraction.getD []).length =
      -Int.ofNat (l.fraction.getD []).length := Int.zero_sub _
  rw [hzero]
  unfold exponent at scaled
  match hp : l.power with
  | none => rwa [hp] at scaled
  | some (true, run) =>
    rw [hp] at scaled
    simp only
    split
    · exact scaled
    · simp
  | some (false, run) =>
    rw [hp] at scaled
    simp only [bounded run hp, if_true, Bool.false_eq_true, if_false]
    exact scaled

end Literal

/-- The literal of a number with a fraction or a power of ten is read as a number. -/
theorem exists_readNumber?_text {l : Literal} (h : l.Denotes) :
    ∃ x, readNumber? l.text = some (.float x) := by
  obtain ⟨x, hx⟩ := Option.isSome_iff_exists.mp h.float?_isSome
  refine ⟨x, ?_⟩
  rw [Literal.readNumber?_text h.proper, Literal.value?, hx]
  have hint : ¬(l.fraction.isNone = true ∧ l.power.isNone = true) := by
    rintro ⟨hf, hp⟩
    simp only [Option.isNone_iff_eq_none] at hf hp
    have hbroken := h.broken
    rw [hf, hp] at hbroken
    simp at hbroken
  rw [if_neg fun h => hint ⟨h.1, h.2.1⟩, if_neg fun h => hint ⟨h.1, h.2.1⟩, Option.map_some]

end ChannelGateway.Json
