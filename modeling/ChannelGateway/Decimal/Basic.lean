/-!
# Decimals of binary floating-point numbers

How a number is read from a decimal and written as one: the number nearest to a decimal, the
shortest decimal that is read back as a number, and the layouts in which its digits are written.
-/

namespace ChannelGateway.Decimal

/-! ## Nearest numbers -/

/-- Beyond this many places before the point a decimal is larger than every finite number, and that
many places behind it nothing is left of it. -/
def placesLimit : Int := 400

/-- The number nearest to `coefficient * 10 ^ exponent`. -/
def nearest (coefficient : Nat) (exponent : Int) : Float :=
  let places := Int.ofNat (Nat.toDigits 10 coefficient).length + exponent
  if coefficient = 0 then 0
  else if placesLimit < places then 1 / 0
  else if places < -placesLimit then 0
  else Float.ofScientific coefficient (exponent < 0) exponent.natAbs

/-!
## Shortest digits

A finite `Float` is `mantissa · 2 ^ exponent`, and the reals that round to it form an interval
around it. Its shortest decimal is found on the grids of 1, 2, … 17 significant digits: on each grid
the two neighbours of the value are tried, and the first grid with a neighbour inside the interval
gives the digits: of two neighbours the nearer, and of two equally near ones the one that a `Tie`
says. All of it is exact arithmetic on natural numbers.
-/

/-- A finite binary number `mantissa · 2 ^ exponent`, with its sign apart. -/
structure Binary where
  negative : Bool
  mantissa : Nat
  exponent : Int
  /-- The gap to the next smaller number is half the gap to the next larger one. -/
  narrowBelow : Bool
  deriving DecidableEq, Repr

/-- Read the sign, exponent and fraction fields of a finite number. -/
def Binary.ofFloat (x : Float) : Binary :=
  let bits := x.toBits.toNat
  let hidden := Nat.pow 2 52
  let fraction := bits % hidden
  let biased := bits / hidden % 2048
  let negative := bits / (2048 * hidden) == 1
  if biased = 0 then ⟨negative, fraction, -1074, false⟩
  else ⟨negative, fraction + hidden, Int.ofNat biased - 1075, fraction == 0 && biased != 1⟩

/-- Which of two equally near neighbours on a grid is taken. -/
inductive Tie where
  /-- The one with an even last digit. -/
  | toEven
  /-- The one with the greater magnitude. -/
  | awayFromZero
  deriving DecidableEq, Repr, Inhabited

/-- Whether a tie goes to the neighbour below. -/
def Tie.goesBelow (tie : Tie) (below : Nat) : Bool :=
  match tie with
  | toEven => below % 2 == 0
  | awayFromZero => false

/-- A decimal `coefficient · 10 ^ exponent`. -/
structure Scaled where
  coefficient : Nat
  exponent : Int
  deriving DecidableEq, Repr

/-- A positive value and the ends of its rounding interval, as numerators over one denominator. -/
structure Interval where
  low : Nat
  value : Nat
  high : Nat
  denominator : Nat
  /-- Whether the ends themselves round to the value. -/
  closed : Bool
  deriving DecidableEq, Repr

/-- The rounding interval of a number that is not zero: half a unit to each side, a quarter below a
power of two. The ends belong to it when the mantissa is even. -/
def Interval.ofBinary (b : Binary) : Interval :=
  let up := Nat.pow 2 b.exponent.toNat
  let down := Nat.pow 2 (-b.exponent).toNat
  { low := (4 * b.mantissa - (if b.narrowBelow then 1 else 2)) * up
    value := 4 * b.mantissa * up
    high := (4 * b.mantissa + 2) * up
    denominator := 4 * down
    closed := b.mantissa % 2 == 0 }

/-- The number of decimal digits of a natural number, 0 having none. -/
def digitCount (n : Nat) : Nat :=
  if n = 0 then 0 else (Nat.toDigits 10 n).length

/-- The exponent of ten of the leading digit of a positive fraction. -/
def leadingExponent (numerator denominator : Nat) : Int :=
  if denominator ≤ numerator then Int.ofNat (digitCount (numerator / denominator)) - 1
  else
    let quotient := (denominator + numerator - 1) / numerator
    Int.negOfNat (digitCount (quotient - 1))

/-- The multiple of `10 ^ scale` nearest to the value among its two neighbours that round to it. -/
def Interval.onGrid? (i : Interval) (tie : Tie) (scale : Int) : Option Scaled :=
  let up := Nat.pow 10 scale.toNat
  let down := Nat.pow 10 (-scale).toNat
  let unit := i.denominator * up
  let value := i.value * down
  let below := value / unit
  let inside (c : Nat) : Bool :=
    if i.closed then i.low * down ≤ c * unit && c * unit ≤ i.high * down
    else i.low * down < c * unit && c * unit < i.high * down
  let rest := value % unit
  let preferBelow := 2 * rest < unit || (2 * rest == unit && tie.goesBelow below)
  match inside below, inside (below + 1) with
  | true, true => some ⟨if preferBelow then below else below + 1, scale⟩
  | true, false => some ⟨below, scale⟩
  | false, true => some ⟨below + 1, scale⟩
  | false, false => none

/-- The first grid with a hit, from a number of digits on. -/
def Interval.shortestFrom (i : Interval) (tie : Tie) (leading : Int) (digits : Nat) :
    Nat → Scaled
  | 0 => ⟨i.value / i.denominator, 0⟩
  | fuel + 1 =>
    match i.onGrid? tie (leading - Int.ofNat digits + 1) with
    | some s => s
    | none => i.shortestFrom tie leading (digits + 1) fuel

/-- Move one trailing zero of the coefficient into the exponent. -/
def Scaled.trim (s : Scaled) : Scaled :=
  if s.coefficient ≠ 0 ∧ s.coefficient % 10 = 0 then ⟨s.coefficient / 10, s.exponent + 1⟩ else s

/-- The shortest decimal that reads back as a finite number, without its sign. Seventeen digits
always suffice. -/
def shortest (tie : Tie) (x : Float) : Scaled :=
  let b := Binary.ofFloat x
  if b.mantissa = 0 then ⟨0, 0⟩
  else
    let i := Interval.ofBinary b
    (i.shortestFrom tie (leadingExponent i.value i.denominator) 1 17).trim

/-!
## Layouts

A layout decides which decimal exponents are written positionally, whether a whole number keeps its
`.0`, and which digits are taken when two are equally near. Two layouts are in use: `Layout.json`
for numbers in JSON texts and `Layout.message` for numbers in sentences.
-/

/-- The decisions a way of writing numbers makes. -/
structure Layout where
  /-- Least decimal exponent of the leading digit that is written positionally; none: all are. -/
  positionalFrom : Option Int
  /-- Greatest decimal exponent of the leading digit that is written positionally; none: all are. -/
  positionalTo : Option Int
  /-- Whether a whole number written positionally ends in `.0`. -/
  keepsPoint : Bool
  /-- Which of two equally near shortest decimals is written. -/
  tie : Tie
  deriving DecidableEq, Repr

/-- JSON texts: positional from `0.00001` up to sixteen digits before the point, always with a point
or an exponent, a tie to the even digit. -/
def Layout.json : Layout :=
  ⟨some (-5), some 15, true, .toEven⟩

/-- Sentences: positional throughout, whole numbers without a point, a tie away from zero. -/
def Layout.message : Layout :=
  ⟨none, none, false, .awayFromZero⟩

/-- Whether a number whose leading digit stands for `10 ^ e` is written positionally. -/
def Layout.positional (layout : Layout) (e : Int) : Bool :=
  layout.positionalFrom.all (· ≤ e) && layout.positionalTo.all (e ≤ ·)

/-- Digits with the point after the first `1 + e` of them, padded with zeros on either side. -/
def positionalText (keepsPoint : Bool) (digits : List Char) (e : Int) : List Char :=
  if e < 0 then '0' :: '.' :: (List.replicate ((-e).toNat - 1) '0' ++ digits)
  else
    let before := e.toNat + 1
    let whole := digits.take before ++ List.replicate (before - digits.length) '0'
    match digits.drop before with
    | [] => if keepsPoint then whole ++ ['.', '0'] else whole
    | fraction => whole ++ '.' :: fraction

/-- Digits with the point after the first, and a signed power of ten. -/
def exponentText (digits : List Char) (e : Int) : List Char :=
  let mantissa :=
    match digits with
    | first :: second :: rest => first :: '.' :: second :: rest
    | other => other
  let sign := if e < 0 then '-' else '+'
  mantissa ++ 'e' :: sign :: Nat.toDigits 10 e.natAbs

/-- Write the magnitude of a decimal. -/
def Layout.magnitude (layout : Layout) (s : Scaled) : List Char :=
  let digits := Nat.toDigits 10 s.coefficient
  let e := s.exponent + Int.ofNat digits.length - 1
  if layout.positional e then positionalText layout.keepsPoint digits e
  else exponentText digits e

/-- Write a finite number with its shortest digits. -/
def Layout.finite (layout : Layout) (x : Float) : String :=
  let sign := if (Binary.ofFloat x).negative then ['-'] else []
  String.ofList (sign ++ layout.magnitude (shortest layout.tie x))

/-- Write any number; the ones that are not finite have names. -/
def Layout.write (layout : Layout) (x : Float) : String :=
  if x.isNaN then "NaN"
  else if x.isInf then (if x < 0 then "-inf" else "inf")
  else layout.finite x

end ChannelGateway.Decimal
