/-!
# JSON values and their numbers

Numbers keep the distinction a text makes: an integer literal that fits 64 bits is an `int`, every
other number a `float`. An object keeps its fields in textual order, repeated keys included;
`Json.lookup` gives the last field of a key, which is the one that counts. Numbers are read as
`serde_json` reads them.
-/

namespace ChannelGateway

/-- A JSON value. -/
inductive Json where
  | null
  | bool (b : Bool)
  | int (n : Int)
  | float (x : Float)
  | text (s : String)
  | array (items : List Json)
  | object (fields : List (String × Json))
  deriving Inhabited

namespace Json

/-- The value of the last field with a key. -/
def lookup (fields : List (String × Json)) (key : String) : Option Json :=
  fields.foldl (fun found field => if field.1 = key then some field.2 else found) none

/-- Whether some field has a key. -/
def has (fields : List (String × Json)) (key : String) : Bool :=
  (lookup fields key).isSome

/-- The text of a text value. -/
def asText? : Json → Option String
  | .text s => some s
  | _ => none

/-- The truth value of a boolean. -/
def asBool? : Json → Option Bool
  | .bool b => some b
  | _ => none

/-- The integer of an integer literal. -/
def asInt? : Json → Option Int
  | .int n => some n
  | _ => none

/-- The number of any numeric literal, an integer rounded to the nearest `Float`. -/
def asFloat? : Json → Option Float
  | .int n => some (Float.ofInt n)
  | .float x => some x
  | _ => none

/-- The integer of an integer literal that fits 32 bits with sign. -/
def asInt32? (v : Json) : Option Int32 :=
  v.asInt?.bind fun n =>
    if Int32.minValue.toInt ≤ n ∧ n ≤ Int32.maxValue.toInt then some (Int32.ofInt n) else none

end Json

end ChannelGateway

namespace ChannelGateway.Json

/-!
## Reading numbers

A literal without fraction and exponent is an `int` when it fits 64 bits (without sign, or with one
and not zero). Every other literal is a `float`, computed from a significand of at most 64 bits: the
digits are accumulated until the next one would overflow it, later digits are dropped, and each
dropped digit before the point adds one to the exponent. The significand is rounded to a `Float` and
then multiplied or divided by one power of ten, so the result need not be the nearest `Float` to the
literal.
-/

/-- The least number that does not fit the significand. -/
def significandLimit : Nat := UInt64.size

/-- The least number that does not fit the exponent. -/
def exponentLimit : Nat := Int32.size / 2

/-- Append digits to a significand until the next one would not fit; the rest is handed back. -/
def accumulate (significand : Nat) : List Char → Nat × List Char
  | [] => (significand, [])
  | d :: rest =>
    let next := significand * 10 + (d.toNat - 48)
    if next < significandLimit then accumulate next rest else (significand, d :: rest)

/-- Divide by `10 ^ 308` a number of times, or until nothing is left. -/
def shrink (x : Float) : Nat → Float
  | 0 => x
  | times + 1 => if x == 0 then x else shrink (x / 1e308) times

/-- A power of ten that a `Float` can hold. -/
def powerOfTen (e : Nat) : Float :=
  Float.ofScientific 1 false e

/-- A significand times a power of ten; none when the result is too large for a `Float`. -/
def scale? (significand : Nat) (exponent : Int) : Option Float :=
  let x := significand.toUInt64.toFloat
  if exponent < 0 then
    let e := exponent.natAbs
    let times := (e - 1) / 308
    some (shrink x times / powerOfTen (e - 308 * times))
  else if exponent ≤ 308 then
    let y := x * powerOfTen exponent.toNat
    if y.isInf then none else some y
  else if x == 0 then some x
  else none

/-- The parts of a number literal, each a run of digits. -/
structure Literal where
  negative : Bool
  whole : List Char
  /-- The digits after a point, if there is one. -/
  fraction : Option (List Char)
  /-- Whether an exponent is negative, and its digits, if there is one. -/
  power : Option (Bool × List Char)
  deriving DecidableEq, Repr

/-- Split off the longest run of digits. -/
def digitRun (cs : List Char) : List Char × List Char :=
  cs.span Char.isDigit

/-- Split a literal by the number grammar: a sign, an integer without leading zeros, a fraction, an
exponent. Nothing may follow. -/
def Literal.split? (cs : List Char) : Option Literal :=
  let (negative, cs) := match cs with
    | '-' :: rest => (true, rest)
    | _ => (false, cs)
  let (whole, cs) := digitRun cs
  let wholeOk := match whole with
    | [] => false
    | '0' :: rest => rest.isEmpty
    | _ => true
  let (fraction, cs) := match cs with
    | '.' :: rest => let (run, rest) := digitRun rest; (some run, rest)
    | _ => (none, cs)
  let (power, cs) := match cs with
    | e :: rest =>
      if e = 'e' ∨ e = 'E' then
        let (down, rest) := match rest with
          | '-' :: rest => (true, rest)
          | '+' :: rest => (false, rest)
          | _ => (false, rest)
        let (run, rest) := digitRun rest
        (some (down, run), rest)
      else (none, cs)
    | [] => (none, cs)
  if wholeOk && fraction != some [] && power.all (fun p => !p.2.isEmpty) && cs.isEmpty then
    some ⟨negative, whole, fraction, power⟩
  else none

/-- The number that a run of digits denotes. -/
def ofDigits (run : List Char) : Nat :=
  run.foldl (fun n d => n * 10 + (d.toNat - 48)) 0

/-- The `float` of a literal; none when it is too large. -/
def Literal.float? (l : Literal) : Option Float :=
  let (significand, dropped) := accumulate 0 l.whole
  let fraction := l.fraction.getD []
  let (significand, unused) := accumulate significand fraction
  let exponent := Int.ofNat dropped.length - Int.ofNat (fraction.length - unused.length)
  let magnitude := match l.power with
    | none => scale? significand exponent
    | some (down, run) =>
      let e := ofDigits run
      if e < exponentLimit then
        scale? significand (if down then exponent - Int.ofNat e else exponent + Int.ofNat e)
      else if significand ≠ 0 ∧ ¬ down then none
      else some 0
  magnitude.map fun x => if l.negative then -x else x

/-- The value of a literal. The integer zero with a sign is the `float` with that sign. -/
def Literal.value? (l : Literal) : Option Json :=
  let n := ofDigits l.whole
  if l.fraction.isNone ∧ l.power.isNone ∧ l.negative = false ∧ n < UInt64.size then
    some (.int (Int.ofNat n))
  else if l.fraction.isNone ∧ l.power.isNone ∧ l.negative = true ∧ n ≠ 0 ∧ n ≤ Int64.size / 2 then
    some (.int (Int.negOfNat n))
  else l.float?.map .float

/-- Read a number literal. -/
def readNumber? (cs : List Char) : Option Json :=
  (Literal.split? cs).bind Literal.value?

end ChannelGateway.Json
