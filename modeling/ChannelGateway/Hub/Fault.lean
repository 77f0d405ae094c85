import ChannelGateway.Channel.Basic
import ChannelGateway.Decimal.Basic
import ChannelGateway.Failure

/-!
# Injected faults

Model of `ErrorConfig`, its `ErrorScenario`s and its `check`, of `MockRng`, and of the errors that a
`MockChannel` reports. A hub can be told to fail. Its scenarios are checked in order at every
operation of every channel, and the first one that applies decides. Some scenarios latch: once they
have struck, every later operation fails in the same way. When no scenario applies, the operation
fails at random at a given rate (`should_fail`). All channels of a hub share one `Injection`: call
counters, latch and random draws.
-/

namespace ChannelGateway

/-!
## Why an operation fails

Each cause has a kind and a wording; `HubFailure.error` is the device error that callers see.
-/

/-- The operations of a channel. -/
inductive Operation where
  | opening
  | closing
  | readingState
  | settingState
  | readingVoltage
  | settingVoltage
  deriving DecidableEq, Repr, Inhabited

namespace Operation

/-- The name of an operation. -/
def label : Operation → String
  | opening => "open"
  | closing => "close"
  | readingState => "state"
  | settingState => "set_state"
  | readingVoltage => "voltage"
  | settingVoltage => "set_voltage"

/-- Every operation. -/
def all : List Operation :=
  [opening, closing, readingState, settingState, readingVoltage, settingVoltage]

/-- The operation that has a name. -/
def ofName? (name : String) : Option Operation :=
  all.find? fun op => op.label = name

end Operation

/-- The causes for which an operation fails. -/
inductive HubFailure where
  /-- Nothing attached at an address in time. -/
  | attachTimeout (address : Address) (timeout : Nat)
  | notAttached (kind : ChannelKind) (address : Address)
  | unsupported (kind : ChannelKind) (operation : String)
  | voltageOutOfRange (volts : Float)
  /-- An injected fault lets only so many calls succeed. -/
  | callsUsedUp (op : Operation) (count : UInt32)
  | operationTimeout (op : Operation)
  | linkLost
  | hubFault (code : UInt32)
  | chance (op : Operation)
  deriving Repr, Inhabited

namespace HubFailure

/-- The way in which a cause makes an operation fail. -/
def kind : HubFailure → DeviceErrorKind
  | attachTimeout _ _ => .timeout
  | notAttached _ _ => .notAttached
  | unsupported _ _ => .unsupported
  | voltageOutOfRange _ => .invalidParameter
  | callsUsedUp _ _ => .hardware
  | operationTimeout _ => .timeout
  | linkLost => .communication
  | hubFault _ => .hardware
  | chance _ => .hardware

/-- The wording of a cause. -/
def message : HubFailure → String
  | attachTimeout address timeout =>
    s!"Timed out waiting for attachment on {address.text} after {timeout} ms"
  | notAttached kind address => s!"{kind.label} on {address.text} is not attached"
  | unsupported kind operation => s!"{kind.label} does not support {operation}"
  | voltageOutOfRange volts =>
    s!"Voltage {Decimal.Layout.message.write volts} V outside range ±10V"
  | callsUsedUp op count => s!"Injected {op.label} failure after {count.toNat} calls"
  | operationTimeout op => s!"Operation '{op.label}' timed out"
  | linkLost => "Communication lost"
  | hubFault code => s!"Hardware fault: {code.toNat}"
  | chance op => s!"Random failure on {op.label}"

/-- The name under which the simulated hub reports its errors. -/
def driver : String := "mock_hub"

/-- The device error of a cause. -/
def error (f : HubFailure) : DeviceError :=
  ⟨driver, f.kind, f.message⟩

end HubFailure

/-!
## Reproducible random draws

The draws come from the ChaCha stream cipher with eight rounds, a 64-bit block counter from zero and
a zero nonce. The eight key words are expanded from a 64-bit seed by a linear congruential generator
whose output is permuted. Draw number `n` takes the two words `2 n` and `2 n + 1` of the key stream,
and its upper 53 bits as a fraction of one.
-/

/-- The sixteen words of a cipher block. -/
abbrev CipherBlock := Vector UInt32 16

/-- Rotate a word to the left. -/
def rotateLeft (x : UInt32) (amount : UInt32) : UInt32 :=
  (x <<< amount) ||| (x >>> (32 - amount))

namespace CipherBlock

/-- Mix four words of a block. -/
def quarterRound (b : CipherBlock) (i j k l : Fin 16) : CipherBlock :=
  let x := b[i] + b[j]
  let w := rotateLeft (b[l] ^^^ x) 16
  let z := b[k] + w
  let y := rotateLeft (b[j] ^^^ z) 12
  let x := x + y
  let w := rotateLeft (w ^^^ x) 8
  let z := z + w
  let y := rotateLeft (y ^^^ z) 7
  (((b.set i x).set j y).set k z).set l w

/-- Mix the columns, then the diagonals. -/
def doubleRound (b : CipherBlock) : CipherBlock :=
  let b := b.quarterRound 0 4 8 12
  let b := b.quarterRound 1 5 9 13
  let b := b.quarterRound 2 6 10 14
  let b := b.quarterRound 3 7 11 15
  let b := b.quarterRound 0 5 10 15
  let b := b.quarterRound 1 6 11 12
  let b := b.quarterRound 2 7 8 13
  b.quarterRound 3 4 9 14

/-- Eight rounds. -/
def mix (b : CipherBlock) : CipherBlock :=
  b.doubleRound.doubleRound.doubleRound.doubleRound

end CipherBlock

/-- A stream of draws: its key and how many draws have been taken. -/
structure Chance where
  key : Vector UInt32 8
  drawn : Nat
  deriving DecidableEq, Repr

namespace Chance

/-- One step of the generator that expands a seed. -/
def nextSeed (s : UInt64) : UInt64 :=
  s * 6364136223846793005 + 11634580027462260723

/-- The key word of a state of the generator: a part of it, rotated by its upper five bits. -/
def seedWord (s : UInt64) : UInt32 :=
  let x := (((s >>> 18) ^^^ s) >>> 27).toUInt32
  let turn := (s >>> 59).toUInt32
  (x >>> turn) ||| (x <<< ((32 - turn) % 32))

/-- The states of the generator after the seed. -/
def seedStates (s : UInt64) : Nat → List UInt64
  | 0 => []
  | n + 1 => nextSeed s :: seedStates (nextSeed s) n

/-- The stream of a seed, before its first draw. -/
def ofSeed (seed : UInt64) : Chance :=
  let words := (seedStates seed 8).map seedWord
  ⟨Vector.ofFn fun i => words.getD i.val 0, 0⟩

/-- A block of the key stream. -/
def block (key : Vector UInt32 8) (counter : UInt64) : CipherBlock :=
  let initial : CipherBlock :=
    #v[0x61707865, 0x3320646e, 0x79622d32, 0x6b206574,
      key[0], key[1], key[2], key[3], key[4], key[5], key[6], key[7],
      counter.toUInt32, (counter >>> 32).toUInt32, 0, 0]
  let mixed := initial.mix
  Vector.ofFn fun i => mixed[i] + initial[i]

/-- The 64 bits of a draw. -/
def bits (key : Vector UInt32 8) (n : Nat) : UInt64 :=
  let b := block key (n / 8).toUInt64
  let low := b.toArray.getD (2 * (n % 8)) 0
  let high := b.toArray.getD (2 * (n % 8) + 1) 0
  low.toUInt64 ||| (high.toUInt64 <<< 32)

/-- The value of a draw, at least zero and less than one. -/
def fraction (key : Vector UInt32 8) (n : Nat) : Float :=
  (bits key n >>> 11).toFloat * Float.ofBits 0x3ca0000000000000

/-- Decide with a given probability. A probability that leaves no doubt takes no draw. -/
def decide (c : Chance) (rate : Float) : Bool × Chance :=
  if rate ≤ 0 then (false, c)
  else if 1 ≤ rate then (true, c)
  else (fraction c.key c.drawn < rate, { c with drawn := c.drawn + 1 })

end Chance

/-! ## Scenarios -/

/-- A way in which a hub is told to fail. -/
inductive Scenario where
  /-- An operation succeeds so many times and fails from then on. -/
  | failAfter (op : Operation) (count : UInt32)
  /-- Every call of an operation times out. -/
  | timeout (op : Operation)
  /-- The link to the hub is lost at the first operation and stays lost. -/
  | linkLoss
  /-- The hub reports a code at the first operation and stays faulted. -/
  | hubFault (code : UInt32)
  deriving DecidableEq, Repr, Inhabited

/-- A failure that has struck for good. -/
inductive Latch where
  | linkLost
  | hubFault (code : UInt32)
  deriving DecidableEq, Repr, Inhabited

/-- The failure of a latch. -/
def Latch.failure : Latch → HubFailure
  | linkLost => .linkLost
  | hubFault code => .hubFault code

/-- The latch that a failure leaves behind. -/
def HubFailure.latch? : HubFailure → Option Latch
  | linkLost => some .linkLost
  | hubFault code => some (.hubFault code)
  | _ => none

/-- How many calls of each operation have been counted, in 32 bits. -/
structure CallCounts where
  opening : UInt32 := 0
  closing : UInt32 := 0
  readingState : UInt32 := 0
  settingState : UInt32 := 0
  readingVoltage : UInt32 := 0
  settingVoltage : UInt32 := 0
  deriving DecidableEq, Repr, Inhabited

namespace CallCounts

/-- The calls of an operation that have been counted. -/
def get (c : CallCounts) : Operation → UInt32
  | .opening => c.opening
  | .closing => c.closing
  | .readingState => c.readingState
  | .settingState => c.settingState
  | .readingVoltage => c.readingVoltage
  | .settingVoltage => c.settingVoltage

/-- Replace the count of an operation. -/
def set (c : CallCounts) (op : Operation) (n : UInt32) : CallCounts :=
  match op with
  | .opening => { c with opening := n }
  | .closing => { c with closing := n }
  | .readingState => { c with readingState := n }
  | .settingState => { c with settingState := n }
  | .readingVoltage => { c with readingVoltage := n }
  | .settingVoltage => { c with settingVoltage := n }

@[simp]
theorem get_set (c : CallCounts) (op other : Operation) (n : UInt32) :
    (c.set op n).get other = if other = op then n else c.get other := by
  cases op <;> cases other <;> rfl

@[simp]
theorem set_get (c : CallCounts) (op : Operation) : c.set op (c.get op) = c := by
  cases op <;> rfl

end CallCounts

/-- What a hub is told to do wrong, and what has happened so far. -/
structure Injection where
  scenarios : List Scenario
  failureRate : Float
  chance : Chance
  /-- The calls that `failAfter` scenarios have counted. -/
  calls : CallCounts
  latched : Option Latch

namespace Injection

/-- Scenarios and a failure rate, before the first operation. -/
def ofScenarios (scenarios : List Scenario) (failureRate : Float) (seed : UInt64) : Injection :=
  ⟨scenarios, failureRate, Chance.ofSeed seed, {}, none⟩

/-- No faults. -/
def none : Injection :=
  ofScenarios [] 0 0

/-- Whether any fault can strike. -/
def isActive (i : Injection) : Bool :=
  !i.scenarios.isEmpty || 0 < i.failureRate

/-- Go through scenarios until one fails an operation of which so many calls have been counted. Each
`failAfter` scenario of the operation that is reached counts the call once. -/
def scan (op : Operation) (calls : UInt32) : List Scenario → Option HubFailure × UInt32
  | [] => (Option.none, calls)
  | .failAfter target count :: rest =>
    if target = op then
      if count < calls + 1 then (some (.callsUsedUp op count), calls + 1)
      else scan op (calls + 1) rest
    else scan op calls rest
  | .timeout target :: rest =>
    if target = op then (some (.operationTimeout op), calls) else scan op calls rest
  | .linkLoss :: _ => (some .linkLost, calls)
  | .hubFault code :: _ => (some (.hubFault code), calls)

/-- Decide whether an operation fails. -/
def check (op : Operation) (i : Injection) : Option HubFailure × Injection :=
  match i.latched with
  | some l => (some l.failure, i)
  | Option.none =>
    match scan op (i.calls.get op) i.scenarios with
    | (some f, calls) => (some f, { i with calls := i.calls.set op calls, latched := f.latch? })
    | (Option.none, calls) =>
      let (fails, chance) := i.chance.decide i.failureRate
      (if fails then some (.chance op) else Option.none,
        { i with calls := i.calls.set op calls, chance })

end Injection

end ChannelGateway
