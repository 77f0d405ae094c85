import ChannelGateway.Decimal.Basic
import ChannelGateway.Json.Basic
import ChannelGateway.Text.Scan

/-!
# TOML texts, numbers and dates

Basic texts have escapes, literal ones have none; either may stand between triple quotes and then
span lines. Integers have 64 bits with sign; a single underscore may stand between two digits. A
date is a table with one entry, since no setting is a date.
-/

namespace ChannelGateway.Toml

/-!
## Texts

A line break right after the opening quotes does not count, and every line break in a text is a
single line feed.
-/

open Scan

/-- The two characters that may stand between tokens on a line. -/
def isBlank (c : Char) : Bool :=
  c = ' ' || c = '\t'

/-- The characters that a text or a comment may hold as they are. -/
def isPlain (c : Char) : Bool :=
  c = '\t' || (' ' ≤ c && c ≠ '\x7f')

/-- A line break. -/
def lineBreak : Scan Unit :=
  word ['\n'] <|> word ['\r', '\n']

/-- The character of an escape, after the backslash. -/
def escaped : Scan Char := do
  match ← any with
  | 'b' => return '\x08'
  | 't' => return '\t'
  | 'n' => return '\n'
  | 'f' => return '\x0c'
  | 'r' => return '\r'
  | '"' => return '"'
  | '\\' => return '\\'
  | 'u' => code 4
  | 'U' => code 8
  | _ => failure

/-- The rest of a text on one line, at most so many characters. -/
def lineRest (quote : Char) (escapes : Bool) : Nat → Scan (List Char)
  | 0 => failure
  | fuel + 1 => do
    let c ← any
    if c = quote then return []
    else if c = '\\' ∧ escapes then
      let c ← escaped
      return c :: (← lineRest quote escapes fuel)
    else if isPlain c then return c :: (← lineRest quote escapes fuel)
    else failure

/-- The quotes that end a text of several lines: three, after up to two that belong to it. -/
def closing (quote : Char) : Scan (Option (List Char)) := fun cs =>
  let count := min 5 (cs.takeWhile (· = quote)).length
  if 3 ≤ count then some (some (List.replicate (count - 3) quote), cs.drop count)
  else some (none, cs)

/-- The text after the blanks and line breaks in front of it. A carriage return is part of a line
break only before a line feed. -/
def dropBreaks : List Char → List Char
  | ' ' :: rest => dropBreaks rest
  | '\t' :: rest => dropBreaks rest
  | '\n' :: rest => dropBreaks rest
  | '\r' :: '\n' :: rest => dropBreaks rest
  | cs => cs

/-- A backslash at the end of a line: it and all blanks and line breaks after it are no part of the
text. -/
def joinedLines : Scan Unit := do
  char '\\'
  skip isBlank
  lineBreak
  fun cs => some ((), dropBreaks cs)

/-- The rest of a text of several lines, at most so many characters. -/
def linesRest (quote : Char) (escapes : Bool) : Nat → Scan (List Char)
  | 0 => failure
  | fuel + 1 => do
    match ← closing quote with
    | some last => return last
    | none =>
      if (← optional lineBreak).isSome then
        return '\n' :: (← linesRest quote escapes fuel)
      else if escapes && (← optional joinedLines).isSome then
        linesRest quote escapes fuel
      else
        let c ← any
        if c = '\\' ∧ escapes then
          let c ← escaped
          return c :: (← linesRest quote escapes fuel)
        else if isPlain c then return c :: (← linesRest quote escapes fuel)
        else failure

/-- A text on one line. -/
def lineText : Scan String := do
  let quote ← one fun c => c = '"' ∨ c = '\''
  let body ← fun cs => lineRest quote (quote = '"') (cs.length + 1) cs
  return String.ofList body

/-- A text of several lines. -/
def linesText : Scan String := do
  let quote ← one fun c => c = '"' ∨ c = '\''
  word [quote, quote]
  let _ ← optional lineBreak
  let body ← fun cs => linesRest quote (quote = '"') (cs.length + 1) cs
  return String.ofList body

/-- A text. -/
def text : Scan String :=
  linesText <|> lineText

/-! ## Numbers and dates -/

/-- The digits after the first one, each after at most one underscore. -/
def moreDigits (p : Char → Bool) : List Char → List Char × List Char
  | '_' :: c :: rest =>
    if p c then
      let (digits, rest) := moreDigits p rest
      (c :: digits, rest)
    else ([], '_' :: c :: rest)
  | c :: rest =>
    if p c then
      let (digits, rest) := moreDigits p rest
      (c :: digits, rest)
    else ([], c :: rest)
  | [] => ([], [])

/-- Digits with underscores between them. -/
def digits (p : Char → Bool) : Scan (List Char) := do
  let c ← one p
  return c :: (← fun cs => some (moreDigits p cs))

/-- Whether a character is a digit of a base. -/
def isDigitOf (base : Nat) (c : Char) : Bool :=
  (hexDigitValue? c).any (· < base)

/-- A sign: whether it is a minus. -/
def sign : Scan (Option Bool) := do
  if ← accept '-' then return some true
  if ← accept '+' then return some false
  return none

/-- An integer of 64 bits with sign. -/
def integer? (negative : Bool) (magnitude : Nat) : Option Json :=
  let n := if negative then -Int.ofNat magnitude else Int.ofNat magnitude
  if Int64.minValue.toInt ≤ n ∧ n ≤ Int64.maxValue.toInt then some (.int n) else none

/-- A number after its letter for the base. -/
def based (letter : Char) (base : Nat) : Scan Json := do
  word ['0', letter]
  let run ← digits (isDigitOf base)
  integer? false (numberOf base run)

/-- The part of a decimal number before the point. -/
def wholePart : Scan (List Char) := do
  if ← accept '0' then return ['0']
  digits Char.isDigit

/-- The exponent of a decimal number. -/
def power : Scan Int := do
  let _ ← one fun c => c = 'e' ∨ c = 'E'
  let negative := (← sign).getD false
  let n := Int.ofNat (numberOf 10 (← digits Char.isDigit))
  return if negative then -n else n

/-- A number with a sign. -/
def signed (negative : Bool) (x : Float) : Json :=
  .float (if negative then -x else x)

/-- A decimal number. Above all finite numbers there is none, below there is. -/
def decimal : Scan Json := do
  let negative := (← sign).getD false
  if (← peek) = some 'i' then
    word ['i', 'n', 'f']
    return signed negative (1 / 0)
  if (← peek) = some 'n' then
    word ['n', 'a', 'n']
    return signed negative (0 / 0)
  let run ← wholePart
  let fraction ← optional do
    char '.'
    digits Char.isDigit
  let exponent ← optional power
  if fraction.isNone ∧ exponent.isNone then integer? negative (numberOf 10 run)
  else
    let fraction := fraction.getD []
    let x := Decimal.nearest (numberOf 10 (run ++ fraction))
      (exponent.getD 0 - Int.ofNat fraction.length)
    if x.isInf ∧ ¬ negative then failure
    return signed negative x

/-- A number of so many digits, between two bounds. -/
def bounded (places low high : Nat) : Scan Nat := do
  let n := numberOf 10 (← times (one Char.isDigit) places)
  if low ≤ n ∧ n ≤ high then return n else failure

/-- How many days a month has. -/
def daysOf (year month : Nat) : Nat :=
  if month = 2 then
    if year % 4 = 0 ∧ (year % 100 ≠ 0 ∨ year % 400 = 0) then 29 else 28
  else if month = 4 ∨ month = 6 ∨ month = 9 ∨ month = 11 then 30
  else 31

/-- A day. -/
def day : Scan Unit := do
  let year ← bounded 4 0 9999
  char '-'
  let month ← bounded 2 1 12
  char '-'
  let _ ← bounded 2 1 (daysOf year month)

/-- A time of day; the second may be a leap second. -/
def clock : Scan Unit := do
  let _ ← bounded 2 0 23
  char ':'
  let _ ← bounded 2 0 59
  char ':'
  let _ ← bounded 2 0 60
  let _ ← optional do
    char '.'
    run1 Char.isDigit

/-- The offset of a time zone. -/
def offset : Scan Unit := do
  let c ← one fun c => c ∈ ['Z', 'z', '+', '-']
  if c = '+' ∨ c = '-' then
    let _ ← bounded 2 0 23
    char ':'
    let _ ← bounded 2 0 59

/-- The key of the table that a date is. -/
def dateKey : String := "$__toml_private_datetime"

/-- A day, perhaps with a time and an offset, or a time of day. -/
def date : Scan Json := do
  let before ← get
  let onDay : Scan Unit := do
    day
    let _ ← optional do
      let _ ← one fun c => c ∈ ['T', 't', ' ']
      clock
      optional offset
  onDay <|> clock
  let after ← get
  let taken := before.take (before.length - after.length)
  return .object [(dateKey, .text (String.ofList taken))]

/-- A number or a date. -/
def number : Scan Json :=
  date <|> based 'x' 16 <|> based 'o' 8 <|> based 'b' 2 <|> decimal

end ChannelGateway.Toml
