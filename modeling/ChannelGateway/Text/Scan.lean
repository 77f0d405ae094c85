/-!
# Scanning texts from the front

A scan takes a value from the front of a text, or fails. Repetition is bounded by the length of the
text, since every item takes at least one character. The readers of variables, of TOML documents and
of tables of characters are scans.
-/

namespace ChannelGateway

/-- A way to take a value from the front of a text. -/
abbrev Scan := StateT (List Char) Option

namespace Scan

variable {α : Type}

/-- A character of a class. -/
def one (p : Char → Bool) : Scan Char
  | c :: rest => if p c then some (c, rest) else none
  | [] => none

/-- A given character. -/
def char (c : Char) : Scan Unit := do
  let _ ← one (· = c)

/-- Any character. -/
def any : Scan Char :=
  one fun _ => true

/-- The next character, which is left where it is. -/
def peek : Scan (Option Char) :=
  fun cs => some (cs.head?, cs)

/-- A given character, if it comes next; tells whether it did. -/
def accept (c : Char) : Scan Bool := fun cs =>
  match cs with
  | c' :: rest => if c' = c then some (true, rest) else some (false, cs)
  | [] => some (false, [])

/-- A given word. -/
def word (w : List Char) : Scan Unit := fun cs =>
  if w.isPrefixOf cs then some ((), cs.drop w.length) else none

/-- The longest run of characters of a class. -/
def run (p : Char → Bool) : Scan (List Char) :=
  fun cs => some (cs.takeWhile p, cs.dropWhile p)

/-- The longest run of characters of a class, and at least one. -/
def run1 (p : Char → Bool) : Scan (List Char) := do
  let c ← one p
  return c :: (← run p)

/-- Pass over the longest run of characters of a class. -/
def skip (p : Char → Bool) : Scan Unit :=
  fun cs => some ((), cs.dropWhile p)

/-- A given number of values. -/
def times (s : Scan α) : Nat → Scan (List α)
  | 0 => return []
  | n + 1 => do
    let a ← s
    return a :: (← times s n)

/-- Items with commas between them and perhaps after the last, up to a closing character, at most so
many. `blank` passes over what may stand around items. -/
def items (item : Scan α) (blank : Scan Unit) (close : Char) : Nat → Scan (List α)
  | 0 => failure
  | fuel + 1 => do
    blank
    if ← accept close then return []
    let a ← item
    blank
    if ← accept ',' then return a :: (← items item blank close fuel)
    char close
    return [a]

/-- Items between an opening and a closing character. -/
def bracketed (openChar : Char) (item : Scan α) (blank : Scan Unit) (close : Char) :
    Scan (List α) := do
  char openChar
  fun cs => items item blank close (cs.length + 1) cs

/-- The value of a whole text. -/
def whole? (s : Scan α) (cs : List Char) : Option α :=
  match s cs with
  | some (a, []) => some a
  | _ => none

end Scan

/-- The parts of a text between separators. -/
def parts (isSeparator : Char → Bool) (read : List Char) : List Char → List (List Char)
  | [] => [read.reverse]
  | c :: rest =>
    if isSeparator c then read.reverse :: parts isSeparator [] rest
    else parts isSeparator (c :: read) rest

/-- The value of a hexadecimal digit. -/
def hexDigitValue? (c : Char) : Option Nat :=
  if '0' ≤ c ∧ c ≤ '9' then some (c.toNat - 48)
  else if 'a' ≤ c ∧ c ≤ 'f' then some (c.toNat - 87)
  else if 'A' ≤ c ∧ c ≤ 'F' then some (c.toNat - 55)
  else none

/-- The number that digits of a base denote. -/
def numberOf (base : Nat) (digits : List Char) : Nat :=
  digits.foldl (fun n c => n * base + (hexDigitValue? c).getD 0) 0

/-- The character with a code, unless the code is a surrogate or too large. -/
def charOfCode? (code : Nat) : Option Char :=
  if h : code.isValidChar then some (Char.ofNatAux code h) else none

/-- A character from so many hexadecimal digits of its code. -/
def Scan.code (digits : Nat) : Scan Char := do
  let run ← times (one fun c => (hexDigitValue? c).isSome) digits
  charOfCode? (numberOf 16 run)

end ChannelGateway

namespace ChannelGateway.Text

/-!
## Ranges of character codes

A class of characters is a list of ranges of codes. It is written as a text: the hexadecimal codes
of both ends with a hyphen between them, or a single code, and blanks or line breaks between ranges.
-/

/-- The words of a text. -/
def words (s : String) : List (List Char) :=
  (parts (fun c => c = ' ' || c = '\n') [] s.toList).filter (· ≠ [])

/-- Ranges of codes, with both ends. -/
abbrev Ranges := List (Nat × Nat)

/-- The range that a word tells. -/
def range (word : List Char) : Nat × Nat :=
  let ends := parts (· = '-') [] word
  (numberOf 16 (ends.headD []), numberOf 16 (ends.getLastD []))

/-- The ranges that a text tells. -/
def Ranges.ofText (s : String) : Ranges :=
  (words s).map range

/-- Whether a character lies in one of some ranges. -/
def Ranges.has (ranges : Ranges) (c : Char) : Bool :=
  ranges.any fun r => r.1 ≤ c.toNat && c.toNat ≤ r.2

end ChannelGateway.Text
