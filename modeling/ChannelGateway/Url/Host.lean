import ChannelGateway.Text.Classes
import ChannelGateway.Text.Scan
import ChannelGateway.Url.Basic
import ChannelGateway.Url.NameForm

/-!
# Hosts of URLs

A host is a domain name or an address. Domain names are those of `domain_to_ascii`: a name is
percent-decoded and brought to its one form. It is made of labels with points between them; a label
that is given in its ASCII form stands for the label that this form tells. A label does not begin
with a mark and has no character that separates the parts of a URL, joiners stand in it only where
they make a difference, and letters of different directions do not mix. The name that goes into the
URL has every label in its ASCII form.
-/

namespace ChannelGateway.AsciiForm

/-!
## ASCII forms of labels

A label with characters outside ASCII has an ASCII form: a marker, its ASCII characters, a hyphen if
there are any, and numbers that tell which characters to insert where. The characters are inserted
in the order of their codes. A number is the distance to the next insertion, counted over all codes
and places; its digits are letters and numerals, and its last digit is the first one below its
threshold. The thresholds follow the size of the numbers before.
-/

/-- What every ASCII form begins with. -/
def marker : List Char := ['x', 'n', '-', '-']

/-- How many values a digit has. -/
def base : Nat := 36

/-- The code of the first character outside ASCII. -/
def firstCode : Nat := 128

/-- The bias before the first number. -/
def firstBias : Nat := 72

/-- The value of a digit. -/
def digitValue? (c : Char) : Option Nat :=
  if 'a' ≤ c ∧ c ≤ 'z' then some (c.toNat - 97)
  else if '0' ≤ c ∧ c ≤ '9' then some (c.toNat - 22)
  else none

/-- The digit of a value. -/
def digitOf (n : Nat) : Char :=
  if n < 26 then Char.ofNat (n + 97) else Char.ofNat (n + 22)

/-- The threshold of the digit at a place; places are counted in steps of the base. -/
def threshold (bias place : Nat) : Nat :=
  min 26 (max 1 (place - bias))

/-- Divide until a bound is reached; the number of divisions is counted in steps of the base. -/
def settleBias (place delta : Nat) : Nat → Nat
  | 0 => place + base * delta / (delta + 38)
  | fuel + 1 =>
    if 455 < delta then settleBias (place + base) (delta / 35) fuel
    else place + base * delta / (delta + 38)

/-- The bias after a number, with so many characters in the label. -/
def adapt (delta length : Nat) (first : Bool) : Nat :=
  let delta := if first then delta / 700 else delta / 2
  settleBias 0 (delta + delta / length) delta

/-- A number, added to a sum; none when it breaks off or goes beyond 32 bits. -/
def number? (bias sum weight place : Nat) : List Char → Option (Nat × List Char)
  | [] => none
  | c :: rest => do
    let digit ← digitValue? c
    let sum := sum + digit * weight
    let t := threshold bias place
    if UInt32.size ≤ sum then none
    else if digit < t then return (sum, rest)
    else
      let weight := weight * (base - t)
      if UInt32.size ≤ weight then none else number? bias sum weight (place + base) rest

/-- Insert the characters that numbers tell, at most so many. The next character is inserted at
place `next` or after it if it has the code `code`, anywhere if it has a greater one. -/
def insert? (code next bias : Nat) (label : List Char) : Nat → List Char → Option (List Char)
  | _, [] => some label
  | 0, _ => none
  | fuel + 1, cs => do
    let (sum, rest) ← number? bias next 1 base cs
    let length := label.length + 1
    let code := code + sum / length
    let place := sum % length
    let c ← charOfCode? code
    let bias := adapt (sum - next) length (next = 0)
    insert? code (place + 1) bias (label.take place ++ c :: label.drop place) fuel rest

/-- The label of an ASCII form without its marker. -/
def read? (cs : List Char) : Option (List Char) :=
  let numbers := (cs.reverse.takeWhile (· ≠ '-')).reverse
  let plain := cs.take (cs.length - numbers.length - 1)
  if plain = [] ∧ '-' ∈ cs then none
  else insert? firstCode 0 firstBias plain cs.length numbers

/-- The digits of a number. -/
def number (bias place n : Nat) : Nat → List Char
  | 0 => []
  | fuel + 1 =>
    let t := threshold bias place
    if n < t then [digitOf n]
    else
      digitOf (t + (n - t) % (base - t)) ::
        number bias (place + base) ((n - t) / (base - t)) fuel

/-- Whether a character is in ASCII. -/
def isAscii (c : Char) : Bool :=
  c.toNat < firstCode

/-- How many of some characters are inserted before a character with a code that comes after
them. -/
def countUpTo (code : Nat) (cs : List Char) : Nat :=
  (cs.filter fun c => c.toNat ≤ code).length

/-- The numbers that tell the characters of a label, given with their places and in the order in
which they are inserted; `length` characters are there already. -/
def numbers (label : List Char) (code next bias length : Nat) : List (Char × Nat) → List Char
  | [] => []
  | (c, i) :: rest =>
    let place := countUpTo c.toNat (label.take i)
    let delta := (c.toNat - code) * (length + 1) + place - next
    number bias base delta (delta + 1) ++
      numbers label c.toNat (place + 1) (adapt delta (length + 1) (next = 0)) (length + 1) rest

/-- The ASCII form of a label; a label in ASCII is its own. -/
def ofLabel (label : List Char) : List Char :=
  if label.all isAscii then label
  else
    let plain := label.filter isAscii
    let others := (label.zipIdx.filter fun p => !isAscii p.1).mergeSort fun p q => p.1 ≤ q.1
    marker ++ (if plain = [] then [] else plain ++ ['-']) ++
      numbers label firstCode 0 firstBias plain.length others

end ChannelGateway.AsciiForm

namespace ChannelGateway.Domain

/-! ## Domain names -/

open Text (Direction)

/-- Characters that do not occur in a label. -/
def isForbidden (c : Char) : Bool :=
  c ≤ ' ' || c = '\x7f' ||
    c ∈ ['#', '%', '.', '/', ':', '<', '>', '?', '@', '[', '\\', ']', '^', '|']

/-- The greatest length of an ASCII form, without its marker. -/
def asciiFormLimit : Nat := 2000

/-- The greatest length of a label that has an ASCII form. -/
def labelLimit : Nat := 1000

/-- The label that a text in the one form of names stands for. -/
def label? (cs : List Char) : Option (List Char) :=
  if AsciiForm.marker.isPrefixOf cs then
    let form := cs.drop AsciiForm.marker.length
    if ¬ form.all AsciiForm.isAscii ∨ cs.getLast? = some '-' ∨
        asciiFormLimit < form.length then none
    else
      match AsciiForm.read? form with
      | some label => if NameForm.holds label then some label else none
      | none => none
  else some cs

/-- Whether a joiner makes a difference after some characters (the last one first) and before
others: it follows a silent letter, or keeps two letters apart that would be joined. -/
def joinerFits (c : Char) (before after : List Char) : Bool :=
  match before with
  | [] => false
  | previous :: _ =>
    Text.isVirama previous ||
      c = '\u200c' && (before.find? fun d => !Text.isTransparent d).any Text.joinsNext &&
        (after.find? fun d => !Text.isTransparent d).any Text.joinsPrevious

/-- Whether all joiners make a difference; `before` is what comes before, the last character
first. -/
def joinersFit (before : List Char) : List Char → Bool
  | [] => true
  | c :: rest =>
    (!NameForm.isJoiner c || joinerFits c before rest) && joinersFit (c :: before) rest

/-- Whether a text is a label, by itself. -/
def isLabel (label : List Char) : Bool :=
  !label.any isForbidden && !label.head?.any Text.isMark && joinersFit [] label &&
    (label.all AsciiForm.isAscii || label.length ≤ labelLimit)

/-- Whether characters are letters or digits of a script that runs to the left. -/
def isLeftward (c : Char) : Bool :=
  Text.leftwardLetters.has c || Text.leftwardDigits.has c

/-- Whether the directions of a label do not mix, in a name with letters that run to the left. The
first letter gives the direction, and the last character that is no mark is a letter or a digit. -/
def isOneWay (label : List Char) : Bool :=
  match label.map Direction.of with
  | [] => true
  | first :: rest =>
    let core := (rest.reverse.dropWhile (· = .mark)).reverse
    match first with
    | .toRight =>
      core.all (fun d => d ≠ .toLeft ∧ d ≠ .leftwardDigit) &&
        core.getLast?.all (fun d => d = .toRight ∨ d = .digit)
    | .toLeft =>
      core.all (· ≠ .toRight) && !(.digit ∈ core && .leftwardDigit ∈ core) &&
        core.getLast?.all (fun d => d = .toLeft ∨ d = .digit ∨ d = .leftwardDigit)
    | _ => false

/-- Whether labels make a name together. -/
def isName (labels : List (List Char)) : Bool :=
  labels.all isLabel && (!labels.any (·.any isLeftward) || labels.all isOneWay)

/-- A domain name as it stands in a URL; none when it is no name. -/
def ofChars? (cs : List Char) : Option (List Char) := do
  let name ← NameForm.ofChars? (← Percent.decode? cs)
  let labels ← (parts (· = '.') [] name).mapM label?
  if isName labels then return ['.'].intercalate (labels.map AsciiForm.ofLabel) else none

end ChannelGateway.Domain

namespace ChannelGateway.Ip

/-!
## IP addresses

A host whose last part is a number is an IPv4 address: up to four numbers in decimal, octal or
hexadecimal, the last of which fills the octets that are left. A host in brackets is an IPv6
address: eight pieces, of which one run of zeros may be left out and the last two may be an IPv4
address.
-/

/-- A number of an IPv4 address, in the base that it begins with. -/
def number? (cs : List Char) : Option Nat :=
  let (base, digits) : Nat × List Char :=
    match cs with
    | '0' :: 'x' :: rest => (16, rest)
    | '0' :: 'X' :: rest => (16, rest)
    | '0' :: c :: rest => (8, c :: rest)
    | _ => (10, cs)
  if cs ≠ [] ∧ digits.all fun c => (hexDigitValue? c).any (· < base) then
    some (numberOf base digits)
  else none

/-- The parts of a domain, without an empty last one. -/
def domainParts (cs : List Char) : List (List Char) :=
  let all := parts (· = '.') [] cs
  if 1 < all.length ∧ all.getLast? = some [] then all.dropLast else all

/-- Whether the last part of a domain is a number. -/
def endsInNumber (cs : List Char) : Bool :=
  match (domainParts cs).getLast? with
  | some last => (last ≠ [] && last.all Char.isDigit) || (number? last).isSome
  | none => false

/-- An IPv4 address. -/
def ipv4? (cs : List Char) : Option Nat := do
  let numbers ← (domainParts cs).mapM number?
  let last ← numbers.getLast?
  let before := numbers.dropLast
  if before.length ≤ 3 ∧ before.all (· < 256) ∧ last < Nat.pow 256 (4 - before.length) then
    return before.zipIdx.foldl (fun sum p => sum + p.1 * Nat.pow 256 (3 - p.2)) last
  else none

/-- An octet in decimal, without leading zeros. -/
def octet? (cs : List Char) : Option Nat :=
  let n := numberOf 10 cs
  if cs ≠ [] ∧ cs.all Char.isDigit ∧ n < 256 ∧ (cs.head? = some '0' → cs.length = 1) then some n
  else none

/-- Four octets as two pieces. -/
def octetPieces? (cs : List Char) : Option (List Nat) := do
  match ← (parts (· = '.') [] cs).mapM octet? with
  | [a, b, c, d] => return [a * 256 + b, c * 256 + d]
  | _ => none

/-- A piece of one to four hexadecimal digits. -/
def piece? (cs : List Char) : Option Nat :=
  if cs ≠ [] ∧ cs.length ≤ 4 ∧ cs.all fun c => (hexDigitValue? c).isSome then
    some (numberOf 16 cs)
  else none

/-- Pieces; only at the end of an address octets may stand for the last two. -/
def pieces? (atEnd : Bool) : List (List Char) → Option (List Nat)
  | [] => some []
  | [last] =>
    if atEnd ∧ '.' ∈ last then octetPieces? last else (piece? last).map fun n => [n]
  | first :: rest => do
    let n ← piece? first
    return n :: (← pieces? atEnd rest)

/-- The pieces between colons; an empty text has none. -/
def run? (atEnd : Bool) (cs : List Char) : Option (List Nat) :=
  if cs = [] then some [] else pieces? atEnd (parts (· = ':') [] cs)

/-- The texts before and after the first double colon. -/
def splitGap (read : List Char) : List Char → Option (List Char × List Char)
  | ':' :: ':' :: rest => some (read.reverse, rest)
  | c :: rest => splitGap (c :: read) rest
  | [] => none

/-- An IPv6 address. -/
def ipv6? (cs : List Char) : Option (List Nat) :=
  match splitGap [] cs with
  | none => do
    let all ← run? true cs
    if all.length = 8 then return all else none
  | some (before, after) => do
    let front ← run? false before
    let back ← run? true after
    let given := front.length + back.length
    if given ≤ 7 then return front ++ List.replicate (8 - given) 0 ++ back else none

end ChannelGateway.Ip
