import ChannelGateway.Config.Record
import ChannelGateway.Decimal.Basic
import ChannelGateway.Text.Scan

/-!
# Values of environment variables

The values that `figment` reads from a variable. The value is a truth value, a number, a text in
quotes, a character in apostrophes, an array or a table, as its first characters say; whatever is
none of these is a text. A number with a point is a fraction. A value that breaks off, or that is
not all there is, is a text too, blanks and all.
-/

namespace ChannelGateway.Env

open Scan

/-- The blanks that are passed over around values. -/
def isBlank (c : Char) : Bool :=
  c = ' ' || c = '\t' || c = '\n' || c = '\r' || c = '\x0c'

/-- The characters that end a plain value. -/
def isSeparator (c : Char) : Bool :=
  c ∈ [',', '\x7b', '\x7d', '[', ']']

/-- The blanks that do not belong to a plain value. -/
def isSpace (c : Char) : Bool :=
  let n := c.toNat
  (9 ≤ n && n ≤ 13) || n = 32 || n = 0x85 || n = 0xA0 || n = 0x1680 || (0x2000 ≤ n && n ≤ 0x200A) ||
    n = 0x2028 || n = 0x2029 || n = 0x202F || n = 0x205F || n = 0x3000

/-- A text without the blanks around it. -/
def trim (cs : List Char) : List Char :=
  ((cs.dropWhile isSpace).reverse.dropWhile isSpace).reverse

/-- A sign: whether it is a minus. -/
def sign : Scan Bool := do
  if ← accept '-' then return true
  let _ ← accept '+'
  return false

/-- The exponent of a fraction. -/
def power : Scan Int := do
  let _ ← one fun c => c = 'e' ∨ c = 'E'
  let negative ← sign
  let n := Int.ofNat (numberOf 10 (← run1 Char.isDigit))
  return if negative then -n else n

/-- A fraction: digits with a point before, between or after them, and an exponent. -/
def fraction : Scan Float := do
  let negative ← sign
  let whole ← run Char.isDigit
  char '.'
  let places ← run Char.isDigit
  if whole ++ places = [] then failure
  let exponent := (← optional power).getD 0
  let x := Decimal.nearest (numberOf 10 (whole ++ places)) (exponent - Int.ofNat places.length)
  return if negative then -x else x

/-- An integer of 64 bits, without sign unless it has a minus. -/
def integer : Scan Tree := do
  let negative ← sign
  let n := numberOf 10 (← run1 Char.isDigit)
  if negative then if n ≤ Int64.size / 2 then return .int (-Int.ofNat n) else failure
  else if n < UInt64.size then return .natural n
  else failure

/-- The value of a plain run of characters. -/
def plain (cs : List Char) : Tree :=
  match fraction.whole? cs, integer.whole? cs with
  | some x, _ => .float x
  | none, some n => n
  | none, none => .text (String.ofList cs)

/-- The character of an escape, after the backslash. -/
def escaped : Scan Char := do
  match ← any with
  | 'b' => return '\x08'
  | 'f' => return '\x0c'
  | 'n' => return '\n'
  | 'r' => return '\r'
  | 't' => return '\t'
  | '"' => return '"'
  | '\\' => return '\\'
  | 'u' => code 4
  | 'U' => code 8
  | _ => failure

/-- The characters that a text in quotes may hold as they are. -/
def isPlain (c : Char) : Bool :=
  c = '\t' || (' ' ≤ c && c ≠ '\x7f')

/-- The rest of a text in quotes, at most so many characters. -/
def quotedRest : Nat → Scan (List Char)
  | 0 => failure
  | fuel + 1 => do
    match ← any with
    | '"' => return []
    | '\\' =>
      let c ← escaped
      return c :: (← quotedRest fuel)
    | c => if isPlain c then return c :: (← quotedRest fuel) else failure

/-- A text in quotes. -/
def quoted : Scan String := do
  char '"'
  let body ← fun cs => quotedRest (cs.length + 1) cs
  return String.ofList body

/-- A character in apostrophes. -/
def character : Scan Char := do
  char '\''
  let c ← any
  char '\''
  return c

/-- The key of a table. -/
def key : Scan String := do
  skip isBlank
  let bare : Scan String :=
    String.ofList <$> run1 fun c => c.isAlphanum || c = '_' || c = '-'
  let k ← if (← peek) = some '"' then quoted else bare
  skip isBlank
  return k

/-- A key and its value. -/
def pair (value : Scan Tree) : Scan (String × Tree) := do
  let k ← key
  char '='
  return (k, ← value)

/-- A table; of two values of a key the later one counts. -/
def table (fields : List (String × Tree)) : Tree :=
  .object (fields.foldl (fun t f => Table.insert t f.1 f.2) [])

/-- The two words for a truth value. -/
def truths : List (List Char × Bool) :=
  [(['t', 'r', 'u', 'e'], true), (['f', 'a', 'l', 's', 'e'], false)]

/-- A truth value, if one comes next; words that go on after it are no reason to read them
otherwise. -/
def truth? : Scan (Option Bool) := fun cs =>
  match truths.find? fun t => t.1.isPrefixOf cs with
  | some (w, b) => some (some b, cs.drop w.length)
  | none => some (none, cs)

/-- A value without blanks around it; `inner` scans what stands in containers. -/
def bareValue (inner : Scan Tree) : Scan Tree := do
  if let some b ← truth? then return .bool b
  match ← peek with
  | some '"' => .text <$> quoted
  | some '\'' => .char <$> character
  | some '[' => .array <$> bracketed '[' inner (return ()) ']'
  | some '\x7b' => table <$> bracketed '\x7b' (pair inner) (return ()) '\x7d'
  | _ => (fun cs => plain (trim cs)) <$> run fun c => !isSeparator c

/-- A value with blanks around it; containers nest at most so deep. -/
def value : Nat → Scan Tree
  | 0 => failure
  | depth + 1 => do
    skip isBlank
    let v ← bareValue (value depth)
    skip isBlank
    return v

/-- The value of a variable. -/
def read (s : String) : Tree :=
  let cs := s.toList
  ((value (cs.length + 1)).whole? cs).getD (.text s)

end ChannelGateway.Env
