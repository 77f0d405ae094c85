import ChannelGateway.Json.Basic
import ChannelGateway.Decimal.Basic

/-!
# Writing JSON texts

The texts of `to_string` and `to_string_pretty`. `Json.write` writes a value with a given `Spacing`:
what stands after an opening bracket, a comma and before a closing bracket, and what stands after a
colon. `Json.compact` leaves nothing there; `Json.indented` starts a line for each item, four blanks
deeper than its container.
-/

namespace ChannelGateway.Json

/-- Lower-case hexadecimal digit. -/
def hexDigit (n : Nat) : Char :=
  Nat.digitChar (n % 16)

/-- How a character stands in a text literal: the quote, the backslash and control characters are
escaped. -/
def escape (c : Char) : List Char :=
  match c with
  | '"' => ['\\', '"']
  | '\\' => ['\\', '\\']
  | '\x08' => ['\\', 'b']
  | '\x0c' => ['\\', 'f']
  | '\n' => ['\\', 'n']
  | '\r' => ['\\', 'r']
  | '\t' => ['\\', 't']
  | c =>
    if c < ' ' then ['\\', 'u', '0', '0', hexDigit (c.toNat / 16), hexDigit c.toNat] else [c]

/-- A text literal. -/
def quote (s : String) : List Char :=
  '"' :: (s.toList.flatMap escape ++ ['"'])

/-- A number literal; a number that is not finite has none and is written as `null`. -/
def floatText (x : Float) : List Char :=
  if x.isFinite then (Decimal.Layout.json.finite x).toList else ['n', 'u', 'l', 'l']

/-- The blanks of a way of writing containers. -/
structure Spacing where
  /-- Before an item, and before a closing bracket, at a depth. -/
  line : Nat → List Char
  /-- After a colon. -/
  colon : List Char

/-- No blanks. -/
def Spacing.none : Spacing :=
  ⟨fun _ => [], []⟩

/-- A line for each item, four blanks deeper than its container. -/
def Spacing.lines : Spacing :=
  ⟨fun depth => '\n' :: List.replicate (4 * depth) ' ', [' ']⟩

mutual

/-- Write a value that stands at a depth. -/
def write (sp : Spacing) (depth : Nat) : Json → List Char
  | .null => ['n', 'u', 'l', 'l']
  | .bool true => ['t', 'r', 'u', 'e']
  | .bool false => ['f', 'a', 'l', 's', 'e']
  | .int n => (toString n).toList
  | .float x => floatText x
  | .text s => quote s
  | .array [] => ['[', ']']
  | .array (v :: items) =>
    '[' :: (sp.line (depth + 1) ++ (write sp (depth + 1) v ++
      (writeItems sp (depth + 1) items ++ (sp.line depth ++ [']']))))
  | .object [] => ['\x7b', '\x7d']
  | .object ((key, v) :: fields) =>
    '\x7b' :: (sp.line (depth + 1) ++ (quote key ++ (':' :: (sp.colon ++ (write sp (depth + 1) v ++
      (writeFields sp (depth + 1) fields ++ (sp.line depth ++ ['\x7d'])))))))

/-- Write the items after the first. -/
def writeItems (sp : Spacing) (depth : Nat) : List Json → List Char
  | [] => []
  | v :: items => ',' :: (sp.line depth ++ (write sp depth v ++ writeItems sp depth items))

/-- Write the fields after the first. -/
def writeFields (sp : Spacing) (depth : Nat) : List (String × Json) → List Char
  | [] => []
  | (key, v) :: fields =>
    ',' :: (sp.line depth ++ (quote key ++ (':' :: (sp.colon ++ (write sp depth v ++
      writeFields sp depth fields)))))

end

/-- Write a value without blanks. -/
def compact (v : Json) : String :=
  String.ofList (v.write .none 0)

/-- Write a value with a line for each item. -/
def indented (v : Json) : String :=
  String.ofList (v.write .lines 0)

end ChannelGateway.Json
