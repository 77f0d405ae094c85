import ChannelGateway.Json.Basic

/-!
# Reading JSON texts

What `serde_json` accepts. The reader is a pushdown automaton: `Reader.step` takes one character,
and the containers around the current position are on a stack. Reading a text is a fold, so a text
that is read in two parts ends in the same state as the whole. The grammar is that of RFC 8259
without extensions; containers nest at most `maxDepth` deep, and an escaped surrogate has to be one
half of a pair.
-/

namespace ChannelGateway.Json

/-- How deep containers may nest. -/
def maxDepth : Nat := 127

/-- A container that is still open, with what it holds so far in reverse. -/
inductive Frame where
  | array (items : List Json)
  | object (fields : List (String × Json)) (key : String)

/-- What a text literal is read for. -/
inductive Purpose where
  | value
  | key (fields : List (String × Json))

/-- Where the reader stands inside a text literal. -/
inductive Escape where
  /-- Not in an escape. -/
  | none
  /-- After a backslash; the code of a high surrogate still waits for its low half. -/
  | slash (high : Option Nat)
  /-- Some hexadecimal digits of a code are still to come. -/
  | hex (missing : Nat) (code : Nat) (high : Option Nat)
  /-- After a high surrogate, before the backslash of its low half. -/
  | pair (high : Nat)

/-- What the reader expects or is in the middle of. Characters read so far are in reverse. -/
inductive Mode where
  | value
  | firstItem
  | firstKey
  | nextKey (fields : List (String × Json))
  | colon (fields : List (String × Json)) (key : String)
  | word (read : List Char)
  | number (read : List Char)
  | text (purpose : Purpose) (read : List Char) (escape : Escape)
  | after (v : Json)

/-- The state of the reader. -/
structure Reader where
  mode : Mode
  stack : List Frame

namespace Reader

/-- The reader before the first character. -/
def start : Reader := ⟨.value, []⟩

/-- The four characters that may stand between tokens. -/
def isBlank (c : Char) : Bool :=
  c = ' ' || c = '\t' || c = '\n' || c = '\r'

/-- The characters of which number literals are made. -/
def isNumeric (c : Char) : Bool :=
  c.isDigit || c = '-' || c = '+' || c = '.' || c = 'e' || c = 'E'

/-- The value of a word. -/
def wordValue? (read : List Char) : Option Json :=
  match read.reverse with
  | ['n', 'u', 'l', 'l'] => some .null
  | ['t', 'r', 'u', 'e'] => some (.bool true)
  | ['f', 'a', 'l', 's', 'e'] => some (.bool false)
  | _ => none

/-- The value of a hexadecimal digit. -/
def hexValue? (c : Char) : Option Nat :=
  if '0' ≤ c ∧ c ≤ '9' then some (c.toNat - 48)
  else if 'a' ≤ c ∧ c ≤ 'f' then some (c.toNat - 87)
  else if 'A' ≤ c ∧ c ≤ 'F' then some (c.toNat - 55)
  else none

/-- The character of a one-letter escape. -/
def shortEscape? (c : Char) : Option Char :=
  match c with
  | '"' => some '"'
  | '\\' => some '\\'
  | '/' => some '/'
  | 'b' => some '\x08'
  | 'f' => some '\x0c'
  | 'n' => some '\n'
  | 'r' => some '\r'
  | 't' => some '\t'
  | _ => none

/-- Open a container, if it does not nest too deep. -/
def enter? (mode : Mode) (stack : List Frame) (frames : List Frame) : Option Reader :=
  if stack.length < maxDepth then some ⟨mode, frames⟩ else none

/-- The first character of a value. -/
def stepValue (stack : List Frame) (c : Char) : Option Reader :=
  if c = '"' then some ⟨.text .value [] .none, stack⟩
  else if c = '[' then enter? .firstItem stack (.array [] :: stack)
  else if c = '\x7b' then enter? .firstKey stack (.object [] "" :: stack)
  else if c = '-' ∨ c.isDigit then some ⟨.number [c], stack⟩
  else if c.isLower then some ⟨.word [c], stack⟩
  else none

/-- What may follow a complete value. -/
def stepAfter (v : Json) (stack : List Frame) (c : Char) : Option Reader :=
  if isBlank c then some ⟨.after v, stack⟩
  else
    match stack with
    | [] => none
    | .array items :: outer =>
      if c = ',' then some ⟨.value, .array (v :: items) :: outer⟩
      else if c = ']' then some ⟨.after (.array (v :: items).reverse), outer⟩
      else none
    | .object fields key :: outer =>
      if c = ',' then some ⟨.nextKey ((key, v) :: fields), outer⟩
      else if c = '\x7d' then some ⟨.after (.object ((key, v) :: fields).reverse), outer⟩
      else none

/-- The end of a text literal. -/
def closeText (purpose : Purpose) (read : List Char) (stack : List Frame) : Reader :=
  let s := String.ofList read.reverse
  match purpose with
  | .value => ⟨.after (.text s), stack⟩
  | .key fields => ⟨.colon fields s, stack⟩

/-- A complete code from an escape: a character, or the first half of a pair. -/
def stepCode (purpose : Purpose) (read : List Char) (code : Nat) (high : Option Nat)
    (stack : List Frame) : Option Reader :=
  match high with
  | some h =>
    if 0xDC00 ≤ code ∧ code < 0xE000 then
      let c := Char.ofNat (0x10000 + (h - 0xD800) * 0x400 + (code - 0xDC00))
      some ⟨.text purpose (c :: read) .none, stack⟩
    else none
  | none =>
    if 0xD800 ≤ code ∧ code < 0xDC00 then some ⟨.text purpose read (.pair code), stack⟩
    else if 0xDC00 ≤ code ∧ code < 0xE000 then none
    else some ⟨.text purpose (Char.ofNat code :: read) .none, stack⟩

/-- One character inside a text literal. -/
def stepText (purpose : Purpose) (read : List Char) (escape : Escape) (stack : List Frame)
    (c : Char) : Option Reader :=
  match escape with
  | .none =>
    if c = '"' then some (closeText purpose read stack)
    else if c = '\\' then some ⟨.text purpose read (.slash none), stack⟩
    else if c < ' ' then none
    else some ⟨.text purpose (c :: read) .none, stack⟩
  | .slash high =>
    if c = 'u' then some ⟨.text purpose read (.hex 4 0 high), stack⟩
    else if high.isSome then none
    else (shortEscape? c).map fun e => ⟨.text purpose (e :: read) .none, stack⟩
  | .hex missing code high =>
    (hexValue? c).bind fun d =>
      if missing ≤ 1 then stepCode purpose read (code * 16 + d) high stack
      else some ⟨.text purpose read (.hex (missing - 1) (code * 16 + d) high), stack⟩
  | .pair high =>
    if c = '\\' then some ⟨.text purpose read (.slash (some high)), stack⟩ else none

/-- Take one character. -/
def step (r : Reader) (c : Char) : Option Reader :=
  match r.mode with
  | .value => if isBlank c then some r else stepValue r.stack c
  | .firstItem =>
    if isBlank c then some r
    else if c = ']' then some ⟨.after (.array []), r.stack.tail⟩
    else stepValue r.stack c
  | .firstKey =>
    if isBlank c then some r
    else if c = '\x7d' then some ⟨.after (.object []), r.stack.tail⟩
    else if c = '"' then some ⟨.text (.key []) [] .none, r.stack.tail⟩
    else none
  | .nextKey fields =>
    if isBlank c then some r
    else if c = '"' then some ⟨.text (.key fields) [] .none, r.stack⟩
    else none
  | .colon fields key =>
    if isBlank c then some r
    else if c = ':' then some ⟨.value, .object fields key :: r.stack⟩
    else none
  | .word read =>
    if c.isLower then some ⟨.word (c :: read), r.stack⟩
    else (wordValue? read).bind fun v => stepAfter v r.stack c
  | .number read =>
    if isNumeric c then some ⟨.number (c :: read), r.stack⟩
    else (readNumber? read.reverse).bind fun v => stepAfter v r.stack c
  | .text purpose read escape => stepText purpose read escape r.stack c
  | .after v => stepAfter v r.stack c

/-- Take a text, character by character. -/
def run (r : Reader) : List Char → Option Reader
  | [] => some r
  | c :: rest =>
    match r.step c with
    | none => none
    | some r' => run r' rest

/-- The value read, once the text has ended outside all containers. -/
def finish (r : Reader) : Option Json :=
  match r.stack with
  | [] =>
    match r.mode with
    | .after v => some v
    | .word read => wordValue? read
    | .number read => readNumber? read.reverse
    | _ => none
  | _ :: _ => none

end Reader

/-- Read a JSON text. -/
def ofChars? (cs : List Char) : Option Json :=
  (Reader.start.run cs).bind Reader.finish

/-- Read a JSON text. -/
def ofString? (s : String) : Option Json :=
  ofChars? s.toList

/-- Read a JSON text from its UTF-8 octets. -/
def ofBytes? (body : ByteArray) : Option Json :=
  (String.fromUTF8? body).bind ofString?

end ChannelGateway.Json
