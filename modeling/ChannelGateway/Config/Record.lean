import ChannelGateway.Json.Basic
import ChannelGateway.Table

/-!
# Reading typed values from trees

How `figment` and the derived readers of the configuration take values. A setting is a null, a truth
value, a number, a character, a text, an array or a table (`Tree`). A `Decoder` reads a typed value
from a tree or says where and how the tree does not fit. A record is given by name or as an array of
its fields in order. The fields of a named record are looked at in the order of their names, then
the missing ones are noticed in the order of the type; the fields of an array are looked at in
order.
-/

namespace ChannelGateway

/-!
## Trees of settings

Trees come from JSON values (`Tree.ofJson`) and from the environment; only there a number can be a
`natural`, a number without a sign, and only there a single character is told from a text. Laying a
tree over another one merges tables key by key and replaces all else.
-/

/-- A tree of settings. -/
inductive Tree where
  | null
  | bool (b : Bool)
  /-- A number without a sign, which can also tell one of several values by its place. -/
  | natural (n : Nat)
  | int (n : Int)
  | float (x : Float)
  | char (c : Char)
  | text (s : String)
  | array (items : List Tree)
  | object (fields : List (String × Tree))
  deriving Inhabited

namespace Tree

mutual

/-- The tree of a JSON value. -/
def ofJson : Json → Tree
  | .null => .null
  | .bool b => .bool b
  | .int n => .int n
  | .float x => .float x
  | .text s => .text s
  | .array items => .array (ofItems items)
  | .object fields => .object (ofFields fields)

/-- The trees of the items of a JSON array. -/
def ofItems : List Json → List Tree
  | [] => []
  | v :: rest => ofJson v :: ofItems rest

/-- The fields of a JSON object, with the trees of their values. -/
def ofFields : List (String × Json) → List (String × Tree)
  | [] => []
  | (key, v) :: rest => (key, ofJson v) :: ofFields rest

end

/-- The value of the last field with a key. -/
def lookup (fields : List (String × Tree)) (key : String) : Option Tree :=
  fields.foldl (fun found field => if field.1 = key then some field.2 else found) none

/-- The keys of some fields, each once. -/
def keys (fields : List (String × Tree)) : List String :=
  (fields.map Prod.fst).eraseDups

/-- Whether a tree says nothing: a null or a table without entries. -/
def isEmpty : Tree → Bool
  | .null => true
  | .object [] => true
  | _ => false

/-- The integer of a number without a fraction. -/
def asInt? : Tree → Option Int
  | .natural n => some (Int.ofNat n)
  | .int n => some n
  | _ => none

/-- Any number, an integer rounded to the nearest `Float`. -/
def asFloat? : Tree → Option Float
  | .float x => some x
  | v => v.asInt?.map Float.ofInt

/-- A text; a character is one. -/
def asText? : Tree → Option String
  | .text s => some s
  | .char c => some (String.ofList [c])
  | _ => none

/-- A tree in which a path of keys leads to a value. -/
def nested (path : List String) (v : Tree) : Tree :=
  path.foldr (fun key inner => .object [(key, inner)]) v

mutual

/-- Lay a tree over another one. -/
def overlay (base : Tree) : Tree → Tree
  | .object fields =>
    match base with
    | .object under => .object (overlayFields under fields)
    | _ => .object (overlayFields [] fields)
  | v => v

/-- Lay fields over others. -/
def overlayFields (under : List (String × Tree)) : List (String × Tree) → List (String × Tree)
  | [] => under
  | (key, v) :: rest =>
    let laid := match Table.get? under key with
      | some old => overlay old v
      | none => v
    overlayFields (Table.insert under key laid) rest

end

mutual

/-- The paths of keys in a tree. -/
def paths : Tree → List (List String)
  | .object fields => fieldPaths fields
  | _ => []

/-- The paths of keys that begin in some fields. -/
def fieldPaths : List (String × Tree) → List (List String)
  | [] => []
  | (key, v) :: rest => [key] :: (paths v).map (key :: ·) ++ fieldPaths rest

end

end Tree

/-! ## Decoders -/

/-- How a tree does not fit. -/
inductive MismatchKind where
  | wrongType
  | outOfRange
  | unknownName
  | missingField
  | wrongLength
  deriving DecidableEq, Repr, Inhabited

/-- The wording of a mismatch. -/
def MismatchKind.text : MismatchKind → String
  | wrongType => "a value of the wrong type"
  | outOfRange => "a number out of range"
  | unknownName => "an unknown name"
  | missingField => "a missing field"
  | wrongLength => "a list of the wrong length"

/-- How and where a tree does not fit. -/
structure Mismatch where
  kind : MismatchKind
  /-- Names and indexes from the root of the tree. -/
  path : List String
  deriving DecidableEq, Repr, Inhabited

/-- The path with points between its parts. -/
def Mismatch.key (m : Mismatch) : String :=
  ".".intercalate m.path

/-- A result, or how a tree does not fit. -/
abbrev Decoded (α : Type) := Except Mismatch α

namespace Decoded

variable {α : Type}

/-- The tree does not fit here. -/
def refuse (kind : MismatchKind) : Decoded α :=
  .error ⟨kind, []⟩

/-- The result of a part of a tree. -/
def within (place : String) (d : Decoded α) : Decoded α :=
  match d with
  | .ok v => .ok v
  | .error m => .error { m with path := place :: m.path }

/-- The result of a part of which only the whole is known when it does not fit. -/
def asWhole (d : Decoded α) : Decoded α :=
  match d with
  | .ok v => .ok v
  | .error m => .error { m with path := [] }

/-- How the tree does not fit, if it does not. -/
def mismatch? (d : Decoded α) : Option Mismatch :=
  match d with
  | .ok _ => none
  | .error m => some m

end Decoded

/-- A way to read a tree. -/
abbrev Decoder (α : Type) := Tree → Decoded α

namespace Decoder

variable {α : Type}

/-- A text. -/
def text : Decoder String := fun v =>
  match v.asText? with
  | some s => .ok s
  | none => .refuse .wrongType

/-- A truth value. -/
def truth : Decoder Bool
  | .bool b => .ok b
  | _ => .refuse .wrongType

/-- A number; an integer is one. -/
def number : Decoder Float := fun v =>
  match v.asFloat? with
  | some x => .ok x
  | none => .refuse .wrongType

/-- An integer from `low` to `high`. -/
def integer (low high : Int) : Decoder Int := fun v =>
  match v.asInt? with
  | some n => if low ≤ n ∧ n ≤ high then .ok n else .refuse .outOfRange
  | none => .refuse .wrongType

/-- A natural number of 16 bits. -/
def word16 : Decoder UInt16 := fun v =>
  (integer 0 65535 v).map fun n => UInt16.ofNat n.toNat

/-- A natural number of 32 bits. -/
def word32 : Decoder UInt32 := fun v =>
  (integer 0 4294967295 v).map fun n => UInt32.ofNat n.toNat

/-- A natural number of 64 bits. -/
def word64 : Decoder UInt64 := fun v =>
  (integer 0 18446744073709551615 v).map fun n => UInt64.ofNat n.toNat

/-- An integer of 32 bits with sign. -/
def signed32 : Decoder Int32 := fun v =>
  (integer Int32.minValue.toInt Int32.maxValue.toInt v).map Int32.ofInt

/-- A value or null. -/
def optional (d : Decoder α) : Decoder (Option α)
  | .null => .ok none
  | v => (d v).map some

/-- The items of a list from an index on. -/
def items (d : Decoder α) (index : Nat) : List Tree → Decoded (List α)
  | [] => .ok []
  | v :: rest =>
    match (d v).within (toString index) with
    | .error m => .error m
    | .ok first => (items d (index + 1) rest).map (first :: ·)

/-- A list. -/
def listOf (d : Decoder α) : Decoder (List α)
  | .array vs => items d 0 vs
  | _ => .refuse .wrongType

/-- The value of a list that has a label. -/
def withLabel? (all : List α) (label : α → String) (name : String) : Option α :=
  all.find? fun a => label a = name

/-- The value that has a name. -/
def named (find? : String → Option α) (name : String) : Decoded α :=
  match find? name with
  | some v => .ok v
  | none => .refuse .unknownName

/-- The field of an object whose key comes first. -/
def leastField? (fields : List (String × Tree)) : Option (String × Tree) :=
  fields.foldl
    (fun least field =>
      match least with
      | none => some field
      | some f => if field.1 < f.1 then some field else some f)
    none

/-- One of several values by its name; the name may also stand alone in an object, with null. -/
def choice (find? : String → Option α) : Decoder α
  | .text name => named find? name
  | .object fields =>
    match leastField? fields with
    | none => .refuse .wrongType
    | some (name, _) =>
      match named find? name, Tree.lookup fields name with
      | .error m, _ => Decoded.within name (.error m)
      | .ok a, some .null =>
        if fields.all fun field => field.1 = name then .ok a else .refuse .wrongType
      | .ok _, _ => Decoded.within name (.refuse .wrongType)
  | _ => .refuse .wrongType

/-- One of several values by its name, where the whole has been taken in before: the name may also
stand in an object, as its only key and with nothing to say. -/
def choiceWithin (find? : String → Option α) : Decoder α
  | .text name => named find? name
  | .object fields =>
    match Tree.keys fields with
    | [name] =>
      match named find? name, Tree.lookup fields name with
      | .ok a, some v => if v.isEmpty then .ok a else .refuse .wrongType
      | d, _ => d
    | _ => .refuse .outOfRange
  | _ => .refuse .wrongType

/-- One of several values by its name or, if it is a number without a sign, by its place. -/
def choiceOrPlace (all : List α) (label : α → String) : Decoder α
  | .natural n =>
    match all[n]? with
    | some a => .ok a
    | none => .refuse .outOfRange
  | v =>
    match v.asText? with
    | some name => named (withLabel? all label) name
    | none => .refuse .wrongType

end Decoder

/-- The fields of a record. -/
inductive Record where
  | named (fields : List (String × Tree))
  | positional (items : List Tree)
  deriving Inhabited

namespace Record

variable {α : Type}

/-- A field, with its place in the tree. -/
def find? (r : Record) (index : Nat) (key : String) : Option (String × Tree) :=
  match r with
  | named fields => (Tree.lookup fields key).map fun v => (key, v)
  | positional items => items[index]?.map fun v => (toString index, v)

/-- What is wrong when a field is missing. -/
def absence : Record → MismatchKind
  | named _ => .missingField
  | positional _ => .wrongLength

/-- A field that may be missing. -/
def field (r : Record) (index : Nat) (key : String) (d : Decoder α) (default : α) : Decoded α :=
  match r.find? index key with
  | some (place, v) => (d v).within place
  | none => .ok default

/-- A field that may not be missing. -/
def required (r : Record) (index : Nat) (key : String) (d : Decoder α) : Decoded α :=
  match r.find? index key with
  | some (place, v) => (d v).within place
  | none => .refuse r.absence

/-- Of two mismatches of a named record the one that is noticed first: a field that does not fit
comes before a field that is missing. -/
def earlier (m m' : Mismatch) : Mismatch :=
  match m.path, m'.path with
  | _, [] => m
  | [], _ => m'
  | place :: _, place' :: _ => if place' < place then m' else m

/-- Of the mismatches of a record's fields, in the order of the type, the one that is noticed
first. -/
def first? (r : Record) (mismatches : List (Option Mismatch)) : Option Mismatch :=
  match r, mismatches.filterMap id with
  | _, [] => none
  | named _, m :: rest => some (rest.foldl earlier m)
  | positional _, m :: _ => some m

/-- The result of a record, unless one of its fields does not fit. -/
def settle (r : Record) (mismatches : List (Option Mismatch)) (result : Decoded α) : Decoded α :=
  match r.first? mismatches with
  | some m => .error m
  | none => result

end Record

/-- How strict reading is. -/
inductive Strictness where
  /-- A record given as an array has no items beyond its fields. -/
  | exact
  /-- Items beyond the fields are ignored. -/
  | lenient
  deriving DecidableEq, Repr, Inhabited

/-- A record with so many fields. -/
def Decoder.record {α : Type} (strictness : Strictness) (size : Nat) (read : Record → Decoded α) :
    Decoder α
  | .object fields => read (.named fields)
  | .array items =>
    if strictness = .exact ∧ size < items.length then .refuse .wrongLength
    else read (.positional items)
  | _ => .refuse .wrongType

end ChannelGateway
