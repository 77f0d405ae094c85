import ChannelGateway.Json.Basic
import ChannelGateway.Table
import ChannelGateway.Toml.Scalar

/-!
# TOML documents

The reader of `toml` for configuration files. A document is a list of lines, each empty or with one
statement: a header of a table, a header of a further table of an array, or a key and its value. Any
defect makes the whole document unreadable.
-/

namespace ChannelGateway.Toml

/-!
## Tables

A table comes into being by its header, by a header of a table inside it, or by a key with points,
and it matters which: a table is headed once, keys with points do not reach into a headed table, and
a header does not open a table of keys with points. A value that has been given is complete: nothing
is added to it.
-/

/-- How a table has come into being. -/
inductive Origin where
  /-- By a header of a table inside it. -/
  | implied
  /-- By a key with points. -/
  | dotted
  /-- By its own header. -/
  | headed
  deriving DecidableEq, Repr, Inhabited

/-- What stands under a key. -/
inductive Node where
  | value (v : Json)
  | table (origin : Origin) (entries : List (String × Node))
  /-- An array of tables; the last one comes first. -/
  | tables (items : List (List (String × Node)))
  deriving Inhabited

/-- The entries of a table. -/
abbrev Entries := Table String Node

mutual

/-- A node as a JSON value. -/
def Node.toJson : Node → Json
  | .value v => v
  | .table _ entries => .object (Node.entriesToFields entries)
  | .tables items => .array (Node.itemsToJson items).reverse

/-- Entries as JSON fields. -/
def Node.entriesToFields : List (String × Node) → List (String × Json)
  | [] => []
  | (key, node) :: rest => (key, node.toJson) :: Node.entriesToFields rest

/-- Tables as JSON objects. -/
def Node.itemsToJson : List (List (String × Node)) → List Json
  | [] => []
  | entries :: rest => .object (Node.entriesToFields entries) :: Node.itemsToJson rest

end

/-- Entries as a JSON object. -/
def Node.entriesToJson (entries : Entries) : Json :=
  .object (Node.entriesToFields entries)

/-- Change the table that a path leads to. Tables on the way that do not exist come into being with
the given origin; the way of a key with points does not lead through headed tables. -/
def descend (origin : Origin) (change : Origin → Entries → Option Entries) :
    List String → Origin → Entries → Option Entries
  | [], reached, entries => change reached entries
  | key :: path, _, entries =>
    match entries.get? key with
    | none => do
      let inner ← descend origin change path origin []
      return entries.insert key (.table origin inner)
    | some (.value _) => none
    | some (.table o inner) =>
      if origin = .dotted ∧ o = .headed then none
      else do
        let inner ← descend origin change path o inner
        return entries.insert key (.table o inner)
    | some (.tables []) => none
    | some (.tables (last :: others)) => do
      let last ← descend origin change path .headed last
      return entries.insert key (.tables (last :: others))

/-- Give a value to a key that has none. -/
def give (key : String) (v : Json) (entries : Entries) : Option Entries :=
  if entries.contains key then none else some (entries.insert key (.value v))

/-- Give a value to a key, perhaps with points, of a table. -/
def assign (path : List String) (v : Json) (entries : Entries) : Option Entries :=
  match path.reverse with
  | [] => none
  | [key] => give key v entries
  | key :: before =>
    descend .dotted
      (fun reached entries => if reached = .dotted then give key v entries else none)
      before.reverse .headed entries

/-- Open a table by its header. -/
def openTable (path : List String) (root : Entries) : Option Entries :=
  match path.reverse with
  | [] => none
  | key :: before =>
    descend .implied
      (fun _ entries =>
        match entries.get? key with
        | none => some (entries.insert key (.table .headed []))
        | some (.table .implied inner) => some (entries.insert key (.table .headed inner))
        | some _ => none)
      before.reverse .headed root

/-- Open a further table of an array by its header. -/
def openItem (path : List String) (root : Entries) : Option Entries :=
  match path.reverse with
  | [] => none
  | key :: before =>
    descend .implied
      (fun _ entries =>
        match entries.get? key with
        | none => some (entries.insert key (.tables [[]]))
        | some (.tables items) => some (entries.insert key (.tables ([] :: items)))
        | some _ => none)
      before.reverse .headed root

/-- Give a value to a key of the table that a header has opened. -/
def assignUnder (header path : List String) (v : Json) (root : Entries) : Option Entries :=
  descend .implied (fun _ entries => assign path v entries) header .headed root

/-!
## Values

Texts, numbers, dates, truth values, arrays and inline tables. Containers nest at most `depthLimit`
deep. An inline table is complete where it stands; within it, keys with points build tables.
-/

open Scan

/-- How deep containers may nest, and how many parts a key may have. -/
def depthLimit : Nat := 79

/-- Pass over blanks. -/
def blanks : Scan Unit :=
  skip isBlank

/-- A comment. -/
def comment : Scan Unit := do
  char '#'
  skip isPlain

/-- Pass over blanks, comments and line breaks, at most so many lines. -/
def emptyLines : Nat → Scan Unit
  | 0 => blanks
  | fuel + 1 => do
    blanks
    let _ ← optional comment
    if (← optional lineBreak).isSome then emptyLines fuel

/-- Pass over blanks, comments and line breaks. A comment goes to the end of its line. -/
def anyBlanks : Scan Unit :=
  fun cs => emptyLines cs.length cs

/-- A part of a key. -/
def keyPart : Scan String := do
  match ← peek with
  | some '"' => lineText
  | some '\'' => lineText
  | _ => return String.ofList (← run1 fun c => c.isAlphanum || c = '_' || c = '-')

/-- The parts of a key after the first, at most so many. -/
def moreKeyParts : Nat → Scan (List String)
  | 0 => return []
  | fuel + 1 => do
    blanks
    if ← accept '.' then
      blanks
      let part ← keyPart
      return part :: (← moreKeyParts fuel)
    else return []

/-- A key: parts with points between them. -/
def key : Scan (List String) := do
  let first ← keyPart
  let rest ← fun cs => moreKeyParts cs.length cs
  if depthLimit ≤ rest.length then failure
  return first :: rest

/-- A key and its value. -/
def pair (value : Scan Json) : Scan (List String × Json) := do
  let path ← key
  blanks
  char '='
  blanks
  return (path, ← value)

/-- The pairs of an inline table after the first, at most so many. -/
def morePairs (value : Scan Json) : Nat → Scan (List (List String × Json))
  | 0 => failure
  | fuel + 1 => do
    blanks
    if ← accept ',' then
      blanks
      let p ← pair value
      return p :: (← morePairs value fuel)
    char '\x7d'
    return []

/-- An inline table. -/
def inlineTable (value : Scan Json) : Scan Json := do
  char '\x7b'
  blanks
  if ← accept '\x7d' then return .object []
  let first ← pair value
  let rest ← fun cs => morePairs value (cs.length + 1) cs
  let table ← (first :: rest).foldlM (fun entries p => assign p.1 p.2 entries) []
  return Node.entriesToJson table

/-- A value; containers nest at most so deep in it. -/
def value : Nat → Scan Json
  | 0 => failure
  | depth + 1 => do
    match ← peek with
    | some '"' => return .text (← text)
    | some '\'' => return .text (← text)
    | some '[' =>
      if depth = 0 then failure
      else return .array (← bracketed '[' (value depth) anyBlanks ']')
    | some '\x7b' => if depth = 0 then failure else inlineTable (value depth)
    | some 't' => word ['t', 'r', 'u', 'e']; return .bool true
    | some 'f' => word ['f', 'a', 'l', 's', 'e']; return .bool false
    | _ => number

/-! ## Lines -/

/-- What a line says. -/
inductive Statement where
  | table (path : List String)
  | item (path : List String)
  | pair (path : List String) (v : Json)
  deriving Inhabited

/-- The key of a header, between blanks. -/
def headerKey : Scan (List String) := do
  blanks
  let path ← key
  blanks
  return path

/-- A header. -/
def header : Scan Statement := do
  char '['
  if ← accept '[' then
    let path ← headerKey
    word [']', ']']
    return .item path
  let path ← headerKey
  char ']'
  return .table path

/-- A statement. -/
def statement : Scan Statement := do
  if (← peek) = some '[' then header
  else
    let (path, v) ← pair (value (depthLimit + 1))
    return .pair path v

/-- The end of a line: blanks, a comment, and a line break unless the text ends. -/
def lineEnd : Scan Unit := do
  blanks
  let _ ← optional comment
  if (← peek).isSome then lineBreak

/-- The statements of a text of at most so many lines. -/
def statements : Nat → Scan (List Statement)
  | 0 => return []
  | fuel + 1 => do
    anyBlanks
    if (← peek).isNone then return []
    let s ← statement
    lineEnd
    return s :: (← statements fuel)

/-- What a document says so far: its tables, and the header of the current one. -/
structure Draft where
  root : Entries := []
  current : List String := []

/-- Take a statement. -/
def Draft.take (d : Draft) : Statement → Option Draft
  | .table path => return ⟨← openTable path d.root, path⟩
  | .item path => return ⟨← openItem path d.root, path⟩
  | .pair path v => return { d with root := ← assignUnder d.current path v d.root }

/-- The tree of a document; none when it is no TOML text. -/
def read? (s : String) : Option Json := do
  let cs := match s.toList with
    | '\ufeff' :: rest => rest
    | cs => cs
  let list ← (statements (cs.length + 1)).whole? cs
  let draft ← list.foldlM Draft.take {}
  return Node.entriesToJson draft.root

end ChannelGateway.Toml
