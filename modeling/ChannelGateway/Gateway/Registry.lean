import ChannelGateway.Hub.Io
import ChannelGateway.Json.Basic
import ChannelGateway.Table

/-!
# The registry: which names are open

Model of `NamedResource`, `ResourceStatus` and the `Entries` of `ResourceRegistry`: `resolve`,
`name_for`, `insert`, `remove_if_bound`, `remove_by_channel` and `drain`.

Two indexes, by name and by channel identity. A name is removed together with its channel, and only
while it is still bound to that channel, so an event of an old channel does not touch a name that
has been opened again. Identities are given out in order, from 1, and never twice.

Results: each operation through the views `resolve` and `nameFor`; a removal either finds nothing
and changes nothing, or drops one name together with one identity (`removeChannel_cases`).
-/

namespace ChannelGateway

/-!
## Resources

A resource is a name bound to a channel of the hub. Its status record holds the name, the kind it
was opened as, and what the channel reads: a state, a voltage, or why it could not be read.
-/

/-- A name bound to a channel. -/
structure Resource where
  name : String
  /-- The kind the name was opened as. -/
  kind : ChannelKind
  /-- The serial number of the channel. -/
  serial : Nat
  spec : ChannelSpec
  deriving DecidableEq, Repr, Inhabited

/-- The identity of the channel of a resource. -/
def Resource.id (r : Resource) : ChannelId := r.spec.id

/-- What a status record says about a channel. -/
inductive Reading where
  | state (b : Bool)
  | voltage (volts : Float)
  | unavailable (reason : String)
  deriving Repr, Inhabited

/-- A status record. -/
structure Status where
  name : String
  kind : ChannelKind
  reading : Reading
  deriving Repr, Inhabited

/-- The field of a reading. -/
def Reading.field : Reading → String × Json
  | state b => ("state", .bool b)
  | voltage volts => ("voltage", .float volts)
  | unavailable reason => ("error", .text reason)

/-- A status record as a JSON object. -/
def Status.toJson (s : Status) : Json :=
  .object [("name", .text s.name), ("type", .text s.kind.label), s.reading.field]

/-- Status records as a JSON array. -/
def Status.listToJson (statuses : List Status) : Json :=
  .array (statuses.map Status.toJson)

/-- The reading of an operation's result. -/
def Reading.ofResult : Except HubFailure Reply → Reading
  | .ok (.state b) => .state b
  | .ok (.voltage volts) => .voltage volts
  | .ok .done => .state false
  | .error f => .unavailable f.error.text

/-! ## Entries -/

/-- The names that are open. -/
structure Registry where
  byName : Table String Resource
  byChannel : Table ChannelId String
  /-- The identity of the next channel. -/
  nextId : ChannelId
  deriving Repr

namespace Registry

/-- The registry in which no name is open. -/
def empty : Registry := ⟨[], [], 1⟩

/-- The resource of a name. -/
def resolve (r : Registry) (name : String) : Option Resource :=
  r.byName.get? name

/-- The name that a channel is registered under. -/
def nameFor (r : Registry) (id : ChannelId) : Option String :=
  r.byChannel.get? id

/-- How many names are open. -/
def size (r : Registry) : Nat :=
  r.byName.length

/-- Every resource, in order of registration. -/
def resources (r : Registry) : List Resource :=
  r.byName.values

/-- Register a resource under its name and under its channel. -/
def insert (r : Registry) (resource : Resource) : Registry :=
  { r with
    byName := r.byName.insert resource.name resource
    byChannel := r.byChannel.insert resource.id resource.name }

/-- Remove a name while it is bound to a channel. -/
def removeIfBound (r : Registry) (name : String) (id : ChannelId) : Option Resource × Registry :=
  match r.resolve name with
  | none => (none, r)
  | some resource =>
    if resource.id = id then
      (some resource, { r with byName := r.byName.erase name, byChannel := r.byChannel.erase id })
    else (none, r)

/-- Remove the name that is bound to a channel. -/
def removeChannel (r : Registry) (id : ChannelId) : Option Resource × Registry :=
  match r.nameFor id with
  | none => (none, r)
  | some name => r.removeIfBound name id

/-- Remove every name. -/
def drain (r : Registry) : List Resource × Registry :=
  (r.resources, { r with byName := [], byChannel := [] })

/-- Give out the next identity. -/
def takeId (r : Registry) : ChannelId × Registry :=
  (r.nextId, { r with nextId := r.nextId + 1 })

@[simp]
theorem resolve_empty (name : String) : empty.resolve name = none := rfl

@[simp]
theorem nameFor_empty (id : ChannelId) : empty.nameFor id = none := rfl

theorem resolve_insert (r : Registry) (resource : Resource) (name : String) :
    (r.insert resource).resolve name =
      if resource.name = name then some resource else r.resolve name :=
  Table.get?_insert ..

theorem nameFor_insert (r : Registry) (resource : Resource) (id : ChannelId) :
    (r.insert resource).nameFor id =
      if resource.id = id then some resource.name else r.nameFor id :=
  Table.get?_insert ..

@[simp]
theorem nextId_takeId (r : Registry) : r.takeId.2.nextId = r.nextId + 1 := rfl

@[simp]
theorem resolve_drain (r : Registry) (name : String) : r.drain.2.resolve name = none := rfl

@[simp]
theorem nameFor_drain (r : Registry) (id : ChannelId) : r.drain.2.nameFor id = none := rfl

/-- Drop a name and an identity. -/
def drop (r : Registry) (name : String) (id : ChannelId) : Registry :=
  { r with byName := r.byName.erase name, byChannel := r.byChannel.erase id }

theorem resolve_drop (r : Registry) (name other : String) (id : ChannelId) :
    (r.drop name id).resolve other = if name = other then none else r.resolve other :=
  Table.get?_erase ..

theorem nameFor_drop (r : Registry) (name : String) (id other : ChannelId) :
    (r.drop name id).nameFor other = if id = other then none else r.nameFor other :=
  Table.get?_erase ..

theorem removeIfBound_bound {r : Registry} {name : String} {resource : Resource}
    (h : r.resolve name = some resource) :
    r.removeIfBound name resource.id = (some resource, r.drop name resource.id) := by
  simp [removeIfBound, h, drop]

/-- A removal by name and identity finds nothing, or the resource of both. -/
theorem removeIfBound_cases (r : Registry) (name : String) (id : ChannelId) :
    r.removeIfBound name id = (none, r) ∨
      ∃ resource, r.resolve name = some resource ∧ resource.id = id ∧
        r.removeIfBound name id = (some resource, r.drop name id) := by
  unfold removeIfBound
  cases h : r.resolve name with
  | none => exact .inl rfl
  | some resource =>
    by_cases hid : resource.id = id
    · exact .inr ⟨resource, rfl, hid, if_pos hid⟩
    · exact .inl (if_neg hid)

/-- A removal by identity finds nothing, or the resource that the identity is registered for. -/
theorem removeChannel_cases (r : Registry) (id : ChannelId) :
    r.removeChannel id = (none, r) ∨
      ∃ name resource, r.nameFor id = some name ∧ r.resolve name = some resource ∧
        resource.id = id ∧ r.removeChannel id = (some resource, r.drop name id) := by
  unfold removeChannel
  cases h : r.nameFor id with
  | none => exact .inl rfl
  | some name =>
    rcases r.removeIfBound_cases name id with hn | ⟨resource, hr, hid, hs⟩
    · exact .inl hn
    · exact .inr ⟨name, resource, rfl, hr, hid, hs⟩

end Registry

end ChannelGateway
