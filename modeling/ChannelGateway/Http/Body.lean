import ChannelGateway.Failure
import ChannelGateway.Gateway.Request
import ChannelGateway.Json.Reader

/-!
# Request bodies

Model of `parse_digital_out`, `parse_voltage_out`, `parse_digital_in` and `parse_close`, and of
`ApiError`, which answers a request that has failed.

The body of a request is a JSON object. Its fields are checked in a fixed order and the first defect
decides the answer: the object itself, the presence of the required fields, the name, the target
state, the voltage range, the channel, the hub port. Fields that an endpoint does not know are
ignored. An input is opened all or nothing: every defect of its body has the same answer.
-/

namespace ChannelGateway

/-!
## Rejections

A rejection has a status and a plain text. The name it is about is kept for the log and not sent.
-/

/-- The answer to a request that failed. -/
structure Rejection where
  status : Nat
  message : String
  /-- The name that the request was about. -/
  resource : Option String
  deriving DecidableEq, Repr, Inhabited

namespace Rejection

/-- The answer to a request that is wrong in itself. -/
def badRequest (message : String) : Rejection :=
  ⟨400, message, none⟩

/-- The answer to a request that the gateway could not serve. -/
def ofError (e : GatewayError) : Rejection :=
  ⟨e.status, e.text, e.resource?⟩

end Rejection

/-! ## Endpoints -/

/-- What a request asks for. -/
inductive Endpoint where
  | digitalOut
  | voltageOut
  | digitalIn
  | close
  deriving DecidableEq, Repr, Inhabited

namespace Endpoint

/-- The name of an endpoint. -/
def label : Endpoint → String
  | digitalOut => "digital_out"
  | voltageOut => "voltage_out"
  | digitalIn => "digital_in"
  | close => "close"

/-- Every endpoint. -/
def all : List Endpoint := [digitalOut, voltageOut, digitalIn, close]

/-- The endpoint that has a name. -/
def ofName? (name : String) : Option Endpoint :=
  all.find? fun e => e.label = name

/-- The fields without which a body is refused. -/
def required : Endpoint → List String
  | digitalOut => ["name", "target_state"]
  | voltageOut => ["name", "target_state"]
  | digitalIn => ["name", "channel", "hub_port"]
  | close => ["name"]

/-- What a body has to hold. -/
def usage : Endpoint → String
  | digitalOut => "requires name (str) and target_state (bool)"
  | voltageOut => "requires name (str) and target_state (float)"
  | digitalIn => "requires name (str), channel (int), hub_port (int)"
  | close => "requires name (str)"

end Endpoint

/-- What is wrong with a body. -/
inductive BodyDefect where
  | notAnObject
  /-- The body does not hold what the endpoint requires. -/
  | incomplete (endpoint : Endpoint)
  | nameNotText
  | stateNotBool
  | voltageNotNumber
  | voltageOutOfRange
  | notAnInteger (field : String)
  deriving DecidableEq, Repr, Inhabited

namespace BodyDefect

/-- The wording of a defect. -/
def text : BodyDefect → String
  | notAnObject => "bad request"
  | incomplete endpoint => endpoint.usage
  | nameNotText => "name must be a string"
  | stateNotBool => "target_state must be a boolean"
  | voltageNotNumber => "target_state must be an int or float"
  | voltageOutOfRange => "target_state must be +/- 10V"
  | notAnInteger field => s!"{field} must be an integer"

/-- The answer to a body with a defect. -/
def rejection (d : BodyDefect) : Rejection :=
  .badRequest d.text

end BodyDefect

namespace Body

/-- The fields of a JSON object. -/
abbrev Fields := List (String × Json)

/-- The value of an option, or a defect. -/
def orDefect {α : Type} (d : BodyDefect) (o : Option α) : Except BodyDefect α :=
  match o with
  | some v => .ok v
  | none => .error d

/-- The fields of a body. -/
def object (body : ByteArray) : Except BodyDefect Fields :=
  match Json.ofBytes? body with
  | some (.object fields) => .ok fields
  | _ => .error .notAnObject

/-- The value of a field, read in a way. -/
def field? {α : Type} (fields : Fields) (key : String) (read : Json → Option α) : Option α :=
  (Json.lookup fields key).bind read

/-- Refuse a body that lacks a required field. -/
def requireAll (endpoint : Endpoint) (fields : Fields) : Except BodyDefect Unit :=
  if endpoint.required.all (Json.has fields) then .ok () else .error (.incomplete endpoint)

/-- The name. -/
def name (fields : Fields) : Except BodyDefect String :=
  orDefect .nameNotText (field? fields "name" Json.asText?)

/-- A field of the address; without it the request is for a resource that is already open. -/
def addressField (fields : Fields) (key : String) : Except BodyDefect Int32 :=
  match Json.lookup fields key with
  | none => .ok Address.useExisting
  | some v => orDefect (.notAnInteger key) v.asInt32?

/-- The address. -/
def address (fields : Fields) : Except BodyDefect Address := do
  let channel ← addressField fields "channel"
  let hubPort ← addressField fields "hub_port"
  return ⟨channel, hubPort⟩

/-- A voltage within range. -/
def voltage (fields : Fields) : Except BodyDefect Float := do
  let volts ← orDefect .voltageNotNumber (field? fields "target_state" Json.asFloat?)
  if inVoltageRange volts then .ok volts else .error .voltageOutOfRange

/-- The subscriber of an input; an absent, null or empty one is none. -/
def webhook (fields : Fields) : Except BodyDefect (Option String) :=
  match Json.lookup fields "webhook" with
  | none => .ok none
  | some .null => .ok none
  | some (.text url) => .ok (if url = "" then none else some url)
  | some _ => .error (.incomplete .digitalIn)

/-- A request to set a digital output. -/
def digitalOut (fields : Fields) : Except BodyDefect Call := do
  requireAll .digitalOut fields
  let name ← name fields
  let state ← orDefect .stateNotBool (field? fields "target_state" Json.asBool?)
  return .digitalOut name state (← address fields)

/-- A request to set a voltage output. -/
def voltageOut (fields : Fields) : Except BodyDefect Call := do
  requireAll .voltageOut fields
  let name ← name fields
  let volts ← voltage fields
  return .voltageOut name volts (← address fields)

/-- A request to open a digital input. -/
def digitalIn (fields : Fields) : Except BodyDefect Call := do
  let incomplete := BodyDefect.incomplete .digitalIn
  let name ← orDefect incomplete (field? fields "name" Json.asText?)
  let channel ← orDefect incomplete (field? fields "channel" Json.asInt32?)
  let hubPort ← orDefect incomplete (field? fields "hub_port" Json.asInt32?)
  return .digitalIn name ⟨channel, hubPort⟩ (← webhook fields)

/-- A request to close a name. -/
def close (fields : Fields) : Except BodyDefect Call := do
  requireAll .close fields
  return .close (← name fields)

end Body

/-- The call that a body makes at an endpoint, or its first defect. -/
def Endpoint.read (endpoint : Endpoint) (body : ByteArray) : Except BodyDefect Call :=
  match endpoint, Body.object body with
  | .digitalIn, .error _ => .error (.incomplete .digitalIn)
  | _, .error d => .error d
  | .digitalOut, .ok fields => Body.digitalOut fields
  | .voltageOut, .ok fields => Body.voltageOut fields
  | .digitalIn, .ok fields => Body.digitalIn fields
  | .close, .ok fields => Body.close fields

end ChannelGateway
