import ChannelGateway.Config.Record
import ChannelGateway.Http.Body
import ChannelGateway.Http.Exchange
import ChannelGateway.Json.Reader
import ChannelGateway.Json.Writer
import ChannelGateway.Url.Read

/-!
# Clients of a gateway

Model of `GatewayClient`: `set_digital_output`, `set_voltage_output`, `open_digital_input`, `close`
and `state`, over its `post_json`.

A client knows the URL of a gateway. It makes calls and fetches the status records, each in one
exchange: what it sends and what it makes of a response are functions of their own. Only a response
with status 200 is one of success; the text of any other says why the call failed.
-/

namespace ChannelGateway

/-!
## Calls as messages

A call goes to the endpoint of its kind, as a JSON object with the fields that the endpoint reads.
The address is always given; a webhook only if there is one.
-/

namespace Call

/-- The endpoint of a call. -/
def endpoint : Call → Endpoint
  | digitalOut _ _ _ => .digitalOut
  | voltageOut _ _ _ => .voltageOut
  | digitalIn _ _ _ => .digitalIn
  | close _ => .close

/-- The fields of an address. -/
def addressFields (a : Address) : List (String × Json) :=
  [("channel", .int a.channel.toInt), ("hub_port", .int a.hubPort.toInt)]

/-- A call as a JSON object. -/
def toJson : Call → Json
  | digitalOut name state address =>
    .object ([("name", .text name), ("target_state", .bool state)] ++ addressFields address)
  | voltageOut name volts address =>
    .object ([("name", .text name), ("target_state", .float volts)] ++ addressFields address)
  | digitalIn name address webhook =>
    .object (("name", .text name) :: addressFields address ++
      webhook.toList.map fun url => ("webhook", .text url))
  | close name => .object [("name", .text name)]

end Call

/-!
## Status records as a client reads them

A `ChannelStatus` needs a name and a type; what the channel reads is there or not. Fields that a
client does not know are ignored, and a field that it knows occurs once.
-/

/-- A status record. -/
structure Report where
  name : String
  /-- The name of a kind of channel. -/
  kind : String
  state : Option Bool
  voltage : Option Float
  deriving Repr, Inhabited

namespace Report

/-- The fields of a status record. -/
def keys : List String := ["name", "type", "state", "voltage"]

/-- Whether a field that counts occurs more than once. -/
def repeats (fields : List (String × Tree)) : Bool :=
  keys.any fun key => 1 < (fields.filter fun field => field.1 = key).length

/-- A status record of its fields. -/
def ofRecord (r : Record) : Decoded Report := do
  let name ← r.required 0 "name" Decoder.text
  let kind ← r.required 1 "type" Decoder.text
  let state ← r.field 2 "state" (Decoder.optional Decoder.truth) none
  let voltage ← r.field 3 "voltage" (Decoder.optional Decoder.number) none
  return ⟨name, kind, state, voltage⟩

/-- A status record. -/
def decode : Decoder Report
  | .object fields =>
    if repeats fields then .refuse .wrongType else ofRecord (.named fields)
  | v => Decoder.record .exact keys.length ofRecord v

/-- The status records of a text; none when it does not hold any. -/
def ofText? (s : String) : Option (List Report) :=
  (Json.ofString? s).bind fun v => (Decoder.listOf decode (Tree.ofJson v)).toOption

end Report

/-! ## Exchanges -/

/-- Why a client does not get what it asks for. -/
inductive ClientError where
  | badUrl (e : UrlError)
  | noResponse (e : Http.ExchangeError)
  /-- A response of success does not hold status records. -/
  | unreadable
  | refused (status : Nat) (body : String)
  deriving DecidableEq, Repr, Inhabited

namespace ClientError

/-- The wording of an error. -/
def text : ClientError → String
  | badUrl e => s!"Invalid URL: {e.text}"
  | noResponse e => s!"HTTP request failed: {e.text}"
  | unreadable => "HTTP request failed: error decoding response body"
  | refused status body => s!"Gateway returned HTTP {status}: {body}"

/-- The status of the response that refused what was asked for. -/
def status? : ClientError → Option Nat
  | refused status _ => some status
  | _ => none

end ClientError

/-- A client. -/
structure Client where
  /-- The URL of the gateway; relative ones are joined to it. -/
  base : Url
  /-- How long to wait for a response, in milliseconds. -/
  timeout : Nat := 5000
  deriving DecidableEq, Repr

namespace Client

/-- The client of a gateway at a URL. -/
def ofBase (base : String) : Except ClientError Client :=
  match Url.read base with
  | .ok url => .ok { base := url.asDirectory }
  | .error e => .error (.badUrl e)

/-- The URL of a relative path. -/
def url (c : Client) (path : String) : Except ClientError Url :=
  (c.base.join path).mapError .badUrl

/-- The message that makes a call. -/
def message (c : Client) (call : Call) : Except ClientError Http.Message := do
  let url ← c.url ("phidgets/" ++ call.endpoint.label)
  return .post url call.toJson

/-- The message that fetches the status records. -/
def query (c : Client) : Except ClientError Http.Message := do
  let url ← c.url "phidgets/state.json"
  return .fetch url

/-- The text of a response of success. -/
def content (r : Http.Response) : Except ClientError String :=
  if r.status = 200 then .ok r.body else .error (.refused r.status r.body)

/-- The status records of a response. -/
def reports (r : Http.Response) : Except ClientError (List Report) := do
  let text ← content r
  match Report.ofText? text with
  | some reports => return reports
  | none => .error .unreadable

/-- Make a call over a network. -/
def perform (c : Client) (network : Http.Network) (call : Call) : Except ClientError Unit := do
  let m ← c.message call
  let response ← (Http.exchange network c.timeout m).mapError .noResponse
  let _ ← content response

/-- Fetch the status records over a network. -/
def fetch (c : Client) (network : Http.Network) : Except ClientError (List Report) := do
  let m ← c.query
  let response ← (Http.exchange network c.timeout m).mapError .noResponse
  reports response

end Client

end ChannelGateway
