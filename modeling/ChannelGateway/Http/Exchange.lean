import ChannelGateway.Http.Server
import ChannelGateway.Url.Basic

/-!
# Exchanges with other servers

What `GatewayClient` and `HttpWebhookTransport` make of a network. A message goes to the server that
its URL names, and the server's response comes back after a while. A `Network` says what becomes of
each message; `exchange` is one exchange over a network by somebody who waits for a limited time.
-/

namespace ChannelGateway.Http

/-- A message to a server. -/
structure Message where
  method : String
  url : Url
  contentType : Option String
  userAgent : Option String
  body : String
  deriving DecidableEq, Repr

namespace Message

/-- A message that fetches what is at a URL. -/
def fetch (url : Url) : Message :=
  ⟨"GET", url, none, none, ""⟩

/-- A message that posts a JSON value to a URL. -/
def post (url : Url) (v : Json) : Message :=
  ⟨"POST", url, some "application/json", none, v.compact⟩

/-- The request that the server sees. -/
def request (m : Message) : Request :=
  ⟨m.method, m.url.target, m.body.toUTF8⟩

end Message

/-- A response that comes after so many milliseconds. -/
structure Arrival where
  after : Nat
  response : Response
  deriving DecidableEq, Repr, Inhabited

/-- What becomes of messages; none when the server cannot be reached. -/
abbrev Network := Message → Option Arrival

/-- The network on which no server can be reached. -/
def Network.down : Network :=
  fun _ => none

/-- Why an exchange has no response. -/
inductive ExchangeError where
  /-- No request can be made to the URL. -/
  | unsendable
  | timedOut
  | unreachable
  deriving DecidableEq, Repr, Inhabited

/-- The wording of a failed exchange. -/
def ExchangeError.text : ExchangeError → String
  | unsendable => "builder error"
  | timedOut => "operation timed out"
  | unreachable => "error sending request"

/-- Send a message and wait for its response, less long than a timeout in milliseconds. -/
def exchange (network : Network) (timeout : Nat) (m : Message) : Except ExchangeError Response :=
  if m.url.isSendable then
    match network m with
    | none => .error .unreachable
    | some arrival => if arrival.after < timeout then .ok arrival.response else .error .timedOut
  else .error .unsendable

end ChannelGateway.Http
