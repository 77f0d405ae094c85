import ChannelGateway.Gateway.Basic
import ChannelGateway.Gateway.Delivery
import ChannelGateway.Http.Exchange
import ChannelGateway.Url.Read

/-!
# Building a gateway

Model of `GatewayService`'s `new`, and of the `HttpWebhookTransport` that it builds. A gateway needs
a sender for its webhooks and something to run the deliveries on. It is built with nothing open.
-/

namespace ChannelGateway

/-!
## Sending state changes

A state change is posted to its subscriber as a JSON object, under the user agent that the gateway
is configured with. Any response of success will do.
-/

/-- Why a state change is not delivered. -/
inductive WebhookError where
  /-- What is configured cannot stand in a request. -/
  | malformed
  | noResponse (e : Http.ExchangeError)
  | refused (url : String) (status : Nat)
  deriving DecidableEq, Repr, Inhabited

/-- The wording of an error. -/
def WebhookError.text : WebhookError → String
  | malformed => "webhook request failed: builder error"
  | noResponse e => s!"webhook request failed: {e.text}"
  | refused url status => s!"webhook {url} answered {status}"

/-- Whether a text can be the value of a header: no control characters but the tab. -/
def isHeaderText (s : String) : Bool :=
  s.toList.all fun c => (' ' ≤ c && c ≠ '\x7f') || c = '\t'

/-- What sends state changes. -/
structure Sender where
  userAgent : String
  /-- How long to wait for a response, in milliseconds. -/
  timeout : Nat
  deriving DecidableEq, Repr, Inhabited

namespace Sender

/-- A sender with a user agent. -/
def ofUserAgent (userAgent : String) (timeout : Nat) : Except WebhookError Sender :=
  if isHeaderText userAgent then .ok ⟨userAgent, timeout⟩ else .error .malformed

/-- The message that tells a subscriber of a state change. -/
def message (s : Sender) (url : Url) (change : StateChange) : Http.Message :=
  { Http.Message.post url change.toJson with userAgent := some s.userAgent }

/-- Send a state change to a subscriber, once. -/
def send (s : Sender) (network : Http.Network) (url : String) (change : StateChange) :
    Except WebhookError Unit :=
  match Url.read url with
  | .error _ => .error .malformed
  | .ok target => do
    let response ← (Http.exchange network s.timeout (s.message target change)).mapError .noResponse
    if isSuccess response.status then return () else .error (.refused url response.status)

/-- How long a sender takes over a state change. What cannot be sent, or reaches nobody, fails at
once. -/
def duration (s : Sender) (network : Http.Network) (url : String) (change : StateChange) : Nat :=
  match Url.read url with
  | .error _ => 0
  | .ok target =>
    let m := s.message target change
    if m.url.isSendable then
      match network m with
      | none => 0
      | some arrival => min arrival.after s.timeout
    else 0

/-- What a dispatcher sees of a subscriber to whom a sender sends. A failure without a response has
the status 0; one response of success is as good as another. -/
def receiver (s : Sender) (network : Http.Network) (url : String) (change : StateChange) :
    Receiver where
  delay := s.duration network url change
  status :=
    match s.send network url change with
    | .ok _ => 200
    | .error (.refused _ status) => status
    | .error _ => 0

end Sender

/-! ## Assembly -/

/-- A gateway and what sends its webhooks. -/
structure Assembly where
  gateway : Gateway
  sender : Sender

/-- Assemble the gateway of a configuration. `runs` tells whether there is something to run
deliveries on. -/
def Assembly.ofConfig (runs : Bool) (config : GatewayConfig) (hub : Hub) :
    Except GatewayError Assembly :=
  match Sender.ofUserAgent config.webhooks.userAgent config.webhooks.deliveryTimeout.toNat with
  | .error e => .error (.configuration s!"failed to build webhook client: {e.text}")
  | .ok sender =>
    if runs then .ok ⟨.ofConfig config hub, sender⟩
    else .error (.configuration "no tokio runtime available")

end ChannelGateway
