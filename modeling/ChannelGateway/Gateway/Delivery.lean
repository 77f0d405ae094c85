import ChannelGateway.Json.Basic
import ChannelGateway.Table

/-!
# Subscriptions and deliveries

Model of `WebhookRegistry` (`subscribe`, `list_for`, `subscription_count`) and of `EventDispatcher`:
its `fan_out`, its `deliver` and its `DeliveryStats`.

A state change is delivered to each subscriber apart. A delivery is scheduled when the change
happens, begins a little later, and ends when its receiver has answered or when the timeout has
passed, whichever comes first; an answer at the very moment of the timeout counts. It is delivered
when the answer came in time and was a success.
-/

namespace ChannelGateway

/-!
## Subscriptions

Subscriptions belong to names, not to channels: they outlive a close and apply again when the name
is opened again. Lists only grow, and keep duplicates.
-/

/-- The subscribed URLs of each name, in order of subscription. -/
structure Subscriptions where
  lists : Table String (List String)
  deriving Repr

namespace Subscriptions

/-- No subscriptions. -/
def empty : Subscriptions := ⟨[]⟩

/-- The subscribed URLs of a name. -/
def listFor (s : Subscriptions) (name : String) : List String :=
  (s.lists.get? name).getD []

/-- Subscribe a URL to a name. -/
def subscribe (s : Subscriptions) (name url : String) : Subscriptions :=
  ⟨s.lists.insert name (s.listFor name ++ [url])⟩

/-- Subscribe URLs to a name, in order. -/
def subscribeAll (s : Subscriptions) (name : String) (urls : List String) : Subscriptions :=
  urls.foldl (fun s url => s.subscribe name url) s

/-- How many subscriptions there are. -/
def count (s : Subscriptions) : Nat :=
  s.lists.values.foldr (fun urls n => urls.length + n) 0

end Subscriptions

/-! ## Deliveries -/

/-- A state change of a named input. -/
structure StateChange where
  name : String
  state : Bool
  deriving DecidableEq, Repr, Inhabited

/-- A state change as it is sent. -/
def StateChange.toJson (c : StateChange) : Json :=
  .object [("name", .text c.name), ("state", .bool c.state)]

/-- A state change on its way to a subscriber. -/
structure Delivery where
  number : Nat
  url : String
  change : StateChange
  deriving DecidableEq, Repr, Inhabited

/-- How a receiver behaves. -/
structure Receiver where
  /-- Milliseconds until it answers. -/
  delay : Nat := 0
  /-- The status it answers with. -/
  status : Nat := 200
  /-- It never answers. -/
  hangs : Bool := false
  deriving DecidableEq, Repr, Inhabited

/-- Whether a status is one of success. -/
def isSuccess (status : Nat) : Bool :=
  200 ≤ status && status < 300

/-- A delivery that has begun. -/
structure Flight where
  delivery : Delivery
  /-- When it ends. -/
  due : Nat
  delivered : Bool
  deriving DecidableEq, Repr, Inhabited

/-- The course of a delivery that begins at a time. -/
def Delivery.launch (d : Delivery) (now timeout : Nat) (r : Receiver) : Flight :=
  if r.hangs then ⟨d, now + timeout, false⟩
  else ⟨d, now + min r.delay timeout, r.delay ≤ timeout && isSuccess r.status⟩

/-- The deliveries of a gateway and how they have ended. -/
structure Dispatcher where
  timeout : Nat
  /-- The number of the next delivery. -/
  next : Nat
  /-- Deliveries that have not begun, in order. -/
  scheduled : List Delivery
  /-- Deliveries that have begun and not ended. -/
  inFlight : List Flight
  attempted : Nat
  delivered : Nat
  failed : Nat
  deriving Repr

namespace Dispatcher

/-- A dispatcher that has had nothing to deliver. -/
def ofTimeout (timeout : Nat) : Dispatcher :=
  ⟨timeout, 0, [], [], 0, 0, 0⟩

/-- Schedule a delivery. -/
def schedule (d : Dispatcher) (change : StateChange) (url : String) : Dispatcher :=
  { d with
    next := d.next + 1
    scheduled := d.scheduled ++ [⟨d.next, url, change⟩] }

/-- Schedule a delivery to each of a list of subscribers. -/
def fanOut (d : Dispatcher) (change : StateChange) (urls : List String) : Dispatcher :=
  urls.foldl (fun d url => d.schedule change url) d

/-- Begin the first scheduled delivery. -/
def beginFirst (d : Dispatcher) (now : Nat) (receivers : String → Receiver) : Dispatcher :=
  match d.scheduled with
  | [] => d
  | first :: rest =>
    { d with
      scheduled := rest
      inFlight := d.inFlight ++ [first.launch now d.timeout (receivers first.url)]
      attempted := d.attempted + 1 }

/-- Begin every scheduled delivery, in order. -/
def beginAll (d : Dispatcher) (now : Nat) (receivers : String → Receiver) : Dispatcher :=
  d.scheduled.foldl (fun d _ => d.beginFirst now receivers) d

/-- End the deliveries whose time has come. -/
def settle (d : Dispatcher) (now : Nat) : Dispatcher :=
  let ended := d.inFlight.filter fun f => f.due ≤ now
  { d with
    inFlight := d.inFlight.filter fun f => now < f.due
    delivered := d.delivered + ended.countP Flight.delivered
    failed := d.failed + ended.countP fun f => !f.delivered }

/-- Whether a delivery has neither begun nor ended, or has begun and not ended. -/
def isPending (d : Dispatcher) (number : Nat) : Bool :=
  d.scheduled.any (fun s => s.number = number) ||
    d.inFlight.any fun f => f.delivery.number = number

/-- When the next delivery ends. -/
def nextDue? (d : Dispatcher) : Option Nat :=
  (d.inFlight.map Flight.due).min?

end Dispatcher

end ChannelGateway
