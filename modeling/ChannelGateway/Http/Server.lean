import ChannelGateway.Gateway.Registry
import ChannelGateway.Http.Body
import ChannelGateway.Json.Writer

/-!
# Routes and responses

Model of `create_router` and its handlers (`set_digital_output`, `set_voltage_output`,
`open_digital_input`, `close_channel`, `state_page`, `state_json`, `health`, `root_redirect`).

Each path has one method: the four endpoints are posted to, the pages are fetched. A page is
answered at once; an endpoint makes a request on a name, and its response follows from the outcome.
-/

namespace ChannelGateway.Http.Target

/-!
## Targets

What `Uri` makes of a request target. It is a path, the target of the whole server (`*`), an
absolute address with a scheme and an authority, or an authority alone. Its path is what a route is
found by: a query and a fragment do not belong to it, an absolute address without a path has the
path `/`, and an authority alone has an empty one. A text with characters that have no place in a
target is none.
-/

/-- The greatest length of a target, in octets. -/
def lengthLimit : Nat := 65534

/-- The greatest length of a scheme. -/
def schemeLimit : Nat := 64

/-- How many colons may follow each other in an authority before a bracket or an at sign. -/
def colonLimit : Nat := 8

/-- The characters of a scheme. -/
def inScheme (c : Char) : Bool :=
  c.isAlphanum || c ∈ ['+', '-', '.', '~']

/-- The characters that end an authority. -/
def endsAuthority (c : Char) : Bool :=
  c ∈ ['/', '?', '#']

/-- The characters of an authority; a percent sign has rules of its own. -/
def inAuthority (c : Char) : Bool :=
  c.isAlphanum || c ∈ ['!', '$', '&', '\'', '(', ')', '*', '+', ',', '-', '.', ':', ';', '=', '@',
    '[', ']', '_', '~', '%']

/-- The characters of a path. -/
def inPath (c : Char) : Bool :=
  0x21 ≤ c.toNat && c ∉ ['#', '<', '>', '?', '\x60']

/-- The characters of a query. -/
def inQuery (c : Char) : Bool :=
  0x21 ≤ c.toNat && c ∉ ['"', '#', '<', '>']

/-- What has been seen of an authority. -/
structure Authority where
  /-- Colons since the last closing bracket or at sign. -/
  colons : Nat := 0
  opened : Bool := false
  closed : Bool := false
  /-- Whether there is a percent sign that is neither in brackets nor before an at sign. -/
  escape : Bool := false
  deriving DecidableEq, Repr, Inhabited

/-- Take in a character of an authority. -/
def Authority.take (a : Authority) (c : Char) : Option Authority :=
  if ¬ inAuthority c then none
  else
    match c with
    | ':' => if a.colons < colonLimit then some { a with colons := a.colons + 1 } else none
    | '[' => if a.escape ∨ a.opened then none else some { a with opened := true }
    | ']' =>
      if a.opened ∧ ¬ a.closed then some { a with closed := true, colons := 0, escape := false }
      else none
    | '@' => some { a with colons := 0, escape := false }
    | '%' => some { a with escape := true }
    | _ => some a

/-- Whether characters are an authority: at most one colon before a port, brackets in a pair, and
something after an at sign. -/
def isAuthority (cs : List Char) : Bool :=
  match cs.foldlM Authority.take {} with
  | none => false
  | some a =>
    a.opened == a.closed && a.colons ≤ 1 && !a.escape && cs.getLast? != some '@'

/-- The characters after a scheme, its colon and two slashes; none when no scheme stands in
front. -/
def afterScheme? (cs : List Char) : Option (List Char) :=
  if schemeLimit < (cs.takeWhile inScheme).length then none
  else
    match cs.dropWhile inScheme with
    | ':' :: '/' :: '/' :: rest => some rest
    | _ => none

/-- The path in front of a query and a fragment. -/
def pathOf? (cs : List Char) : Option String :=
  let path := cs.takeWhile fun c => c ≠ '?' ∧ c ≠ '#'
  let query := ((cs.drop path.length).takeWhile (· ≠ '#')).drop 1
  if path.all inPath ∧ query.all inQuery then
    some (if path = [] then "/" else String.ofList path)
  else none

/-- The path of a target. -/
def path? (target : String) : Option String :=
  let cs := target.toList
  if lengthLimit < target.utf8ByteSize ∨ cs = [] then none
  else if cs = ['*'] then some target
  else if cs.head? = some '/' then pathOf? cs
  else
    match afterScheme? cs with
    | none => if cs.any endsAuthority ∨ ¬ isAuthority cs then none else some ""
    | some rest =>
      let authority := rest.takeWhile fun c => !endsAuthority c
      if authority = [] ∨ ¬ isAuthority authority then none
      else pathOf? (rest.drop authority.length)

end ChannelGateway.Http.Target

namespace ChannelGateway.Page

/-!
## The state page

Model of `escape_html`, `pretty_json` and `render_state_page`: an HTML page with the status records
as an indented JSON array. Three characters would be taken for markup and are written as references.
-/

/-- How a character stands in HTML text. -/
def escapeChar (c : Char) : List Char :=
  match c with
  | '&' => ['&', 'a', 'm', 'p', ';']
  | '<' => ['&', 'l', 't', ';']
  | '>' => ['&', 'g', 't', ';']
  | c => [c]

/-- A text as it stands in HTML. -/
def escape (s : String) : String :=
  String.ofList (s.toList.flatMap escapeChar)

/-- Status records as the page shows them. -/
def listing (statuses : List Status) : String :=
  (Status.listToJson statuses).indented

/-- The page with a title and status records. -/
def render (title : String) (statuses : List Status) : String :=
  String.join [
    "\n<!DOCTYPE html>\n<html>\n<head>\n    <title>", escape title,
    "</title>\n</head>\n<body>\n    <p>[OK] /services/actuators/phidgets<p>\n    <pre>\n",
    escape (listing statuses),
    "\n    </pre>\n</body>\n</html>"]

end ChannelGateway.Page

namespace ChannelGateway.Http

/-! ## Routes -/

/-- What can be fetched. -/
inductive Resource where
  | root
  | health
  | statePage
  | stateList
  deriving DecidableEq, Repr, Inhabited

/-- What a path stands for. -/
inductive Route where
  | endpoint (e : Endpoint)
  | resource (r : Resource)
  deriving DecidableEq, Repr, Inhabited

/-- The page that the root leads to. -/
def statePagePath : String := "/phidgets/state"

/-- Every path and what it stands for. -/
def routes : List (String × Route) :=
  Endpoint.all.map (fun e => ("/phidgets/" ++ e.label, .endpoint e)) ++
    [("/", .resource .root), ("/health", .resource .health),
      (statePagePath, .resource .statePage), ("/phidgets/state.json", .resource .stateList)]

/-- What a request target stands for. Only its path matters. -/
def Route.ofTarget? (target : String) : Option Route :=
  match Target.path? target with
  | some path => (routes.find? fun route => route.1 = path).map Prod.snd
  | none => none

/-- A request. -/
structure Request where
  method : String
  target : String
  body : ByteArray

/-- A response. -/
structure Response where
  status : Nat
  contentType : Option String := none
  location : Option String := none
  allow : Option String := none
  body : String := ""
  deriving DecidableEq, Repr, Inhabited

namespace Response

/-- A plain text. -/
def plain (status : Nat) (text : String) : Response :=
  { status, contentType := some "text/plain; charset=utf-8", body := text }

/-- A JSON text. -/
def json (v : Json) : Response :=
  { status := 200, contentType := some "application/json", body := v.compact }

/-- An HTML text. -/
def html (text : String) : Response :=
  { status := 200, contentType := some "text/html; charset=utf-8", body := text }

/-- A response that sends the client elsewhere. -/
def redirect (location : String) : Response :=
  { status := 302, location := some location }

/-- The response for a path that does not exist. -/
def unknownPath : Response :=
  { status := 404 }

/-- The response for a method that a path does not have. -/
def wrongMethod (allow : String) : Response :=
  { status := 405, allow := some allow }

/-- The response for a body that is too long. -/
def tooLong : Response :=
  plain 413 "Failed to buffer the request body: length limit exceeded"

/-- The response of a request that was served. -/
def acknowledged : Response :=
  plain 200 "ACK"

/-- The response of a request that failed. -/
def ofRejection (r : Rejection) : Response :=
  plain r.status r.message

/-- The response that an outcome is answered with. -/
def ofOutcome : Outcome → Response
  | .ok _ => acknowledged
  | .error e => ofRejection (.ofError e)

/-- The response without its body. -/
def head (r : Response) : Response :=
  { r with body := "" }

end Response

/-- The version that the gateway reports. -/
def version : String := "0.1.0"

/-- What the gateway reports about itself. -/
def healthReport (g : Gateway) : Json :=
  .object [("status", .text "ok"), ("version", .text version),
    ("resources", .int (Int.ofNat g.registry.size)),
    ("webhook_subscriptions", .int (Int.ofNat g.subscriptions.count)),
    ("webhook_deliveries", .object [
      ("attempted", .int (Int.ofNat g.dispatcher.attempted)),
      ("delivered", .int (Int.ofNat g.dispatcher.delivered)),
      ("failed", .int (Int.ofNat g.dispatcher.failed))])]

/-- Fetch a resource. -/
def Resource.fetch (g : Gateway) : Resource → Response × Gateway
  | root => (.redirect statePagePath, g)
  | health => (.json (healthReport g), g)
  | statePage =>
    let (statuses, g) := g.snapshot
    (.html (Page.render g.title statuses), g)
  | stateList =>
    let (statuses, g) := g.snapshot
    (.json (Status.listToJson statuses), g)

/-- How many octets a body may have. -/
def bodyLimit : Nat := 2097152

/-- What becomes of a posted body. -/
def post (endpoint : Endpoint) (body : ByteArray) (openTimeout : Nat) : Except Response Job :=
  if bodyLimit < body.size then .error .tooLong
  else
    match endpoint.read body with
    | .error d => .error (.ofRejection d.rejection)
    | .ok call =>
      match call.job openTimeout with
      | .error e => .error (.ofRejection (.ofError e))
      | .ok job => .ok job

/-- What becomes of a request. -/
inductive Handling where
  /-- It is answered at once. -/
  | answered (response : Response) (g : Gateway)
  /-- It makes a request on a name; `Response.ofOutcome` answers. -/
  | accepted (job : Job)

/-- Take a request. -/
def handle (g : Gateway) (r : Request) : Handling :=
  match Route.ofTarget? r.target with
  | none => .answered .unknownPath g
  | some (.endpoint endpoint) =>
    if r.method = "POST" then
      match post endpoint r.body g.openTimeout with
      | .error response => .answered response g
      | .ok job => .accepted job
    else .answered (.wrongMethod "POST") g
  | some (.resource resource) =>
    if r.method = "GET" then
      let (response, g) := resource.fetch g
      .answered response g
    else if r.method = "HEAD" then
      let (response, g) := resource.fetch g
      .answered response.head g
    else .answered (.wrongMethod "GET,HEAD") g

end ChannelGateway.Http
