import ChannelGateway.Client.Basic
import ChannelGateway.Proofs.FloatText
import ChannelGateway.Proofs.InPlace
import ChannelGateway.Proofs.JsonText

/-!
# Client and server agree

A call that a client makes goes through two texts. Its JSON object is written on one side and read
on the other, field by field; the outcome comes back as a status and a text. `Call.served?` says
what is called on the other side: the same, but for a voltage, which is the number that is read from
its text. Every finite number has a text from which some number is read, so no call is lost on the
way.

A client waits for a response only so long (five seconds for one made by `GatewayClient::new`). When
the gateway takes longer, the client is told that its time is out, whatever comes of the call.

Results:
* `exists_reread?`: the text of a finite number is read as a number.
* `exists_served`: the object of a call is read as the object of the call that is served.
* `read_of_object`: an endpoint reads a call from the fields that the call is written as.
* `message_of_root`: a client at the root of a gateway posts each call to its endpoint.
* `standsFor_of_read`: a posted body from which a call is read stands for the call.
* `Client.perform_of_arrival`: what a client makes of the response to an outcome.
* `Bench.network_of_call`: a gateway on the bench as the server that a client has.
* **`client_agrees`**: what a client's call does, what it is answered with, and what the client is
  told.
-/

namespace ChannelGateway

/-! ## What is called on the other side -/

/-- The number that is read from the text of a number. -/
def Json.reread? (x : Float) : Option Float :=
  (ofString? (float x).compact).bind asFloat?

namespace Call

/-- The voltage of a call. -/
def volts? : Call → Option Float
  | voltageOut _ volts _ => some volts
  | _ => none

/-- The call that is served when a client makes a call: the same, but with the voltage that is read
from its text. -/
def served? : Call → Option Call
  | voltageOut name volts address =>
    (Json.reread? volts).map fun reread => voltageOut name reread address
  | call => some call

/-- A call in which an empty webhook is none. -/
def tidy : Call → Call
  | digitalIn name address webhook => digitalIn name address (webhook.filter (· ≠ ""))
  | call => call

/-- Whether the voltage of a call is within range, if it has one. -/
def isInRange : Call → Bool
  | voltageOut _ volts _ => inVoltageRange volts
  | _ => true

theorem job_of_isInRange {call : Call} (h : call.isInRange = true) (openTimeout : Nat) :
    ∃ job, call.job openTimeout = .ok job ∧ call.tidy.job openTimeout = .ok job := by
  cases call with
  | voltageOut name volts address => exact ⟨_, if_pos h, if_pos h⟩
  | digitalIn name address webhook =>
    refine ⟨_, rfl, ?_⟩
    cases webhook with
    | none => rfl
    | some url => by_cases hurl : url = "" <;> simp [job, tidy, Option.filter, hurl]
  | _ => exact ⟨_, rfl, rfl⟩

theorem job_of_not_isInRange {call : Call} (h : call.isInRange = false) (openTimeout : Nat) :
    call.job openTimeout = .error (.validation BodyDefect.voltageOutOfRange.text) := by
  cases call with
  | voltageOut name volts address => exact if_neg (by simpa [isInRange] using h)
  | _ => cases h

end Call

/-! ## Numbers -/

namespace Json

theorem echo_int32 (n : Int32) : echo (.int n.toInt) = some (.int n.toInt) := by
  have hlow : Int32.minValue.toInt ≤ n.toInt := n.minValue_le_toInt
  have hhigh : n.toInt ≤ Int32.maxValue.toInt := n.toInt_le
  have hmin : Int32.minValue.toInt = -2147483648 := rfl
  have hmax : Int32.maxValue.toInt = 2147483647 := rfl
  exact readNumber?_toString (by omega) (by omega)

theorem asInt32?_toInt (n : Int32) : asInt32? (.int n.toInt) = some n := by
  have hrange : Int32.minValue.toInt ≤ n.toInt ∧ n.toInt ≤ Int32.maxValue.toInt :=
    ⟨n.minValue_le_toInt, n.toInt_le⟩
  rw [asInt32?, asInt?, Option.bind_some, if_pos hrange, Int32.ofInt_toInt]

theorem echoFields_nil : echoFields [] = some [] := by
  rw [echoFields]

theorem echoFields_cons (key : String) {v w : Json} {fields ws : List (String × Json)}
    (hv : echo v = some w) (hfields : echoFields fields = some ws) :
    echoFields ((key, v) :: fields) = some ((key, w) :: ws) := by
  rw [echoFields, hv, hfields]
  rfl

/-- The text of a finite number is read as a number. -/
theorem exists_reread? {x : Float} (h : x.isFinite = true) :
    ∃ y, reread? x = some y ∧ echo (.float x) = some (.float y) := by
  obtain ⟨y, hy⟩ := exists_readNumber?_floatText h
  have hecho : echo (.float x) = some (.float y) := by
    rw [echo, if_pos h, hy]
  have hread : ofString? (float x).compact = some (.float y) := by
    rw [ofString?, compact, String.toList_ofList]
    exact ofChars?_write Spacing.none_blank hecho (Nat.zero_le _)
  exact ⟨y, by rw [reread?, hread]; rfl, hecho⟩

end Json

/-! ## Bodies -/

namespace Body

/-- The body that an object is written as holds the fields that it is read as. -/
theorem object_compact {v : Json} {fields : Fields} (h : v.echo = some (.object fields))
    (room : v.height ≤ Json.maxDepth) : object v.compact.toUTF8 = .ok fields := by
  rw [object, Json.ofBytes?_compact h room]

theorem digitalOut_fields (name : String) (state : Bool) (a : Address) :
    digitalOut ([("name", .text name), ("target_state", .bool state)] ++ Call.addressFields a) =
      .ok (.digitalOut name state a) := by
  have hchannel := Json.asInt32?_toInt a.channel
  have hport := Json.asInt32?_toInt a.hubPort
  simp [digitalOut, requireAll, Endpoint.required, Json.has, Json.lookup, Call.addressFields,
    Body.name, field?, orDefect, Json.asText?, Json.asBool?, address, addressField, hchannel, hport,
    bind, Except.bind, pure, Except.pure]

theorem voltageOut_fields (name : String) (volts : Float) (a : Address) :
    voltageOut ([("name", .text name), ("target_state", .float volts)] ++ Call.addressFields a) =
      if inVoltageRange volts then .ok (.voltageOut name volts a)
      else .error .voltageOutOfRange := by
  have hchannel := Json.asInt32?_toInt a.channel
  have hport := Json.asInt32?_toInt a.hubPort
  cases hrange : inVoltageRange volts <;>
    simp [voltageOut, requireAll, Endpoint.required, Json.has, Json.lookup, Call.addressFields,
      Body.name, field?, orDefect, Json.asText?, Json.asFloat?, voltage, address, addressField,
      hchannel, hport, hrange, bind, Except.bind, pure, Except.pure]

theorem digitalIn_fields (name : String) (a : Address) (url : Option String) :
    digitalIn (("name", .text name) :: Call.addressFields a ++
        url.toList.map fun url => ("webhook", .text url)) =
      .ok (.digitalIn name a (url.filter (· ≠ ""))) := by
  have hchannel := Json.asInt32?_toInt a.channel
  have hport := Json.asInt32?_toInt a.hubPort
  cases url with
  | none =>
    simp [digitalIn, Json.lookup, Call.addressFields, field?, orDefect, Json.asText?, webhook,
      hchannel, hport, bind, Except.bind, pure, Except.pure]
  | some url =>
    by_cases hurl : url = "" <;>
      simp [digitalIn, Json.lookup, Call.addressFields, field?, orDefect, Json.asText?, webhook,
        hchannel, hport, hurl, Option.filter, bind, Except.bind, pure, Except.pure]

theorem close_fields (name : String) : close [("name", .text name)] = .ok (.close name) := by
  simp [close, requireAll, Endpoint.required, Json.has, Json.lookup, Body.name, field?, orDefect,
    Json.asText?, bind, Except.bind, pure, Except.pure]

end Body

/-! ## Calls -/

namespace Call

theorem echo_addressFields (a : Address) :
    Json.echoFields (addressFields a) = some (addressFields a) :=
  Json.echoFields_cons _ (Json.echo_int32 a.channel)
    (Json.echoFields_cons _ (Json.echo_int32 a.hubPort) Json.echoFields_nil)

/-- A call that was written as a JSON object is read as the object of the call that is served. -/
theorem exists_served {call : Call}
    (finite : ∀ volts, call.volts? = some volts → volts.isFinite = true) :
    ∃ served, call.served? = some served ∧ call.toJson.echo = some served.toJson := by
  have hname : ∀ name, (Json.text name).echo = some (.text name) := fun name => by rw [Json.echo]
  have hobject : ∀ {fields ws}, Json.echoFields fields = some ws →
      (Json.object fields).echo = some (.object ws) := by
    intro fields ws h
    rw [Json.echo, h]
    rfl
  cases call with
  | digitalOut name state a =>
    have hstate : (Json.bool state).echo = some (.bool state) := by rw [Json.echo]
    exact ⟨_, rfl, hobject (Json.echoFields_cons _ (hname name)
      (Json.echoFields_cons _ hstate (echo_addressFields a)))⟩
  | voltageOut name volts a =>
    obtain ⟨reread, hreread, hvolts⟩ := Json.exists_reread? (finite volts rfl)
    refine ⟨.voltageOut name reread a, by rw [served?, hreread]; rfl, ?_⟩
    exact hobject (Json.echoFields_cons _ (hname name)
      (Json.echoFields_cons _ hvolts (echo_addressFields a)))
  | digitalIn name a webhook =>
    refine ⟨_, rfl, ?_⟩
    have hwebhook : Json.echoFields (webhook.toList.map fun url => ("webhook", .text url)) =
        some (webhook.toList.map fun url => ("webhook", .text url)) := by
      cases webhook with
      | none => exact Json.echoFields_nil
      | some url => exact Json.echoFields_cons _ (hname url) Json.echoFields_nil
    exact hobject (Json.echoFields_cons _ (hname name) (Json.echoFields_cons _
      (Json.echo_int32 a.channel) (Json.echoFields_cons _ (Json.echo_int32 a.hubPort) hwebhook)))
  | close name =>
    exact ⟨_, rfl, hobject (Json.echoFields_cons _ (hname name) Json.echoFields_nil)⟩

theorem endpoint_of_served? {call served : Call} (h : call.served? = some served) :
    served.endpoint = call.endpoint := by
  cases call with
  | voltageOut name volts a =>
    obtain ⟨reread, -, rfl⟩ := Option.map_eq_some_iff.mp h
    rfl
  | _ =>
    cases h
    rfl

theorem height_toJson (call : Call) : call.toJson.height = 1 := by
  cases call with
  | digitalIn name a webhook =>
    cases webhook <;> simp [toJson, addressFields, Json.height, Json.heightFields]
  | _ => simp [toJson, addressFields, Json.height, Json.heightFields]

/-- The endpoint of a call reads the call from the fields that the call is written as. -/
theorem read_of_object {call : Call} {fields : Body.Fields} {body : ByteArray}
    (hfields : call.toJson = .object fields) (hbody : Body.object body = .ok fields) :
    call.endpoint.read body =
      if call.isInRange then .ok call.tidy else .error .voltageOutOfRange := by
  cases call with
  | digitalOut name state a =>
    cases hfields
    simp only [endpoint, Endpoint.read, hbody]
    exact Body.digitalOut_fields name state a
  | voltageOut name volts a =>
    cases hfields
    simp only [endpoint, Endpoint.read, hbody]
    exact Body.voltageOut_fields name volts a
  | digitalIn name a webhook =>
    cases hfields
    simp only [endpoint, Endpoint.read, hbody]
    exact Body.digitalIn_fields name a webhook
  | close name =>
    cases hfields
    simp only [endpoint, Endpoint.read, hbody]
    exact Body.close_fields name

end Call

/-! ## Messages -/

theorem Http.Route.ofTarget?_endpoint (e : Endpoint) :
    Http.Route.ofTarget? ("/phidgets/" ++ e.label) = some (.endpoint e) := by
  cases e <;> decide +kernel

/-- The URL of an endpoint, seen from the root of a gateway. -/
theorem Url.join_endpoint {base : Url} (root : base.path = .segments [""]) (e : Endpoint) :
    ∃ url, base.join ("phidgets/" ++ e.label) = .ok url ∧ url.target = "/phidgets/" ++ e.label := by
  have hpath : ∀ kind : SchemeKind, UrlPath.text (.segments (Url.pushAll kind [] []
      (Url.beforeQuery ("phidgets/" ++ e.label).toList))) = "/phidgets/" ++ e.label := by
    intro kind
    cases kind <;> cases e <;> decide +kernel
  have hquery : ∀ kind : SchemeKind,
      Url.queryAfter kind ("phidgets/" ++ e.label).toList = none := by
    intro kind
    cases kind <;> cases e <;> decide +kernel
  refine ⟨_, by rw [join, root], ?_⟩
  rw [List.dropLast_singleton, withSegments, withPath, target, hquery]
  exact hpath base.kind

/-- A client at the root of a gateway posts a call to its endpoint. -/
theorem Client.message_of_root {c : Client} (root : c.base.path = .segments [""]) (call : Call) :
    ∃ m, c.message call = .ok m ∧ m.request.method = "POST" ∧
      m.request.target = "/phidgets/" ++ call.endpoint.label ∧
      m.request.body = call.toJson.compact.toUTF8 := by
  obtain ⟨url, hjoin, htarget⟩ := Url.join_endpoint root call.endpoint
  refine ⟨.post url call.toJson, ?_, rfl, htarget, rfl⟩
  rw [message, Client.url, hjoin]
  rfl

/-- A posted body from which an endpoint reads a call, or that it refuses as the call would be
refused, stands for the call. -/
theorem Http.Request.standsFor_of_read {r : Http.Request} {call : Call} {e : Endpoint}
    (posted : r.method = "POST") (target : r.target = "/phidgets/" ++ e.label)
    (short : r.body.size ≤ Http.bodyLimit)
    (decoded : e.read r.body =
      if call.isInRange then .ok call.tidy else .error .voltageOutOfRange) :
    r.StandsFor call := by
  have hroute : Http.Route.ofTarget? r.target = some (.endpoint e) := by
    rw [target, Http.Route.ofTarget?_endpoint]
  have hshort : ¬ Http.bodyLimit < r.body.size := Nat.not_lt.mpr short
  constructor
  · intro g job hjob
    cases hrange : call.isInRange with
    | false => cases (Call.job_of_not_isInRange hrange g.openTimeout).symm.trans hjob
    | true =>
      have htidy : call.tidy.job g.openTimeout = .ok job := by
        obtain ⟨job', hjob', htidy⟩ := Call.job_of_isInRange hrange g.openTimeout
        cases hjob'.symm.trans hjob
        exact htidy
      simp only [Http.handle, hroute, posted, Http.post, decoded, hrange, htidy, if_neg hshort,
        if_true]
  · intro g err herr
    cases hrange : call.isInRange with
    | true =>
      obtain ⟨job, hjob, -⟩ := Call.job_of_isInRange hrange g.openTimeout
      cases hjob.symm.trans herr
    | false =>
      cases (Call.job_of_not_isInRange hrange g.openTimeout).symm.trans herr
      simp only [Http.handle, hroute, posted, Http.post, decoded, hrange, if_neg hshort, if_true,
        Bool.false_eq_true, if_false]
      rfl

/-! ## What a client is told -/

/-- What a client makes of the response to an outcome. -/
def Client.told : Outcome → Except ClientError Unit
  | .ok _ => .ok ()
  | .error e => .error (.refused e.status e.text)

theorem Client.content_ofOutcome (outcome : Outcome) :
    (content (.ofOutcome outcome)).map (fun _ => ()) = told outcome := by
  cases outcome with
  | ok _ => rfl
  | error e =>
    have hstatus : e.status ≠ 200 := by
      cases e <;> simp [GatewayError.status]
    exact congrArg (Except.map fun _ => ()) (if_neg hstatus)

/-- What a client is told of a call whose response comes after so many milliseconds. -/
def Client.toldAfter (c : Client) (after : Nat) (outcome : Outcome) : Except ClientError Unit :=
  if after < c.timeout then told outcome else .error (.noResponse .timedOut)

theorem Http.exchange_of_arrival {network : Network} {m : Message} {arrival : Arrival}
    (sendable : m.url.isSendable = true) (h : network m = some arrival) (timeout : Nat) :
    exchange network timeout m =
      if arrival.after < timeout then .ok arrival.response else .error .timedOut := by
  rw [exchange, if_pos sendable, h]

/-- A client that has the response to an outcome is told the outcome, if its time is not out. -/
theorem Client.perform_of_arrival {c : Client} {call : Call} {m : Http.Message}
    (hm : c.message call = .ok m) (sendable : m.url.isSendable = true) {network : Http.Network}
    {after : Nat} {outcome : Outcome} (h : network m = some ⟨after, .ofOutcome outcome⟩) :
    c.perform network call = c.toldAfter after outcome := by
  rw [perform, hm, toldAfter, ← content_ofOutcome]
  simp only [bind, Except.bind]
  rw [Http.exchange_of_arrival sendable h]
  by_cases htime : after < c.timeout
  · rw [if_pos htime, if_pos htime]
    simp only [Except.mapError]
    cases content (.ofOutcome outcome) <;> rfl
  · rw [if_neg htime, if_neg htime]
    rfl

/-- The network on which a gateway on the bench is the server. It answers a message as it answers
the request that it sees, when nothing else is under way. -/
def Bench.network (b : Bench) : Http.Network := fun m =>
  match (b.run [.http m.request]).2.1 with
  | [.finished (.response r) time] => some ⟨time - b.now, r⟩
  | _ => none

theorem Http.Response.ofOutcome_of_answer {outcome outcome' : Outcome}
    (h : Answer.ofOutcome outcome = Answer.ofOutcome outcome') :
    Response.ofOutcome outcome = Response.ofOutcome outcome' := by
  cases outcome <;> cases outcome' <;> cases h <;> rfl

/-- A message that stands for a call is answered when the call is, with the response to its
outcome. -/
theorem Bench.network_of_call {b : Bench} {m : Http.Message} {call : Call} {outcome : Outcome}
    {time : Nat} (stands : m.request.StandsFor call)
    (h : (b.run [.call call]).2.1 = [.finished (.ofOutcome outcome) time]) :
    b.network m = some ⟨time - b.now, .ofOutcome outcome⟩ := by
  obtain ⟨b', es, es', sent, hrequest, hcall, hswap⟩ := run_swapped stands b [] []
  rw [List.nil_append] at hrequest hcall
  rw [hcall] at h
  obtain ⟨hlength, here⟩ := hswap
  rename_i earlier later e e'
  obtain rfl : earlier = [] := List.eq_nil_of_length_eq_zero hlength
  obtain ⟨rfl, rfl⟩ := List.cons.inj h
  unfold network
  rw [hrequest]
  generalize hanswer : Errand.finished (.ofOutcome outcome) time = answered at here
  cases here with
  | finished outcome' time' =>
    obtain ⟨hsame, rfl⟩ := Errand.finished.inj hanswer
    rw [Http.Response.ofOutcome_of_answer hsame]
    rfl
  | _ => cases hanswer

/-- **Client and server agree on a call**: `message` is what a client sends for a call, and `served`
is the call that takes its place on the other side. -/
structure Call.Agrees (c : Client) (call served : Call) (message : Http.Message) : Prop where
  /-- The endpoint reads what is served, with an empty webhook as none; it refuses a voltage out of
  range, as the call does. -/
  decoded : call.endpoint.read message.request.body =
    if served.isInRange then .ok served.tidy else .error .voltageOutOfRange
  /-- Every gateway handles the message as it takes the call that is served. -/
  stands : message.request.StandsFor served
  /-- In every run, whatever is under way beside it, the message does what the call does, and is
  answered when the call is answered. -/
  runs : ∀ (b : Bench) (earlier later : List Step), ∃ b' es es' sent,
    b.run (earlier ++ .http message.request :: later) = (b', es, sent) ∧
      b.run (earlier ++ .call served :: later) = (b', es', sent) ∧
      Errand.Swapped message.request served earlier.length es es'
  /-- A client that has the response to an outcome within its timeout succeeds if the outcome is a
  success, and otherwise tells the status and the wording of the error. A client that has it later
  has given up. -/
  told : ∀ (network : Http.Network) (after : Nat) (outcome : Outcome),
    message.url.isSendable = true → network message = some ⟨after, .ofOutcome outcome⟩ →
      c.perform network call = c.toldAfter after outcome
  /-- So a client of a gateway is told what the call that is served is answered with, if that takes
  less time than the client has. -/
  served : ∀ (b : Bench) (outcome : Outcome) (time : Nat), message.url.isSendable = true →
    (b.run [.call served]).2.1 = [.finished (.ofOutcome outcome) time] →
      c.perform b.network call = c.toldAfter (time - b.now) outcome

/-- **Client and server agree**: a client at the root of a gateway can make every call whose body is
within the limit and whose voltage, if it has one, is finite. The name may be any text, the address
any numbers, and the webhook none, empty or any text. -/
theorem client_agrees {c : Client} {call : Call} (root : c.base.path = .segments [""])
    (short : call.toJson.compact.toUTF8.size ≤ Http.bodyLimit)
    (finite : ∀ volts, call.volts? = some volts → volts.isFinite = true) :
    ∃ message served, c.message call = .ok message ∧ call.served? = some served ∧
      call.Agrees c served message := by
  obtain ⟨message, hmessage, posted, target, body⟩ := Client.message_of_root root call
  obtain ⟨served, hserved, hecho⟩ := Call.exists_served finite
  have hendpoint : served.endpoint = call.endpoint := Call.endpoint_of_served? hserved
  obtain ⟨fields, hfields⟩ : ∃ fields, served.toJson = .object fields := by
    cases served <;> exact ⟨_, rfl⟩
  have hobject : Body.object call.toJson.compact.toUTF8 = .ok fields :=
    Body.object_compact (hfields ▸ hecho) (by rw [Call.height_toJson]; decide)
  have decoded : call.endpoint.read message.request.body =
      if served.isInRange then .ok served.tidy else .error .voltageOutOfRange := by
    rw [body, ← hendpoint]
    exact Call.read_of_object hfields hobject
  have stands : message.request.StandsFor served :=
    Http.Request.standsFor_of_read posted target (body ▸ short) decoded
  refine ⟨message, served, hmessage, hserved, decoded, stands, Bench.run_swapped stands, ?_, ?_⟩
  · intro network after outcome sendable harrival
    exact Client.perform_of_arrival hmessage sendable harrival
  · intro b outcome time sendable hanswer
    exact Client.perform_of_arrival hmessage sendable (Bench.network_of_call stands hanswer)

/-- A client of a gateway on the same machine. -/
def Client.onSameMachine : Client :=
  ⟨⟨"http", some (.domain "localhost"), some 4002, .segments [""], none, none⟩, 5000⟩

/-- A call with a name whose characters have escapes or lie beyond the first plane. -/
def Call.dim : Call :=
  .voltageOut "dimmer \"\x01💡" 2.5 ⟨0, Address.useExisting⟩

/-- A gateway that is configured with nothing. -/
def Bench.unconfigured : Bench :=
  .ofGateway (.ofConfig {} (.ofConfig {} 0)) fun _ => {}

/-- The voltage of `Call.dim` comes back as it was. A gateway whose hub has no port with the number
that asks for a dimmer that is already open refuses the call, and its client is told so. -/
theorem client_agrees_on_dim :
    Call.dim.toJson.compact =
    "\x7b\"name\":\"dimmer \\\"\\u0001💡\",\"target_state\":2.5,\"channel\":0,\"hub_port\":-2\x7d" ∧
      Call.dim.served? = some Call.dim ∧
      ∃ message served, Client.onSameMachine.message Call.dim = .ok message ∧
        Call.dim.served? = some served ∧ Call.dim.Agrees Client.onSameMachine served message ∧
        Client.onSameMachine.perform Bench.unconfigured.network Call.dim =
          .error (.refused 500 ("Driver 'mock_hub' timeout error: Timed out waiting for " ++
            "attachment on hub port -2 channel 0 after 5000 ms")) := by
  have hsame : Call.dim.served? = some Call.dim := by
    have hvolts : Json.reread? 2.5 = some 2.5 := by decide +kernel
    rw [Call.dim, Call.served?, hvolts]
    rfl
  have hsendable : (Client.onSameMachine.message Call.dim).toOption.any
      (fun m => m.url.isSendable) = true := by
    decide +kernel
  have hanswer : (Bench.unconfigured.run [.call Call.dim]).2.1 = [.finished (.ofOutcome (.error
      (.openFailed "dimmer \"\x01💡" (HubFailure.attachTimeout ⟨0, -2⟩ 5000).error))) 0] := by
    rfl
  obtain ⟨message, served, hmessage, hserved, hagrees⟩ :=
    @client_agrees Client.onSameMachine Call.dim rfl (by decide +kernel) fun volts h => by
      cases h
      decide +kernel
  refine ⟨by decide +kernel, hsame, message, served, hmessage, hserved, hagrees, ?_⟩
  obtain rfl : Call.dim = served := Option.some.inj (hsame.symm.trans hserved)
  rw [hmessage] at hsendable
  rw [hagrees.served Bench.unconfigured _ 0 hsendable hanswer]
  decide +kernel

/-- A gateway with patience for a hub whose hardware takes six seconds to attach. -/
def Bench.patient : Bench :=
  let hub : HubConfig := { mode := .realistic, timing := { attachDelay := 6000 } }
  .ofGateway (.ofConfig { hardware := { openTimeout := 10000, hub } } (.ofConfig hub 0)) fun _ => {}

/-- A call that switches a lamp on. -/
def Call.lighten : Call :=
  .digitalOut "lamp" true ⟨0, 0⟩

/-- **A client gives up on a slow gateway.** The gateway waits for the hardware of the lamp and then
switches it on; the client has given up after five seconds. -/
theorem slow_call_given_up :
    (Bench.patient.run [.call .lighten]).2.1 = [.finished .done 6002] ∧
      Client.onSameMachine.perform Bench.patient.network .lighten =
        .error (.noResponse .timedOut) := by
  exact ⟨rfl, by decide +kernel⟩

end ChannelGateway
