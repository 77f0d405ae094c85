import ChannelGateway.Http.Body
import Mathlib.Data.List.Induction
import Mathlib.Data.List.Nodup

/-!
# Which bodies are read, and as what

What an endpoint reads depends on the JSON value that a body holds, and of an object only on the
last value under each of a few keys (`Endpoint.known`). `Endpoint.Makes` says for each endpoint
which values make which call; it relates values and calls and says nothing about the order of
checks. `Endpoint.checks` is that order: the checks of an endpoint, each with what is told if it
fails.

Every step of reading passes the checks that it is there for and hands on what it has read, or fails
the first of them that the body fails (`Body.Reads`). Steps in sequence pass the checks of both, one
list after the other, so the steps of an endpoint make up its list.

Results:
* `Body.lookup_eq`: the value under a key is the last one.
* `Body.Reads.bind`: steps in sequence.
* `Endpoint.read_reads`: each endpoint reads by its own list of checks.
* `Endpoint.read_congr`: what an endpoint does not know has no say.
* **`bodies_checked`**: which bodies are read and as what, which check decides a rejection, and
  which fields have no say in either.
-/

namespace ChannelGateway

/-! ## Values under keys -/

namespace Json

variable {v : Json}

theorem asText?_eq_some_iff {s : String} : v.asText? = some s ↔ v = .text s := by
  cases v <;> simp [asText?]

theorem asBool?_eq_some_iff {b : Bool} : v.asBool? = some b ↔ v = .bool b := by
  cases v <;> simp [asBool?]

/-- A value is an integer of 32 bits if it is the literal of one. -/
theorem asInt32?_eq_some_iff {n : Int32} : v.asInt32? = some n ↔ v = .int n.toInt := by
  constructor
  · intro h
    cases v with
    | int m =>
      simp only [asInt32?, asInt?, Option.bind_some] at h
      split at h
      · rename_i hrange
        cases h
        rw [Int32.toInt_ofInt_of_le hrange.1 (Int.lt_add_one_of_le hrange.2)]
      · cases h
    | _ => cases h
  · rintro rfl
    have hrange : Int32.minValue.toInt ≤ n.toInt ∧ n.toInt ≤ Int32.maxValue.toInt :=
      ⟨n.minValue_le_toInt, n.toInt_le⟩
    rw [asInt32?, asInt?, Option.bind_some, if_pos hrange, Int32.ofInt_toInt]

end Json

namespace Body

/-- The last value that an object has under a key. -/
def last? (fields : Fields) (key : String) : Option Json :=
  (fields.reverse.find? fun field => field.1 = key).map Prod.snd

/-- Looking a key up finds its last value. -/
theorem lookup_eq (fields : Fields) (key : String) : Json.lookup fields key = last? fields key := by
  induction fields using List.reverseRecOn with
  | nil => rfl
  | append_singleton fields field ih =>
    unfold Json.lookup last? at ih ⊢
    rw [List.foldl_concat, List.reverse_concat, List.find?_cons, ih]
    by_cases hkey : field.1 = key <;> simp [hkey]

/-- Fields with other keys have no say. -/
theorem last?_filter (fields : Fields) {keys : List String} {key : String} (h : key ∈ keys) :
    last? (fields.filter fun field => field.1 ∈ keys) key = last? fields key := by
  unfold last?
  rw [← List.filter_reverse, List.find?_filter]
  congr 2
  funext field
  by_cases hkey : field.1 = key
  · simp [hkey, h]
  · simp [hkey]

/-- Without repeated keys the last value under a key is the only one. -/
theorem last?_eq_some_iff {fields : Fields} (hd : (fields.map Prod.fst).Nodup) {key : String}
    {v : Json} : last? fields key = some v ↔ (key, v) ∈ fields := by
  unfold last?
  constructor
  · intro h
    obtain ⟨field, hfield, rfl⟩ := Option.map_eq_some_iff.mp h
    have hkey : field.1 = key := by simpa using List.find?_some hfield
    rw [← hkey]
    exact List.mem_reverse.mp (List.mem_of_find?_eq_some hfield)
  · intro hmem
    obtain ⟨field, hfield⟩ :
        ∃ field, fields.reverse.find? (fun field => field.1 = key) = some field :=
      Option.isSome_iff_exists.mp
        (List.find?_isSome.mpr ⟨(key, v), List.mem_reverse.mpr hmem, decide_eq_true rfl⟩)
    have hkey : field.1 = key := by simpa using List.find?_some hfield
    have hfmem : field ∈ fields := List.mem_reverse.mp (List.mem_of_find?_eq_some hfield)
    rw [hfield, List.inj_on_of_nodup_map hd hfmem hmem hkey]
    rfl

/-- The order of fields without repeated keys has no say. -/
theorem last?_perm {fields others : Fields} (h : fields.Perm others)
    (hd : (fields.map Prod.fst).Nodup) (key : String) : last? fields key = last? others key := by
  refine Option.ext fun v => ?_
  rw [last?_eq_some_iff hd, last?_eq_some_iff ((h.map Prod.fst).nodup_iff.mp hd)]
  exact h.mem_iff

/-- A body holds a JSON object. -/
def IsObject (body : ByteArray) : Prop :=
  ∃ fields, Json.ofBytes? body = some (.object fields)

/-- The value that a body holds under a key: of an object, the last one. -/
def value? (body : ByteArray) (key : String) : Option Json :=
  match Json.ofBytes? body with
  | some (.object fields) => last? fields key
  | _ => none

variable {body other : ByteArray} {fields : Fields}

theorem object_eq_ok_iff :
    object body = .ok fields ↔ Json.ofBytes? body = some (.object fields) := by
  unfold object
  split <;> simp_all

theorem object_eq_error {d : BodyDefect} (h : object body = .error d) :
    ¬ IsObject body ∧ d = .notAnObject := by
  refine ⟨fun ⟨fields, hfields⟩ => ?_, ?_⟩
  · rw [object_eq_ok_iff.mpr hfields] at h
    cases h
  · unfold object at h
    split at h <;> cases h
    rfl

theorem lookup_of_object (h : object body = .ok fields) (key : String) :
    Json.lookup fields key = value? body key := by
  rw [lookup_eq, value?, object_eq_ok_iff.mp h]

/-! ## What a body says -/

/-- What a body says about a part of the address: a 32-bit integer, or nothing, which asks for a
resource that is already open. -/
inductive Locates (body : ByteArray) (key : String) : Int32 → Prop
  | absent : value? body key = none → Locates body key (-2)
  | given {n : Int32} : value? body key = some (.int n.toInt) → Locates body key n

/-- The voltage that a body asks for: a number of any kind. -/
inductive Demands (body : ByteArray) : Float → Prop
  | int {n : Int} : value? body "target_state" = some (.int n) → Demands body (.ofInt n)
  | float {x : Float} : value? body "target_state" = some (.float x) → Demands body x

/-- The subscriber that a body names: a text, unless that is empty. -/
inductive Subscribes (body : ByteArray) : Option String → Prop
  | absent : value? body "webhook" = none → Subscribes body none
  | null : value? body "webhook" = some .null → Subscribes body none
  | empty : value? body "webhook" = some (.text "") → Subscribes body none
  | given {url : String} : value? body "webhook" = some (.text url) → url ≠ "" →
    Subscribes body (some url)

theorem Locates.unique {key : String} {m n : Int32} (hm : Locates body key m)
    (hn : Locates body key n) : m = n := by
  cases hm with
  | absent hm =>
    cases hn with
    | absent => rfl
    | given hn => cases hm.symm.trans hn
  | given hm =>
    cases hn with
    | absent hn => cases hm.symm.trans hn
    | given hn =>
      injection hm.symm.trans hn with h
      injection h with h
      exact Int32.toInt_inj.mp h

theorem Demands.unique {x y : Float} (hx : Demands body x) (hy : Demands body y) : x = y := by
  cases hx with
  | int hx =>
    cases hy with
    | int hy =>
      injection hx.symm.trans hy with h
      injection h with h
      rw [h]
    | float hy => cases hx.symm.trans hy
  | float hx =>
    cases hy with
    | int hy => cases hx.symm.trans hy
    | float hy =>
      injection hx.symm.trans hy with h
      injection h

theorem Demands.holds {x : Float} (h : Demands body x) :
    ∃ v, value? body "target_state" = some v := by
  cases h with
  | int hv => exact ⟨_, hv⟩
  | float hv => exact ⟨_, hv⟩

theorem Subscribes.unique {a b : Option String} (ha : Subscribes body a) (hb : Subscribes body b) :
    a = b := by
  cases ha <;> cases hb <;> simp_all

end Body

open Body

/-- **Which body makes which call at an endpoint.** -/
inductive Endpoint.Makes (body : ByteArray) : Endpoint → Call → Prop
  | digitalOut {name : String} {state : Bool} {channel hubPort : Int32} :
    value? body "name" = some (.text name) →
    value? body "target_state" = some (.bool state) →
    Locates body "channel" channel → Locates body "hub_port" hubPort →
    Makes body .digitalOut (.digitalOut name state ⟨channel, hubPort⟩)
  | voltageOut {name : String} {volts : Float} {channel hubPort : Int32} :
    value? body "name" = some (.text name) →
    Demands body volts → -10 ≤ volts ∧ volts ≤ 10 →
    Locates body "channel" channel → Locates body "hub_port" hubPort →
    Makes body .voltageOut (.voltageOut name volts ⟨channel, hubPort⟩)
  | digitalIn {name : String} {channel hubPort : Int32} {webhook : Option String} :
    value? body "name" = some (.text name) →
    value? body "channel" = some (.int channel.toInt) →
    value? body "hub_port" = some (.int hubPort.toInt) →
    Subscribes body webhook →
    Makes body .digitalIn (.digitalIn name ⟨channel, hubPort⟩ webhook)
  | close {name : String} :
    value? body "name" = some (.text name) → Makes body .close (.close name)

/-! ## Checks -/

/-- A check of a body, and what is told if it fails. -/
structure Check where
  message : String
  Passes : ByteArray → Prop

namespace Check

/-- A check is the first of a list that a body fails. -/
def IsFirstFailed (body : ByteArray) (checks : List Check) (c : Check) : Prop :=
  ∃ before after, checks = before ++ c :: after ∧ (∀ p ∈ before, p.Passes body) ∧ ¬ c.Passes body

variable {body : ByteArray} {checks : List Check} {c : Check}

theorem IsFirstFailed.append (h : IsFirstFailed body checks c) (more : List Check) :
    IsFirstFailed body (checks ++ more) c := by
  obtain ⟨before, after, rfl, hbefore, hc⟩ := h
  exact ⟨before, after ++ more, by simp, hbefore, hc⟩

theorem IsFirstFailed.after (h : IsFirstFailed body checks c) {passed : List Check}
    (hpassed : ∀ p ∈ passed, p.Passes body) : IsFirstFailed body (passed ++ checks) c := by
  obtain ⟨before, after, rfl, hbefore, hc⟩ := h
  refine ⟨passed ++ before, after, by simp, fun p hp => ?_, hc⟩
  exact (List.mem_append.mp hp).elim (hpassed p) (hbefore p)

theorem IsFirstFailed.single (h : ¬ c.Passes body) : IsFirstFailed body [c] c :=
  ⟨[], [], rfl, nofun, h⟩

theorem IsFirstFailed.mem (h : IsFirstFailed body checks c) : c ∈ checks := by
  obtain ⟨before, after, rfl, -, -⟩ := h
  simp

theorem IsFirstFailed.fails (h : IsFirstFailed body checks c) : ¬ c.Passes body := by
  obtain ⟨-, -, -, -, hc⟩ := h
  exact hc

/-- A body is an object. -/
def object (message : String) : Check :=
  ⟨message, IsObject⟩

/-- A body holds a value under each of some keys. -/
def holds (keys : List String) (message : String) : Check :=
  ⟨message, fun body => ∀ key ∈ keys, ∃ v, value? body key = some v⟩

/-- The name is a text. -/
def name (message : String) : Check :=
  ⟨message, fun body => ∃ s, value? body "name" = some (.text s)⟩

/-- A part of the address is a 32-bit integer, or absent. -/
def locates (key message : String) : Check :=
  ⟨message, fun body => ∃ n, Locates body key n⟩

/-- A part of the address is a 32-bit integer. -/
def integer (key message : String) : Check :=
  ⟨message, fun body => ∃ n : Int32, value? body key = some (.int n.toInt)⟩

end Check

/-- What an endpoint checks, in order. -/
def Endpoint.checks : Endpoint → List Check
  | digitalOut => [
      .object "bad request",
      .holds ["name", "target_state"] "requires name (str) and target_state (bool)",
      .name "name must be a string",
      ⟨"target_state must be a boolean",
        fun body => ∃ b, value? body "target_state" = some (.bool b)⟩,
      .locates "channel" "channel must be an integer",
      .locates "hub_port" "hub_port must be an integer"]
  | voltageOut => [
      .object "bad request",
      .holds ["name", "target_state"] "requires name (str) and target_state (float)",
      .name "name must be a string",
      ⟨"target_state must be an int or float", fun body => ∃ x, Demands body x⟩,
      ⟨"target_state must be +/- 10V", fun body => ∃ x, Demands body x ∧ -10 ≤ x ∧ x ≤ 10⟩,
      .locates "channel" "channel must be an integer",
      .locates "hub_port" "hub_port must be an integer"]
  | digitalIn =>
    let usage := "requires name (str), channel (int), hub_port (int)"
    [.object usage, .name usage, .integer "channel" usage, .integer "hub_port" usage,
      ⟨usage, fun body => ∃ webhook, Subscribes body webhook⟩]
  | close => [
      .object "bad request",
      .holds ["name"] "requires name (str)",
      .name "name must be a string"]

/-! ## Reading by checks -/

namespace Body

/-- A step of reading passes its checks and hands on a value, or fails the first that the body
fails. -/
inductive Reads (body : ByteArray) (checks : List Check) {α : Type} (Holds : α → Prop) :
    Except BodyDefect α → Prop
  | passes {v : α} : (∀ c ∈ checks, c.Passes body) → Holds v → Reads body checks Holds (.ok v)
  | fails {d : BodyDefect} {c : Check} : Check.IsFirstFailed body checks c → d.text = c.message →
    Reads body checks Holds (.error d)

variable {body : ByteArray} {α β : Type} {fields : Fields}

theorem Reads.done {Holds : α → Prop} {v : α} (h : Holds v) : Reads body [] Holds (.ok v) :=
  .passes nofun h

/-- **Steps in sequence** pass the checks of both. -/
theorem Reads.bind {P : α → Prop} {Q : β → Prop} {first next : List Check}
    {x : Except BodyDefect α} {f : α → Except BodyDefect β} (hx : Reads body first P x)
    (hf : ∀ v, P v → Reads body next Q (f v)) : Reads body (first ++ next) Q (x >>= f) := by
  cases hx with
  | fails hfailed htext => exact .fails (hfailed.append next) htext
  | @passes v hfirst hv =>
    change Reads body (first ++ next) Q (f v)
    have hnext : Reads body next Q (f v) := hf v hv
    generalize f v = y at hnext ⊢
    cases hnext with
    | passes hnext hw =>
      exact .passes (fun c hc => (List.mem_append.mp hc).elim (hfirst c) (hnext c)) hw
    | fails hfailed htext => exact .fails (hfailed.after hfirst) htext

/-- A step by a single check. -/
theorem Reads.step {P : α → Prop} {Q : β → Prop} {c : Check} {next : List Check}
    {x : Except BodyDefect α} {f : α → Except BodyDefect β} (hx : Reads body [c] P x)
    (hf : ∀ v, P v → Reads body next Q (f v)) : Reads body (c :: next) Q (x >>= f) :=
  hx.bind hf

/-- A value that is there or not, by a single check. -/
theorem orDefect_reads {P : α → Prop} {o : Option α} {d : BodyDefect} {c : Check}
    (ho : ∀ v, o = some v ↔ P v) (hc : c.Passes body ↔ ∃ v, P v) (hd : d.text = c.message) :
    Reads body [c] P (orDefect d o) := by
  cases o with
  | some v =>
    have hv : P v := (ho v).mp rfl
    exact .passes (by simpa using hc.mpr ⟨v, hv⟩) hv
  | none =>
    refine .fails (.single fun hpass => ?_) hd
    obtain ⟨v, hv⟩ := hc.mp hpass
    cases (ho v).mpr hv

section Steps

variable (h : object body = .ok fields)
include h

/-- A field read in a way that accepts one value for each result. -/
theorem field?_eq_some_iff {read : Json → Option α} {encode : α → Json}
    (hread : ∀ v a, read v = some a ↔ v = encode a) (key : String) (a : α) :
    field? fields key read = some a ↔ value? body key = some (encode a) := by
  rw [field?, lookup_of_object h, Option.bind_eq_some_iff]
  simp [hread]

theorem requireAll_reads (endpoint : Endpoint) :
    Reads body [.holds endpoint.required endpoint.usage] (fun _ => True)
      (requireAll endpoint fields) := by
  have hpass : endpoint.required.all (Json.has fields) = true ↔
      (Check.holds endpoint.required endpoint.usage).Passes body := by
    simp [Check.holds, Json.has, lookup_of_object h, Option.isSome_iff_exists]
  unfold requireAll
  split
  · rename_i hall
    exact .passes (by simpa using hpass.mp hall) trivial
  · rename_i hall
    exact .fails (.single fun hp => hall (hpass.mpr hp)) rfl

theorem text_reads {d : BodyDefect} {c : Check} {key : String}
    (hc : c.Passes body ↔ ∃ s, value? body key = some (.text s)) (hd : d.text = c.message) :
    Reads body [c] (fun s => value? body key = some (.text s))
      (orDefect d (field? fields key Json.asText?)) :=
  orDefect_reads (field?_eq_some_iff h (fun _ _ => Json.asText?_eq_some_iff) key) hc hd

theorem integer_reads (d : BodyDefect) (key : String) :
    Reads body [.integer key d.text] (fun n : Int32 => value? body key = some (.int n.toInt))
      (orDefect d (field? fields key Json.asInt32?)) :=
  orDefect_reads (field?_eq_some_iff h (fun _ _ => Json.asInt32?_eq_some_iff) key) .rfl rfl

theorem addressField_reads {key message : String}
    (hmessage : (BodyDefect.notAnInteger key).text = message) :
    Reads body [.locates key message] (Locates body key) (addressField fields key) := by
  unfold addressField
  rw [lookup_of_object h]
  cases hv : value? body key with
  | none =>
    have habsent : Locates body key (-2) := .absent hv
    exact .passes (by simpa using ⟨_, habsent⟩) habsent
  | some v =>
    refine orDefect_reads (fun n => ?_) .rfl hmessage
    rw [Json.asInt32?_eq_some_iff]
    constructor
    · rintro rfl
      exact .given hv
    · intro hn
      cases hn with
      | absent hnone => cases hv.symm.trans hnone
      | given hsome => exact Option.some_inj.mp (hv.symm.trans hsome)

theorem address_reads :
    Reads body [.locates "channel" "channel must be an integer",
        .locates "hub_port" "hub_port must be an integer"]
      (fun a => Locates body "channel" a.channel ∧ Locates body "hub_port" a.hubPort)
      (address fields) :=
  (addressField_reads h rfl).step fun _ hchannel =>
    (addressField_reads h rfl).step fun _ hhubPort => .done ⟨hchannel, hhubPort⟩

theorem voltage_reads :
    Reads body [⟨"target_state must be an int or float", fun body => ∃ x, Demands body x⟩,
        ⟨"target_state must be +/- 10V", fun body => ∃ x, Demands body x ∧ -10 ≤ x ∧ x ≤ 10⟩]
      (fun x => Demands body x ∧ -10 ≤ x ∧ x ≤ 10) (voltage fields) := by
  have hdemands (x : Float) :
      field? fields "target_state" Json.asFloat? = some x ↔ Demands body x := by
    rw [field?, lookup_of_object h, Option.bind_eq_some_iff]
    constructor
    · rintro ⟨v, hv, hx⟩
      cases v with
      | int n =>
        cases hx
        exact .int hv
      | float y =>
        cases hx
        exact .float hv
      | _ => cases hx
    · intro hx
      cases hx with
      | int hv => exact ⟨_, hv, rfl⟩
      | float hv => exact ⟨_, hv, rfl⟩
  have hinRange (x : Float) : inVoltageRange x = true ↔ -10 ≤ x ∧ x ≤ 10 := by
    rw [inVoltageRange, Bool.and_eq_true, decide_eq_true_iff, decide_eq_true_iff]
    rfl
  refine (orDefect_reads hdemands .rfl rfl).step fun x hx => ?_
  by_cases hrange : inVoltageRange x = true
  · rw [if_pos hrange]
    have hx' : Demands body x ∧ -10 ≤ x ∧ x ≤ 10 := ⟨hx, (hinRange x).mp hrange⟩
    exact .passes (by simpa using ⟨x, hx'⟩) hx'
  · rw [if_neg hrange]
    refine .fails (.single ?_) rfl
    rintro ⟨y, hy, hyrange⟩
    rw [← hx.unique hy, ← hinRange] at hyrange
    exact hrange hyrange

theorem webhook_reads :
    Reads body [⟨Endpoint.usage .digitalIn, fun body => ∃ webhook, Subscribes body webhook⟩]
      (Subscribes body) (webhook fields) := by
  have hpasses {w : Option String} (hw : Subscribes body w) :
      Reads body [⟨Endpoint.usage .digitalIn, fun body => ∃ webhook, Subscribes body webhook⟩]
        (Subscribes body) (.ok w) :=
    .passes (by simpa using ⟨w, hw⟩) hw
  unfold webhook
  rw [lookup_of_object h]
  split
  · rename_i hv
    exact hpasses (.absent hv)
  · rename_i hv
    exact hpasses (.null hv)
  · rename_i url hv
    by_cases hurl : url = ""
    · subst hurl
      exact hpasses (.empty hv)
    · rw [if_neg hurl]
      exact hpasses (.given hv hurl)
  · rename_i v hnull htext hv
    refine .fails (.single ?_) rfl
    rintro ⟨w, hw⟩
    cases hw with
    | absent hw => cases hv.symm.trans hw
    | null hw => exact hnull (Option.some_inj.mp (hv.symm.trans hw))
    | empty hw => exact htext _ (Option.some_inj.mp (hv.symm.trans hw))
    | given hw _ => exact htext _ (Option.some_inj.mp (hv.symm.trans hw))

/-- What an endpoint checks of an object. -/
theorem digitalOut_reads :
    Reads body (Endpoint.checks .digitalOut).tail (Endpoint.Makes body .digitalOut)
      (digitalOut fields) := by
  refine (requireAll_reads h .digitalOut).step fun _ _ => ?_
  refine (text_reads h .rfl rfl).step fun name hname => ?_
  refine Reads.step (orDefect_reads (field?_eq_some_iff h
    (fun _ _ => Json.asBool?_eq_some_iff) "target_state") .rfl rfl) fun state hstate => ?_
  exact (address_reads h).bind fun a ha => .done (.digitalOut hname hstate ha.1 ha.2)

theorem voltageOut_reads :
    Reads body (Endpoint.checks .voltageOut).tail (Endpoint.Makes body .voltageOut)
      (voltageOut fields) := by
  refine (requireAll_reads h .voltageOut).step fun _ _ => ?_
  refine (text_reads h .rfl rfl).step fun name hname => ?_
  refine (voltage_reads h).bind fun volts hvolts => ?_
  exact (address_reads h).bind fun a ha =>
    .done (.voltageOut hname hvolts.1 hvolts.2 ha.1 ha.2)

theorem digitalIn_reads :
    Reads body (Endpoint.checks .digitalIn).tail (Endpoint.Makes body .digitalIn)
      (digitalIn fields) := by
  refine (text_reads h .rfl rfl).step fun name hname => ?_
  refine (integer_reads h (.incomplete .digitalIn) "channel").step fun channel hchannel => ?_
  refine (integer_reads h (.incomplete .digitalIn) "hub_port").step fun hubPort hhubPort => ?_
  exact (webhook_reads h).step fun webhook hwebhook =>
    .done (.digitalIn hname hchannel hhubPort hwebhook)

theorem close_reads :
    Reads body (Endpoint.checks .close).tail (Endpoint.Makes body .close) (close fields) := by
  refine (requireAll_reads h .close).step fun _ _ => ?_
  exact (text_reads h .rfl rfl).step fun name hname => .done (.close hname)

end Steps

end Body

namespace Endpoint

variable {body other : ByteArray} {endpoint : Endpoint} {call call' : Call}

/-- **Every endpoint reads by its checks.** -/
theorem read_reads (endpoint : Endpoint) (body : ByteArray) :
    Reads body endpoint.checks (Makes body endpoint) (endpoint.read body) := by
  unfold read
  cases hobject : object body with
  | error d =>
    obtain ⟨hnot, rfl⟩ := object_eq_error hobject
    cases endpoint <;>
      exact .fails (c := .object _) ((Check.IsFirstFailed.single hnot).append _) rfl
  | ok fields =>
    have hpassed (message : String) :
        Reads body [.object message] (fun _ : Unit => True) (.ok ()) :=
      .passes (by simpa using ⟨fields, object_eq_ok_iff.mp hobject⟩) trivial
    cases endpoint with
    | digitalOut => exact (hpassed _).step fun _ _ => digitalOut_reads hobject
    | voltageOut => exact (hpassed _).step fun _ _ => voltageOut_reads hobject
    | digitalIn => exact (hpassed _).step fun _ _ => digitalIn_reads hobject
    | close => exact (hpassed _).step fun _ _ => close_reads hobject

/-! ## What is read, and what has no say -/

/-- A body makes at most one call at an endpoint. -/
theorem Makes.unique (h : endpoint.Makes body call) (h' : endpoint.Makes body call') :
    call = call' := by
  cases h with
  | digitalOut hname hstate hchannel hhubPort =>
    cases h' with
    | digitalOut hname' hstate' hchannel' hhubPort' =>
      cases hname.symm.trans hname'
      cases hstate.symm.trans hstate'
      rw [hchannel.unique hchannel', hhubPort.unique hhubPort']
  | voltageOut hname hvolts _ hchannel hhubPort =>
    cases h' with
    | voltageOut hname' hvolts' _ hchannel' hhubPort' =>
      cases hname.symm.trans hname'
      rw [hvolts.unique hvolts', hchannel.unique hchannel', hhubPort.unique hhubPort']
  | digitalIn hname hchannel hhubPort hwebhook =>
    cases h' with
    | digitalIn hname' hchannel' hhubPort' hwebhook' =>
      cases hname.symm.trans hname'
      rw [Locates.unique (.given hchannel) (.given hchannel'),
        Locates.unique (.given hhubPort) (.given hhubPort'), hwebhook.unique hwebhook']
  | close hname =>
    cases h' with
    | close hname' =>
      cases hname.symm.trans hname'
      rfl

/-- A body that makes a call passes every check. -/
theorem Makes.passes (h : endpoint.Makes body call) : ∀ c ∈ endpoint.checks, c.Passes body := by
  have hobject {s : String} (hs : value? body "name" = some (.text s)) : IsObject body := by
    unfold value? at hs
    split at hs
    · exact ⟨_, ‹_›⟩
    · cases hs
  cases h with
  | digitalOut hname hstate hchannel hhubPort =>
    simp only [checks, List.forall_mem_cons, Check.object, Check.holds, Check.name, Check.locates]
    exact ⟨hobject hname, ⟨⟨_, hname⟩, ⟨_, hstate⟩, nofun⟩, ⟨_, hname⟩, ⟨_, hstate⟩,
      ⟨_, hchannel⟩, ⟨_, hhubPort⟩, nofun⟩
  | voltageOut hname hvolts hrange hchannel hhubPort =>
    simp only [checks, List.forall_mem_cons, Check.object, Check.holds, Check.name, Check.locates]
    exact ⟨hobject hname, ⟨⟨_, hname⟩, hvolts.holds, nofun⟩, ⟨_, hname⟩, ⟨_, hvolts⟩,
      ⟨_, hvolts, hrange⟩, ⟨_, hchannel⟩, ⟨_, hhubPort⟩, nofun⟩
  | digitalIn hname hchannel hhubPort hwebhook =>
    simp only [checks, List.forall_mem_cons, Check.object, Check.name, Check.integer]
    exact ⟨hobject hname, ⟨_, hname⟩, ⟨_, hchannel⟩, ⟨_, hhubPort⟩, ⟨_, hwebhook⟩, nofun⟩
  | close hname =>
    simp only [checks, List.forall_mem_cons, Check.object, Check.holds, Check.name]
    exact ⟨hobject hname, ⟨⟨_, hname⟩, nofun⟩, ⟨_, hname⟩, nofun⟩

/-- The calls that are read are those that the body makes. -/
theorem read_eq_ok_iff : endpoint.read body = .ok call ↔ endpoint.Makes body call := by
  have h := read_reads endpoint body
  constructor
  · intro hread
    rw [hread] at h
    cases h with
    | passes _ hmakes => exact hmakes
  · intro hmakes
    generalize endpoint.read body = result at h ⊢
    cases h with
    | passes _ hmakes' => rw [hmakes'.unique hmakes]
    | fails hfailed _ => exact absurd (hmakes.passes _ hfailed.mem) hfailed.fails

/-- The keys that an endpoint knows. -/
def known : Endpoint → List String
  | digitalOut => ["name", "target_state", "channel", "hub_port"]
  | voltageOut => ["name", "target_state", "channel", "hub_port"]
  | digitalIn => ["name", "channel", "hub_port", "webhook"]
  | close => ["name"]

/-- **What an endpoint does not know has no say**: objects with the same values under the keys that
it knows are read alike, and so are all bodies that are no objects. -/
theorem read_congr (hobject : IsObject body ↔ IsObject other)
    (hknown : ∀ key ∈ endpoint.known, value? body key = value? other key) :
    endpoint.read body = endpoint.read other := by
  unfold read
  cases hfields : object body with
  | error d =>
    obtain ⟨hnot, rfl⟩ := object_eq_error hfields
    cases hothers : object other with
    | error d' =>
      obtain ⟨-, rfl⟩ := object_eq_error hothers
      rfl
    | ok others => exact absurd (hobject.mpr ⟨others, object_eq_ok_iff.mp hothers⟩) hnot
  | ok fields =>
    cases hothers : object other with
    | error d' =>
      exact absurd (hobject.mp ⟨fields, object_eq_ok_iff.mp hfields⟩) (object_eq_error hothers).1
    | ok others =>
      have hlookup : ∀ key ∈ endpoint.known, Json.lookup fields key = Json.lookup others key := by
        intro key hkey
        rw [lookup_of_object hfields, lookup_of_object hothers, hknown key hkey]
      have hrequire : requireAll endpoint fields = requireAll endpoint others := by
        have hsubset : endpoint.required ⊆ endpoint.known := by cases endpoint <;> decide
        have hall :
            endpoint.required.all (Json.has fields) = endpoint.required.all (Json.has others) := by
          refine Bool.eq_iff_iff.mpr ?_
          simp only [List.all_eq_true]
          refine forall₂_congr fun key hkey => ?_
          rw [Json.has, Json.has, hlookup key (hsubset hkey)]
        rw [requireAll, requireAll, hall]
      cases endpoint <;> simp only [known, List.forall_mem_cons] at hlookup
      · simp only [Body.digitalOut, hrequire, Body.name, field?, address, addressField, hlookup]
      · simp only [Body.voltageOut, hrequire, Body.name, field?, voltage, address, addressField,
          hlookup]
      · simp only [Body.digitalIn, field?, webhook, hlookup]
      · simp only [Body.close, hrequire, Body.name, field?, hlookup]

end Endpoint

/-- **Bodies are accepted by the rules of their fields.** A body is read as a call exactly if it
makes that call, and some call if and only if it passes every check of the endpoint. Every rejection
has status 400 and the text of the first check that the body fails. Of an object only the last
values under the keys that the endpoint knows matter: fields with other keys do not, and neither
does their order, as far as no key that the endpoint knows is repeated. -/
theorem bodies_checked (endpoint : Endpoint) (body : ByteArray) :
    (∀ call, endpoint.read body = .ok call ↔ endpoint.Makes body call) ∧
    ((∃ call, endpoint.read body = .ok call) ↔ ∀ c ∈ endpoint.checks, c.Passes body) ∧
    (∀ d, endpoint.read body = .error d →
      ∃ c, Check.IsFirstFailed body endpoint.checks c ∧ d.rejection = ⟨400, c.message, none⟩) ∧
    (∀ other, (IsObject body ↔ IsObject other) →
      (∀ key ∈ endpoint.known, value? body key = value? other key) →
      endpoint.read body = endpoint.read other) ∧
    ∀ other fields others, Json.ofBytes? body = some (.object fields) →
      Json.ofBytes? other = some (.object others) →
      (fields.filter fun field => field.1 ∈ endpoint.known).Perm
        (others.filter fun field => field.1 ∈ endpoint.known) →
      ((fields.filter fun field => field.1 ∈ endpoint.known).map Prod.fst).Nodup →
      endpoint.read body = endpoint.read other := by
  refine ⟨fun _ => Endpoint.read_eq_ok_iff, ?_, ?_, fun _ => Endpoint.read_congr, ?_⟩
  · constructor
    · rintro ⟨call, hread⟩
      exact (Endpoint.read_eq_ok_iff.mp hread).passes
    · intro hpasses
      have h := Endpoint.read_reads endpoint body
      generalize endpoint.read body = result at h
      cases h with
      | passes => exact ⟨_, rfl⟩
      | fails hfailed _ => exact absurd (hpasses _ hfailed.mem) hfailed.fails
  · intro d hread
    have h := Endpoint.read_reads endpoint body
    rw [hread] at h
    cases h with
    | fails hfailed htext => exact ⟨_, hfailed, by rw [BodyDefect.rejection, htext]; rfl⟩
  · intro other fields others hfields hothers hperm hdistinct
    refine Endpoint.read_congr (iff_of_true ⟨_, hfields⟩ ⟨_, hothers⟩) fun key hkey => ?_
    simp only [value?, hfields, hothers]
    rw [← last?_filter fields hkey, ← last?_filter others hkey, last?_perm hperm hdistinct]

/-- A name that is no text is told before a target state that is no truth value. -/
example :
    (Endpoint.digitalOut.read "\x7b\"target_state\": 1, \"name\": 2\x7d".toUTF8).map (fun _ => ()) =
      .error .nameNotText := by
  decide +kernel

end ChannelGateway
