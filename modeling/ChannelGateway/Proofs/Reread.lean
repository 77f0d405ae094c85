import ChannelGateway.Config.Start
import ChannelGateway.Proofs.Rounding
import ChannelGateway.Proofs.Settings

/-!
# Configurations are read as they are written

A configuration is written with every setting, so that reading it back never falls back on a
default. That it gives the same configuration is shown from the leaves on: each way to write a
number, a name or a list has a decoder that undoes it, and a record is read back if its fields are.
Only one kind of value is not written as it is, a failure rate that is not a finite number. Such a
rate cannot come from JSON, where all numbers are finite (`Json.IsFinite`), so whatever JSON value a
configuration has been read from, in any of the forms that are accepted, writing the configuration
gives a value that stays the same when it is read and written once more.

Results:
* `HubConfig.decode_toJson`, `StartupChannel.decode_toJson`, `Scenario.decode_toJson`: the parts.
* `GatewayConfig.decode_toJson`: a configuration with a finite failure rate.
* `GatewayConfig.isFinite_of_decode`: the failure rate of a configuration from JSON.
* **`configs_reread`**: what is written is read back, and a value that is written is a normal form.
-/

namespace ChannelGateway

/-! ## Values that are written -/

namespace Decoder

variable {α : Type}

theorem integer_ofNat {n high : Nat} (h : n ≤ high) :
    integer 0 high (.ofJson (.ofNat n)) = .ok (Int.ofNat n) :=
  if_pos ⟨Int.natCast_nonneg n, Int.ofNat_le.mpr h⟩

theorem word16_ofNat (n : UInt16) : word16 (.ofJson (.ofNat n.toNat)) = .ok n := by
  have hread := integer_ofNat (Nat.le_of_lt_succ n.toNat_lt)
  exact Decoded.map_eq_ok_iff.mpr ⟨_, hread, UInt16.ofNat_toNat⟩

theorem word32_ofNat (n : UInt32) : word32 (.ofJson (.ofNat n.toNat)) = .ok n := by
  have hread := integer_ofNat (Nat.le_of_lt_succ n.toNat_lt)
  exact Decoded.map_eq_ok_iff.mpr ⟨_, hread, UInt32.ofNat_toNat⟩

theorem word64_ofNat (n : UInt64) : word64 (.ofJson (.ofNat n.toNat)) = .ok n := by
  have hread := integer_ofNat (Nat.le_of_lt_succ n.toNat_lt)
  exact Decoded.map_eq_ok_iff.mpr ⟨_, hread, UInt64.ofNat_toNat⟩

theorem signed32_int (n : Int32) : signed32 (.ofJson (.int n.toInt)) = .ok n := by
  have hread : integer Int32.minValue.toInt Int32.maxValue.toInt (.int n.toInt) = .ok n.toInt :=
    if_pos ⟨n.minValue_le_toInt, n.toInt_le⟩
  exact Decoded.map_eq_ok_iff.mpr ⟨_, hread, Int32.ofInt_toInt n⟩

theorem number_ofFloat {x : Float} (h : x.isFinite = true) :
    number (.ofJson (.ofFloat x)) = .ok x := by
  rw [Json.ofFloat, if_pos h]
  rfl

/-- A list is read back if its items are. -/
theorem listOf_map {d : Decoder α} {write : α → Json} (h : ∀ a, d (.ofJson (write a)) = .ok a)
    (l : List α) : listOf d (.ofJson (.array (l.map write))) = .ok l := by
  have hitems : ∀ index, items d index (Tree.ofItems (l.map write)) = .ok l := by
    induction l with
    | nil => exact fun _ => rfl
    | cons a rest ih =>
      intro index
      rw [List.map_cons, Tree.ofItems, items, h a]
      exact Decoded.map_eq_ok_iff.mpr ⟨rest, ih (index + 1), rfl⟩
  exact hitems 0

end Decoder

/-! ## Records that are written -/

section

open Decoder

variable {strictness : Strictness}

theorem Operation.decodeWithin_label (op : Operation) :
    Operation.decodeWithin (.text op.label) = .ok op := by
  cases op <;> rfl

theorem ChannelKind.decode_label (kind : ChannelKind) :
    ChannelKind.decode (.text kind.label) = .ok kind := by
  cases kind <;> rfl

theorem Scenario.decode_toJson (s : Scenario) : Scenario.decode (.ofJson s.toJson) = .ok s := by
  -- the name of the variant is read first, and then its fields
  cases s with
  | failAfter op count =>
    refine Decoded.asWhole_eq_ok_iff.mpr ?_
    simp only [ScenarioKind.ofRecord, Record.settle_bind_iff, Record.settle_nil_iff,
      Record.required_eq_ok_iff]
    exact ⟨op, ⟨_, rfl, op.decodeWithin_label⟩, count, ⟨_, rfl, word32_ofNat count⟩, rfl⟩
  | timeout op =>
    refine Decoded.asWhole_eq_ok_iff.mpr (Decoded.map_eq_ok_iff.mpr ⟨op, ?_, rfl⟩)
    exact Record.required_eq_ok_iff.mpr ⟨_, rfl, op.decodeWithin_label⟩
  | linkLoss => rfl
  | hubFault code =>
    refine Decoded.asWhole_eq_ok_iff.mpr (Decoded.map_eq_ok_iff.mpr ⟨code, ?_, rfl⟩)
    exact Record.required_eq_ok_iff.mpr ⟨_, rfl, word32_ofNat code⟩

theorem HubConfig.decode_toJson {c : HubConfig} (finite : c.failureRate.isFinite = true) :
    record strictness 7 (HubConfig.ofRecord strictness) (.ofJson c.toJson) = .ok c := by
  have hmode : Decoder.label HubMode.all HubMode.label (.text c.mode.label) = .ok c.mode := by
    cases c.mode <;> rfl
  have htiming : HubTiming.ofRecord (.named (Tree.ofFields [
      ("attach_delay_ms", .ofNat c.timing.attachDelay.toNat),
      ("io_delay_ms", .ofNat c.timing.ioDelay.toNat)])) = .ok c.timing :=
    HubTiming.ofRecord_eq_ok_iff.mpr ⟨word64_ofNat _, word64_ofNat _⟩
  have hseed : optional word64 (.ofJson (.orNull (c.seed.map fun seed => .ofNat seed.toNat))) =
      .ok c.seed := by
    cases c.seed with
    | none => rfl
    | some seed => exact Decoded.map_eq_ok_iff.mpr ⟨seed, word64_ofNat seed, rfl⟩
  exact record_eq_ok_iff.mpr (.inl ⟨_, rfl, HubConfig.ofRecord_eq_ok_iff.mpr
    ⟨word32_ofNat _, word32_ofNat _, hmode, record_eq_ok_iff.mpr (.inl ⟨_, rfl, htiming⟩),
      number_ofFloat finite, hseed, listOf_map Scenario.decode_toJson _⟩⟩)

theorem StartupChannel.decode_toJson (c : StartupChannel) :
    record strictness 5 StartupChannel.ofRecord (.ofJson c.toJson) = .ok c :=
  record_eq_ok_iff.mpr (.inl ⟨_, rfl, StartupChannel.ofRecord_eq_ok_iff.mpr
    ⟨⟨_, rfl, rfl⟩, ⟨_, rfl, ChannelKind.decode_label _⟩, ⟨_, rfl, signed32_int _⟩,
      ⟨_, rfl, signed32_int _⟩, listOf_map (fun _ => rfl) _⟩⟩)

/-- **A configuration is read back as it was written**, unless its failure rate is not finite. -/
theorem GatewayConfig.decode_toJson {c : GatewayConfig}
    (finite : c.hardware.hub.failureRate.isFinite = true) :
    GatewayConfig.decode strictness (.ofJson c.toJson) = .ok c := by
  have hserver : ServerConfig.ofRecord (.named (Tree.ofFields [("host", .text c.server.host),
      ("port", .ofNat c.server.port.toNat), ("state_page_title", .text c.server.title)])) =
      .ok c.server :=
    ServerConfig.ofRecord_eq_ok_iff.mpr ⟨rfl, word16_ofNat _, rfl⟩
  have hdriver : Decoder.label HardwareDriver.all HardwareDriver.label
      (.text c.hardware.driver.label) = .ok c.hardware.driver := by
    cases c.hardware.driver with
    | simulated => rfl
  have hhardware : HardwareConfig.ofRecord strictness (.named (Tree.ofFields [
      ("driver", .text c.hardware.driver.label),
      ("open_timeout_ms", .ofNat c.hardware.openTimeout.toNat),
      ("mock", c.hardware.hub.toJson)])) = .ok c.hardware :=
    HardwareConfig.ofRecord_eq_ok_iff.mpr
      ⟨hdriver, word64_ofNat _, HubConfig.decode_toJson finite⟩
  have hwebhooks : WebhookConfig.ofRecord (.named (Tree.ofFields [
      ("delivery_timeout_ms", .ofNat c.webhooks.deliveryTimeout.toNat),
      ("user_agent", .text c.webhooks.userAgent)])) = .ok c.webhooks :=
    WebhookConfig.ofRecord_eq_ok_iff.mpr ⟨word64_ofNat _, rfl⟩
  have hformat : Decoder.label LogFormat.all LogFormat.label (.text c.logging.format.label) =
      .ok c.logging.format := by
    cases c.logging.format <;> rfl
  have hlogging : LoggingConfig.ofRecord (.named (Tree.ofFields [("level", .text c.logging.level),
      ("format", .text c.logging.format.label)])) = .ok c.logging :=
    LoggingConfig.ofRecord_eq_ok_iff.mpr ⟨rfl, hformat⟩
  exact record_eq_ok_iff.mpr (.inl ⟨_, rfl, GatewayConfig.ofRecord_eq_ok_iff.mpr
    ⟨record_eq_ok_iff.mpr (.inl ⟨_, rfl, hserver⟩),
      record_eq_ok_iff.mpr (.inl ⟨_, rfl, hhardware⟩),
      record_eq_ok_iff.mpr (.inl ⟨_, rfl, hwebhooks⟩),
      record_eq_ok_iff.mpr (.inl ⟨_, rfl, hlogging⟩),
      listOf_map StartupChannel.decode_toJson _⟩⟩)

end

/-! ## Values that come from JSON -/

/-- The numbers of a JSON value are finite: a fraction is, and an integer has 64 bits, with a sign
or without. -/
inductive Json.IsFinite : Json → Prop
  | null : IsFinite .null
  | bool (b : Bool) : IsFinite (.bool b)
  | int {n : Int} (low : Int64.minValue.toInt ≤ n) (high : n < UInt64.size) : IsFinite (.int n)
  | float {x : Float} (finite : x.isFinite = true) : IsFinite (.float x)
  | text (s : String) : IsFinite (.text s)
  | array {items : List Json} (inner : ∀ v ∈ items, IsFinite v) : IsFinite (.array items)
  | object {fields : List (String × Json)} (inner : ∀ field ∈ fields, IsFinite field.2) :
    IsFinite (.object fields)

namespace Tree

/-- What a JSON value has at a place is a JSON value. -/
theorem exists_of_field? {v : Json} (finite : v.IsFinite) {p : Place} {t : Tree}
    (h : (ofJson v).field? p = some t) : ∃ w, t = ofJson w ∧ w.IsFinite := by
  cases finite with
  | array inner =>
    rw [ofJson, ofItems_eq] at h
    obtain ⟨w, hw, rfl⟩ := List.mem_map.mp (List.mem_of_getElem? h)
    exact ⟨w, rfl, inner w hw⟩
  | object inner =>
    rw [ofJson, ofFields_eq] at h
    obtain ⟨field, hfield, he⟩ := List.mem_map.mp (mem_of_lookup h)
    obtain ⟨-, rfl⟩ := Prod.mk.inj he
    exact ⟨field.2, rfl, inner field hfield⟩
  | _ => cases h

/-- What a path in a JSON value leads to is a JSON value. -/
theorem exists_of_at? {v : Json} (finite : v.IsFinite) {path : List Place} {t : Tree}
    (h : (ofJson v).at? path = some t) : ∃ w, t = ofJson w ∧ w.IsFinite := by
  induction path generalizing v with
  | nil =>
    rw [at?_nil] at h
    cases h
    exact ⟨v, rfl, finite⟩
  | cons p path ih =>
    rw [at?_cons] at h
    obtain ⟨inner, hinner, ht⟩ := Option.bind_eq_some_iff.mp h
    obtain ⟨w, rfl, hw⟩ := exists_of_field? finite hinner
    exact ih hw ht

end Tree

/-- A number that is read from a JSON value is finite. -/
theorem Decoder.isFinite_of_number {v : Json} (finite : v.IsFinite) {x : Float}
    (h : number (.ofJson v) = .ok x) : x.isFinite = true := by
  cases finite with
  | int low high =>
    cases h
    refine Rounding.isFinite_ofInt ?_
    have hmin : Int64.minValue.toInt = -2 ^ 63 := rfl
    have hsize : (UInt64.size : Int) = 2 ^ 64 := rfl
    omega
  | float finite =>
    cases h
    exact finite
  | _ => cases h

/-- The failure rate of a configuration from JSON is finite. -/
theorem GatewayConfig.isFinite_of_decode {strictness : Strictness} {v : Json} (finite : v.IsFinite)
    {c : GatewayConfig} (h : decode strictness (.ofJson v) = .ok c) :
    c.hardware.hub.failureRate.isFinite = true := by
  have htaken := Setting.taken h .failureRate
  cases hfound : (Tree.ofJson v).at? (Setting.path .failureRate) with
  | none =>
    rw [hfound] at htaken
    have hdefault : c.hardware.hub.failureRate = 0 := htaken
    rw [hdefault]
    decide +kernel
  | some t =>
    rw [hfound] at htaken
    obtain ⟨w, rfl, hw⟩ := Tree.exists_of_at? finite hfound
    exact Decoder.isFinite_of_number hw htaken

/-! ## Normal forms -/

/-- What a JSON value is written as once it has been read as a configuration, if it can be. -/
def GatewayConfig.normalForm? (v : Json) : Option Json :=
  (decode .exact (.ofJson v)).toOption.map toJson

/-- The defaults are a configuration of their own. -/
theorem GatewayConfig.load_defaults : load none [] = .ok {} := by
  have finite : ({} : GatewayConfig).hardware.hub.failureRate.isFinite = true := by decide +kernel
  have haccepted : ({} : GatewayConfig).defect?.isNone = true := by decide +kernel
  rw [Option.isNone_iff_eq_none] at haccepted
  have hlayers : layered none [] = .ofJson ({} : GatewayConfig).toJson := by
    rw [layered, Env.tree, List.foldl_nil]
    rfl
  have hread : decode .lenient (layered none []) = .ok {} := hlayers ▸ decode_toJson finite
  exact load_eq_ok_iff.mpr ⟨none, rfl, hread, haccepted⟩

/-- **Configurations are read as they are written.** A configuration with a finite failure rate is
read back from what it is written as, and what any configuration from JSON is written as stays the
same when it is read and written again. The defaults, laid under neither a file nor an environment,
load as they are. -/
theorem configs_reread :
    (∀ (strictness : Strictness) (c : GatewayConfig), c.hardware.hub.failureRate.isFinite = true →
      GatewayConfig.decode strictness (.ofJson c.toJson) = .ok c) ∧
    (∀ v w : Json, v.IsFinite → GatewayConfig.normalForm? v = some w →
      GatewayConfig.normalForm? w = some w) ∧
    GatewayConfig.load none [] = .ok {} := by
  refine ⟨fun strictness c finite => GatewayConfig.decode_toJson finite, fun v w finite h => ?_,
    GatewayConfig.load_defaults⟩
  obtain ⟨c, hc, rfl⟩ := Option.map_eq_some_iff.mp h
  have hread : GatewayConfig.decode .exact (.ofJson v) = .ok c := Decoded.toOption_eq_some_iff.mp hc
  have hagain : GatewayConfig.decode .exact (.ofJson c.toJson) = .ok c :=
    GatewayConfig.decode_toJson (GatewayConfig.isFinite_of_decode finite hread)
  rw [GatewayConfig.normalForm?, hagain]
  rfl

/-- A hub with faults that fails now and then, and a value with a server given as an array, a kind
of channel under another name, and a key that no setting has. -/
theorem configs_reread_relay :
    let hub : HubConfig :=
      { failureRate := 0.25, seed := some 7, faults := [.hubFault 9, .linkLoss] }
    let c : GatewayConfig :=
      { hardware := { hub }, channels := [⟨"relay", .digitalOutput, ⟨0, 3⟩, ["http://a"]⟩] }
    let v : Json := .object [("server", .array [.text "gate"]), ("door", .null),
      ("channels", .array [.object [("hub_port", .int 3), ("channel", .int 0),
        ("type", .text "digital_out"), ("name", .text "relay")]])]
    c.hardware.hub.failureRate.isFinite = true ∧
      GatewayConfig.decode .exact (.ofJson c.toJson) = .ok c ∧ v.IsFinite ∧
      ∃ w, GatewayConfig.normalForm? v = some w ∧ GatewayConfig.normalForm? w = some w := by
  intro hub c v
  have hrate : c.hardware.hub.failureRate.isFinite = true := by decide +kernel
  have hint : ∀ n ∈ [(3 : Int), 0], (Json.int n).IsFinite := fun n hn =>
    .int (by revert n; decide) (by revert n; decide)
  have finite : v.IsFinite := by
    have hserver : (Json.array [.text "gate"]).IsFinite := .array (by simpa using .text "gate")
    refine .object ?_
    simp only [List.forall_mem_cons, List.not_mem_nil, false_imp_iff, implies_true, and_true]
    refine ⟨hserver, .null, .array ?_⟩
    simpa using .object (by simpa using ⟨hint 3 (by simp), hint 0 (by simp), .text _, .text _⟩)
  have hsome : (GatewayConfig.normalForm? v).isSome = true := by decide +kernel
  obtain ⟨w, hw⟩ := Option.isSome_iff_exists.mp hsome
  exact ⟨hrate, configs_reread.1 .exact c hrate, finite, w, hw, configs_reread.2.1 v w finite hw⟩

end ChannelGateway
