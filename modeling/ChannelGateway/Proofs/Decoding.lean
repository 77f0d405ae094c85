import ChannelGateway.Config.Decode

/-!
# What decoders accept

A record is read field by field, and the first field that does not fit decides what is told. Whether
a record is accepted is simpler: each field has to be accepted where it is given, and has its
default where it is not (`Takes`). The mismatches that `Record.settle` chooses from are those of the
fields that the result is made of, so they can be struck out one by one (`Record.settle_bind_iff`),
and each record has one lemma that says what its fields have to take.

Results:
* `Record.field_eq_ok_iff`, `Record.required_eq_ok_iff`, `Record.settle_bind_iff`: what the fields
  of a record need to be accepted.
* `Decoder.record_eq_ok_iff`: a record is an object or an array.
* `GatewayConfig.ofRecord_eq_ok_iff` and its like: what each record takes from its fields.
-/

namespace ChannelGateway

/-! ## Results -/

namespace Decoded

section

variable {ε ε' α β : Type} {d : Except ε α} {a : α} {b : β}

theorem bind_eq_ok_iff {f : α → Except ε β} : d >>= f = .ok b ↔ ∃ a, d = .ok a ∧ f a = .ok b := by
  cases d with
  | ok a => exact ⟨fun h => ⟨a, rfl, h⟩, fun ⟨_, ha, h⟩ => by cases ha; exact h⟩
  | error e => exact ⟨fun h => (by cases h), fun ⟨_, ha, _⟩ => by cases ha⟩

theorem map_eq_ok_iff {f : α → β} : d.map f = .ok b ↔ ∃ a, d = .ok a ∧ f a = b := by
  cases d <;> simp [Except.map]

theorem mapError_eq_ok_iff {f : ε → ε'} : d.mapError f = .ok a ↔ d = .ok a := by
  cases d with
  | ok b =>
    have hmap : Except.mapError f (.ok b) = (.ok b : Except ε' α) := rfl
    rw [hmap, Except.ok.injEq, Except.ok.injEq]
  | error e => exact iff_of_false (by rintro ⟨⟩) (by rintro ⟨⟩)

theorem toOption_eq_some_iff : d.toOption = some a ↔ d = .ok a := by
  cases d <;> simp [Except.toOption]

end

variable {α : Type} {d : Decoded α}

theorem within_eq_ok_iff {place : String} {a : α} : d.within place = .ok a ↔ d = .ok a := by
  cases d <;> simp [within]

theorem asWhole_eq_ok_iff {a : α} : d.asWhole = .ok a ↔ d = .ok a := by
  cases d <;> simp [asWhole]

theorem mismatch?_eq_none_iff : d.mismatch? = none ↔ ∃ a, d = .ok a := by
  cases d <;> simp [mismatch?]

end Decoded

/-! ## Fields -/

section

variable {α : Type}

/-- What is taken from a place: what the decoder reads there, or the default if nothing is there. -/
def Takes (found : Option Tree) (d : Decoder α) (default a : α) : Prop :=
  match found with
  | some v => d v = .ok a
  | none => a = default

/-- What is given at a place: something is there, and this is what the decoder reads. -/
def Gives (found : Option Tree) (d : Decoder α) (a : α) : Prop :=
  ∃ v, found = some v ∧ d v = .ok a

end

namespace Record

variable {α β : Type} {r : Record} {index : Nat} {key : String} {d : Decoder α}

/-- The value of a field. -/
def value? (r : Record) (index : Nat) (key : String) : Option Tree :=
  match r with
  | named fields => Tree.lookup fields key
  | positional items => items[index]?

theorem exists_find?_eq (r : Record) (index : Nat) (key : String) :
    ∃ place, r.find? index key = (r.value? index key).map fun v => (place, v) := by
  cases r with
  | named fields => exact ⟨key, rfl⟩
  | positional items => exact ⟨toString index, rfl⟩

theorem field_eq_ok_iff {default a : α} :
    r.field index key d default = .ok a ↔ Takes (r.value? index key) d default a := by
  obtain ⟨place, hfind⟩ := r.exists_find?_eq index key
  unfold field Takes
  rw [hfind]
  cases r.value? index key with
  | none => simp [eq_comm]
  | some v => exact Decoded.within_eq_ok_iff

theorem required_eq_ok_iff {a : α} :
    r.required index key d = .ok a ↔ Gives (r.value? index key) d a := by
  obtain ⟨place, hfind⟩ := r.exists_find?_eq index key
  unfold required Gives
  rw [hfind]
  cases r.value? index key with
  | none => simp [Decoded.refuse]
  | some v => simp [Decoded.within_eq_ok_iff]

theorem settle_eq_ok_iff {mismatches : List (Option Mismatch)} {result : Decoded α} {a : α} :
    r.settle mismatches result = .ok a ↔ (∀ m ∈ mismatches, m = none) ∧ result = .ok a := by
  have hfirst : r.first? mismatches = none ↔ mismatches.filterMap id = [] := by
    unfold first?
    split
    · rename_i heq
      exact iff_of_true rfl heq
    all_goals
      rename_i heq
      rw [heq]
      exact iff_of_false (by rintro ⟨⟩) (by rintro ⟨⟩)
  unfold settle
  rw [List.filterMap_eq_nil_iff] at hfirst
  simp only [id_eq] at hfirst
  rw [← hfirst]
  cases r.first? mismatches <;> simp

/-- With no mismatch to tell, the result is the result. -/
theorem settle_nil_iff {result : Decoded α} {a : α} :
    r.settle [] result = .ok a ↔ result = .ok a := by
  simp [settle_eq_ok_iff]

/-- **One field of a record**: it is accepted, and then the others are. -/
theorem settle_bind_iff {field : Decoded β} {mismatches : List (Option Mismatch)}
    {rest : β → Decoded α} {a : α} :
    r.settle (field.mismatch? :: mismatches) (field >>= rest) = .ok a ↔
      ∃ b, field = .ok b ∧ r.settle mismatches (rest b) = .ok a := by
  simp only [settle_eq_ok_iff, List.forall_mem_cons, Decoded.mismatch?_eq_none_iff,
    Decoded.bind_eq_ok_iff]
  constructor
  · rintro ⟨⟨-, hothers⟩, b, hb, ha⟩
    exact ⟨b, hb, hothers, ha⟩
  · rintro ⟨b, hb, hothers, ha⟩
    exact ⟨⟨⟨b, hb⟩, hothers⟩, b, hb, ha⟩

end Record

/-- A record is an object, or an array that is not too long. -/
theorem Decoder.record_eq_ok_iff {α : Type} {strictness : Strictness} {size : Nat}
    {read : Record → Decoded α} {v : Tree} {a : α} :
    record strictness size read v = .ok a ↔
      (∃ fields, v = .object fields ∧ read (.named fields) = .ok a) ∨
      ∃ items, v = .array items ∧ (strictness = .exact → items.length ≤ size) ∧
        read (.positional items) = .ok a := by
  cases v with
  | object fields => simp [record]
  | array items =>
    have harray : record strictness size read (.array items) = .ok a ↔
        (strictness = .exact → items.length ≤ size) ∧ read (.positional items) = .ok a := by
      unfold record
      dsimp only
      by_cases hlong : strictness = .exact ∧ size < items.length
      · rw [if_pos hlong]
        refine iff_of_false (by rintro ⟨⟩) fun h => ?_
        exact Nat.not_lt.mpr (h.1 hlong.1) hlong.2
      · rw [if_neg hlong]
        rw [not_and, Nat.not_lt] at hlong
        exact (and_iff_right hlong).symm
    simpa using harray
  | _ => simp [record, Decoded.refuse]

/-! ## Records -/

/-- One of several values by its name. -/
def Decoder.label {α : Type} (all : List α) (label : α → String) : Decoder α :=
  choice (withLabel? all label)

section

open Record

variable {strictness : Strictness} {r : Record}

theorem HubTiming.ofRecord_eq_ok_iff {c : HubTiming} :
    ofRecord r = .ok c ↔
      Takes (r.value? 0 "attach_delay_ms") Decoder.word64 250 c.attachDelay ∧
      Takes (r.value? 1 "io_delay_ms") Decoder.word64 2 c.ioDelay := by
  simp only [ofRecord, settle_bind_iff, settle_nil_iff, field_eq_ok_iff]
  constructor
  · rintro ⟨_, hattach, _, hio, ⟨⟩⟩
    exact ⟨hattach, hio⟩
  · rintro ⟨hattach, hio⟩
    exact ⟨_, hattach, _, hio, rfl⟩

theorem HubConfig.ofRecord_eq_ok_iff {c : HubConfig} :
    ofRecord strictness r = .ok c ↔
      Takes (r.value? 0 "hub_ports") Decoder.word32 6 c.hubPorts ∧
      Takes (r.value? 1 "channels_per_port") Decoder.word32 16 c.channelsPerPort ∧
      Takes (r.value? 2 "mode") (Decoder.label HubMode.all HubMode.label) .instant c.mode ∧
      Takes (r.value? 3 "timing") (Decoder.record strictness 2 HubTiming.ofRecord) {} c.timing ∧
      Takes (r.value? 4 "failure_rate") Decoder.number 0 c.failureRate ∧
      Takes (r.value? 5 "seed") (Decoder.optional Decoder.word64) none c.seed ∧
      Takes (r.value? 6 "faults") (Decoder.listOf Scenario.decode) [] c.faults := by
  simp only [ofRecord, settle_bind_iff, settle_nil_iff, field_eq_ok_iff]
  constructor
  · rintro ⟨_, hports, _, hchannels, _, hmode, _, htiming, _, hrate, _, hseed, _, hfaults, ⟨⟩⟩
    exact ⟨hports, hchannels, hmode, htiming, hrate, hseed, hfaults⟩
  · rintro ⟨hports, hchannels, hmode, htiming, hrate, hseed, hfaults⟩
    exact ⟨_, hports, _, hchannels, _, hmode, _, htiming, _, hrate, _, hseed, _, hfaults, rfl⟩

theorem ServerConfig.ofRecord_eq_ok_iff {c : ServerConfig} :
    ofRecord r = .ok c ↔
      Takes (r.value? 0 "host") Decoder.text "0.0.0.0" c.host ∧
      Takes (r.value? 1 "port") Decoder.word16 4002 c.port ∧
      Takes (r.value? 2 "state_page_title") Decoder.text "Phidgets State" c.title := by
  simp only [ofRecord, settle_bind_iff, settle_nil_iff, field_eq_ok_iff]
  constructor
  · rintro ⟨_, hhost, _, hport, _, htitle, ⟨⟩⟩
    exact ⟨hhost, hport, htitle⟩
  · rintro ⟨hhost, hport, htitle⟩
    exact ⟨_, hhost, _, hport, _, htitle, rfl⟩

theorem HardwareConfig.ofRecord_eq_ok_iff {c : HardwareConfig} :
    ofRecord strictness r = .ok c ↔
      Takes (r.value? 0 "driver") (Decoder.label HardwareDriver.all HardwareDriver.label)
        .simulated c.driver ∧
      Takes (r.value? 1 "open_timeout_ms") Decoder.word64 5000 c.openTimeout ∧
      Takes (r.value? 2 "mock") (Decoder.record strictness 7 (HubConfig.ofRecord strictness)) {}
        c.hub := by
  simp only [ofRecord, settle_bind_iff, settle_nil_iff, field_eq_ok_iff]
  constructor
  · rintro ⟨_, hdriver, _, htimeout, _, hhub, ⟨⟩⟩
    exact ⟨hdriver, htimeout, hhub⟩
  · rintro ⟨hdriver, htimeout, hhub⟩
    exact ⟨_, hdriver, _, htimeout, _, hhub, rfl⟩

theorem WebhookConfig.ofRecord_eq_ok_iff {c : WebhookConfig} :
    ofRecord r = .ok c ↔
      Takes (r.value? 0 "delivery_timeout_ms") Decoder.word64 5000 c.deliveryTimeout ∧
      Takes (r.value? 1 "user_agent") Decoder.text "phidget-gateway/0.1.0" c.userAgent := by
  simp only [ofRecord, settle_bind_iff, settle_nil_iff, field_eq_ok_iff]
  constructor
  · rintro ⟨_, htimeout, _, hagent, ⟨⟩⟩
    exact ⟨htimeout, hagent⟩
  · rintro ⟨htimeout, hagent⟩
    exact ⟨_, htimeout, _, hagent, rfl⟩

theorem LoggingConfig.ofRecord_eq_ok_iff {c : LoggingConfig} :
    ofRecord r = .ok c ↔
      Takes (r.value? 0 "level") Decoder.text "info" c.level ∧
      Takes (r.value? 1 "format") (Decoder.label LogFormat.all LogFormat.label) .compact
        c.format := by
  simp only [ofRecord, settle_bind_iff, settle_nil_iff, field_eq_ok_iff]
  constructor
  · rintro ⟨_, hlevel, _, hformat, ⟨⟩⟩
    exact ⟨hlevel, hformat⟩
  · rintro ⟨hlevel, hformat⟩
    exact ⟨_, hlevel, _, hformat, rfl⟩

theorem StartupChannel.ofRecord_eq_ok_iff {c : StartupChannel} :
    ofRecord r = .ok c ↔
      Gives (r.value? 0 "name") Decoder.text c.name ∧
      Gives (r.value? 1 "type") ChannelKind.decode c.kind ∧
      Gives (r.value? 2 "channel") Decoder.signed32 c.address.channel ∧
      Gives (r.value? 3 "hub_port") Decoder.signed32 c.address.hubPort ∧
      Takes (r.value? 4 "webhooks") (Decoder.listOf Decoder.text) [] c.webhooks := by
  simp only [ofRecord, settle_bind_iff, settle_nil_iff, field_eq_ok_iff, required_eq_ok_iff]
  constructor
  · rintro ⟨_, hname, _, hkind, _, hchannel, _, hport, _, hwebhooks, ⟨⟩⟩
    exact ⟨hname, hkind, hchannel, hport, hwebhooks⟩
  · rintro ⟨hname, hkind, hchannel, hport, hwebhooks⟩
    exact ⟨_, hname, _, hkind, _, hchannel, _, hport, _, hwebhooks, rfl⟩

theorem GatewayConfig.ofRecord_eq_ok_iff {c : GatewayConfig} :
    ofRecord strictness r = .ok c ↔
      Takes (r.value? 0 "server") (Decoder.record strictness 3 ServerConfig.ofRecord) {} c.server ∧
      Takes (r.value? 1 "hardware")
        (Decoder.record strictness 3 (HardwareConfig.ofRecord strictness)) {} c.hardware ∧
      Takes (r.value? 2 "webhooks") (Decoder.record strictness 2 WebhookConfig.ofRecord) {}
        c.webhooks ∧
      Takes (r.value? 3 "logging") (Decoder.record strictness 2 LoggingConfig.ofRecord) {}
        c.logging ∧
      Takes (r.value? 4 "channels")
        (Decoder.listOf (Decoder.record strictness 5 StartupChannel.ofRecord)) [] c.channels := by
  simp only [ofRecord, settle_bind_iff, settle_nil_iff, field_eq_ok_iff]
  constructor
  · rintro ⟨_, hserver, _, hhardware, _, hwebhooks, _, hlogging, _, hchannels, ⟨⟩⟩
    exact ⟨hserver, hhardware, hwebhooks, hlogging, hchannels⟩
  · rintro ⟨hserver, hhardware, hwebhooks, hlogging, hchannels⟩
    exact ⟨_, hserver, _, hhardware, _, hwebhooks, _, hlogging, _, hchannels, rfl⟩

end

end ChannelGateway
