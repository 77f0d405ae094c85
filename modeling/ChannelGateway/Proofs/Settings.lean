import ChannelGateway.Config.Start
import ChannelGateway.Proofs.Decoding
import Mathlib.Data.List.Induction

/-!
# The settings of a configuration

A configuration is made of settings: scalars in sections, which may themselves stand in sections,
and the two arrays of channels and of faults. `Setting` names them all, with the place of each in a
tree, the way it is read there, and the part of a configuration that it is. A section given as an
array has its settings by their order, so a place (`Place`) has an index beside its key.

Results:
* `Setting.ext`: a configuration is its settings.
* `Takes.inner`: a setting of a section, from the section.
* **`Setting.taken`**: what is read from a tree takes every setting from its place.
* `GatewayConfig.load_eq_ok_iff`: when a configuration is loaded.
-/

namespace ChannelGateway

/-! ## Places -/

/-- Where a record has a field: under a key, or, if it is given as an array, at an index. -/
structure Place where
  index : Nat
  key : String
  deriving DecidableEq, Repr

namespace Tree

theorem ofItems_eq (items : List Json) : ofItems items = items.map ofJson := by
  induction items with
  | nil => rfl
  | cons v rest ih => rw [ofItems, ih, List.map_cons]

theorem ofFields_eq (fields : List (String × Json)) :
    ofFields fields = fields.map fun field => (field.1, ofJson field.2) := by
  induction fields with
  | nil => rfl
  | cons field rest ih => rw [ofFields, ih, List.map_cons]

theorem lookup_concat (fields : List (String × Tree)) (field : String × Tree) (key : String) :
    lookup (fields ++ [field]) key =
      if field.1 = key then some field.2 else lookup fields key := by
  rw [lookup, List.foldl_append, List.foldl_cons, List.foldl_nil, lookup]

/-- What is found under a key is one of the fields. -/
theorem mem_of_lookup {fields : List (String × Tree)} {key : String} {v : Tree}
    (h : lookup fields key = some v) : (key, v) ∈ fields := by
  induction fields using List.reverseRecOn with
  | nil => cases h
  | append_singleton fields field ih =>
    rw [lookup_concat] at h
    by_cases hkey : field.1 = key
    · rw [if_pos hkey] at h
      cases h
      exact hkey ▸ List.mem_concat_self
    · rw [if_neg hkey] at h
      exact List.mem_append_left [field] (ih h)

/-- What a tree has at a place of its own. -/
def field? (v : Tree) (p : Place) : Option Tree :=
  match v with
  | .object fields => lookup fields p.key
  | .array items => items[p.index]?
  | _ => none

/-- What a path of places leads to. -/
def at? (v : Tree) : List Place → Option Tree
  | [] => some v
  | p :: path => (v.field? p).bind fun inner => inner.at? path

@[simp]
theorem at?_nil (v : Tree) : v.at? [] = some v := by
  cases v <;> rfl

@[simp]
theorem at?_cons (v : Tree) (p : Place) (path : List Place) :
    v.at? (p :: path) = (v.field? p).bind fun inner => inner.at? path := by
  cases v <;> rfl

end Tree

/-! ## Settings -/

/-- A setting of a configuration. -/
inductive Setting where
  | host
  | port
  | title
  | driver
  | openTimeout
  | hubPorts
  | channelsPerPort
  | mode
  | attachDelay
  | ioDelay
  | failureRate
  | seed
  | faults
  | deliveryTimeout
  | userAgent
  | level
  | format
  | channels
  deriving DecidableEq, Repr

namespace Setting

/-- What a setting is set to. -/
abbrev Value : Setting → Type
  | host | title | userAgent | level => String
  | port => UInt16
  | driver => HardwareDriver
  | openTimeout | attachDelay | ioDelay | deliveryTimeout => UInt64
  | hubPorts | channelsPerPort => UInt32
  | mode => HubMode
  | failureRate => Float
  | seed => Option UInt64
  | faults => List Scenario
  | format => LogFormat
  | channels => List StartupChannel

/-- The section of the hub. -/
def hubSection : List Place := [⟨1, "hardware"⟩, ⟨2, "mock"⟩]

/-- The place of a setting in a tree. -/
def path : Setting → List Place
  | host => [⟨0, "server"⟩, ⟨0, "host"⟩]
  | port => [⟨0, "server"⟩, ⟨1, "port"⟩]
  | title => [⟨0, "server"⟩, ⟨2, "state_page_title"⟩]
  | driver => [⟨1, "hardware"⟩, ⟨0, "driver"⟩]
  | openTimeout => [⟨1, "hardware"⟩, ⟨1, "open_timeout_ms"⟩]
  | hubPorts => hubSection ++ [⟨0, "hub_ports"⟩]
  | channelsPerPort => hubSection ++ [⟨1, "channels_per_port"⟩]
  | mode => hubSection ++ [⟨2, "mode"⟩]
  | attachDelay => hubSection ++ [⟨3, "timing"⟩, ⟨0, "attach_delay_ms"⟩]
  | ioDelay => hubSection ++ [⟨3, "timing"⟩, ⟨1, "io_delay_ms"⟩]
  | failureRate => hubSection ++ [⟨4, "failure_rate"⟩]
  | seed => hubSection ++ [⟨5, "seed"⟩]
  | faults => hubSection ++ [⟨6, "faults"⟩]
  | deliveryTimeout => [⟨2, "webhooks"⟩, ⟨0, "delivery_timeout_ms"⟩]
  | userAgent => [⟨2, "webhooks"⟩, ⟨1, "user_agent"⟩]
  | level => [⟨3, "logging"⟩, ⟨0, "level"⟩]
  | format => [⟨3, "logging"⟩, ⟨1, "format"⟩]
  | channels => [⟨4, "channels"⟩]

/-- How a setting is read. -/
def decoder (strictness : Strictness) : (s : Setting) → Decoder s.Value
  | host | title | userAgent | level => Decoder.text
  | port => Decoder.word16
  | driver => Decoder.label HardwareDriver.all HardwareDriver.label
  | openTimeout | attachDelay | ioDelay | deliveryTimeout => Decoder.word64
  | hubPorts | channelsPerPort => Decoder.word32
  | mode => Decoder.label HubMode.all HubMode.label
  | failureRate => Decoder.number
  | seed => Decoder.optional Decoder.word64
  | faults => Decoder.listOf Scenario.decode
  | format => Decoder.label LogFormat.all LogFormat.label
  | channels => Decoder.listOf (Decoder.record strictness 5 StartupChannel.ofRecord)

/-- A setting of a configuration. -/
def get (c : GatewayConfig) : (s : Setting) → s.Value
  | host => c.server.host
  | port => c.server.port
  | title => c.server.title
  | driver => c.hardware.driver
  | openTimeout => c.hardware.openTimeout
  | hubPorts => c.hardware.hub.hubPorts
  | channelsPerPort => c.hardware.hub.channelsPerPort
  | mode => c.hardware.hub.mode
  | attachDelay => c.hardware.hub.timing.attachDelay
  | ioDelay => c.hardware.hub.timing.ioDelay
  | failureRate => c.hardware.hub.failureRate
  | seed => c.hardware.hub.seed
  | faults => c.hardware.hub.faults
  | deliveryTimeout => c.webhooks.deliveryTimeout
  | userAgent => c.webhooks.userAgent
  | level => c.logging.level
  | format => c.logging.format
  | channels => c.channels

/-- The default of a setting. -/
def default : (s : Setting) → s.Value :=
  get {}

/-- **The settings are all that there is to a configuration.** -/
theorem ext {c c' : GatewayConfig} (h : ∀ s, get c s = get c' s) : c = c' := by
  obtain ⟨server, ⟨driver, openTimeout, hub⟩, webhooks, logging, channels⟩ := c
  obtain ⟨server', ⟨driver', openTimeout', hub'⟩, webhooks', logging', channels'⟩ := c'
  have hserver : server = server' := by
    obtain ⟨_, _, _⟩ := server
    obtain ⟨_, _, _⟩ := server'
    exact ServerConfig.mk.injEq .. ▸ ⟨h .host, h .port, h .title⟩
  have hhub : hub = hub' := by
    obtain ⟨_, _, _, ⟨_, _⟩, _, _, _⟩ := hub
    obtain ⟨_, _, _, ⟨_, _⟩, _, _, _⟩ := hub'
    have htiming := HubTiming.mk.injEq .. ▸ And.intro (h .attachDelay) (h .ioDelay)
    exact HubConfig.mk.injEq .. ▸ ⟨h .hubPorts, h .channelsPerPort, h .mode, htiming,
      h .failureRate, h .seed, h .faults⟩
  have hwebhooks : webhooks = webhooks' := by
    obtain ⟨_, _⟩ := webhooks
    obtain ⟨_, _⟩ := webhooks'
    exact WebhookConfig.mk.injEq .. ▸ ⟨h .deliveryTimeout, h .userAgent⟩
  have hlogging : logging = logging' := by
    obtain ⟨_, _⟩ := logging
    obtain ⟨_, _⟩ := logging'
    exact LoggingConfig.mk.injEq .. ▸ ⟨h .level, h .format⟩
  have hdriver : driver = driver' := h .driver
  have htimeout : openTimeout = openTimeout' := h .openTimeout
  have hchannels : channels = channels' := h .channels
  rw [hserver, hhub, hwebhooks, hlogging, hdriver, htimeout, hchannels]

end Setting

/-! ## Reading settings -/

section

variable {α β : Type} {strictness : Strictness} {v : Tree} {p : Place} {path : List Place}
  {d : Decoder α} {a₀ a : α}

theorem Takes.at_end (h : Takes (v.field? p) d a₀ a) : Takes (v.at? [p]) d a₀ a := by
  simpa using h

/-- **A setting of a section**, from the section: if the section is not there, its default is
taken. -/
theorem Takes.inner (get : β → α) {section? : Decoder β} {b₀ b : β}
    (outer : Takes (v.field? p) section? b₀ b)
    (inner : ∀ w, section? w = .ok b → Takes (w.at? path) d (get b₀) (get b)) :
    Takes (v.at? (p :: path)) d (get b₀) (get b) := by
  rw [Tree.at?_cons]
  cases hw : v.field? p with
  | none =>
    rw [hw] at outer
    exact congrArg get outer
  | some w =>
    rw [hw] at outer
    exact inner w outer

/-- A record is read from what a tree has at its places. -/
theorem exists_record_of_ok {size : Nat} {read : Record → Decoded α}
    (h : Decoder.record strictness size read v = .ok a) :
    ∃ r : Record, (∀ p : Place, r.value? p.index p.key = v.field? p) ∧ read r = .ok a := by
  rcases Decoder.record_eq_ok_iff.mp h with ⟨fields, rfl, hread⟩ | ⟨items, rfl, -, hread⟩
  · exact ⟨.named fields, fun _ => rfl, hread⟩
  · exact ⟨.positional items, fun _ => rfl, hread⟩

end

/-! ## What each section takes -/

section

variable {strictness : Strictness} {v : Tree}

theorem ServerConfig.taken {c : ServerConfig} (h : Decoder.record strictness 3 ofRecord v = .ok c) :
    Takes (v.at? [⟨0, "host"⟩]) Decoder.text "0.0.0.0" c.host ∧
      Takes (v.at? [⟨1, "port"⟩]) Decoder.word16 4002 c.port ∧
      Takes (v.at? [⟨2, "state_page_title"⟩]) Decoder.text "Phidgets State" c.title := by
  obtain ⟨r, hr, hread⟩ := exists_record_of_ok h
  obtain ⟨hhost, hport, htitle⟩ := ofRecord_eq_ok_iff.mp hread
  exact ⟨(hr ⟨0, "host"⟩ ▸ hhost).at_end, (hr ⟨1, "port"⟩ ▸ hport).at_end,
    (hr ⟨2, "state_page_title"⟩ ▸ htitle).at_end⟩

theorem HubTiming.taken {c : HubTiming} (h : Decoder.record strictness 2 ofRecord v = .ok c) :
    Takes (v.at? [⟨0, "attach_delay_ms"⟩]) Decoder.word64 250 c.attachDelay ∧
      Takes (v.at? [⟨1, "io_delay_ms"⟩]) Decoder.word64 2 c.ioDelay := by
  obtain ⟨r, hr, hread⟩ := exists_record_of_ok h
  obtain ⟨hattach, hio⟩ := ofRecord_eq_ok_iff.mp hread
  exact ⟨(hr ⟨0, "attach_delay_ms"⟩ ▸ hattach).at_end, (hr ⟨1, "io_delay_ms"⟩ ▸ hio).at_end⟩

theorem WebhookConfig.taken {c : WebhookConfig}
    (h : Decoder.record strictness 2 ofRecord v = .ok c) :
    Takes (v.at? [⟨0, "delivery_timeout_ms"⟩]) Decoder.word64 5000 c.deliveryTimeout ∧
      Takes (v.at? [⟨1, "user_agent"⟩]) Decoder.text "phidget-gateway/0.1.0" c.userAgent := by
  obtain ⟨r, hr, hread⟩ := exists_record_of_ok h
  obtain ⟨htimeout, hagent⟩ := ofRecord_eq_ok_iff.mp hread
  exact ⟨(hr ⟨0, "delivery_timeout_ms"⟩ ▸ htimeout).at_end, (hr ⟨1, "user_agent"⟩ ▸ hagent).at_end⟩

theorem LoggingConfig.taken {c : LoggingConfig}
    (h : Decoder.record strictness 2 ofRecord v = .ok c) :
    Takes (v.at? [⟨0, "level"⟩]) Decoder.text "info" c.level ∧
      Takes (v.at? [⟨1, "format"⟩]) (Decoder.label LogFormat.all LogFormat.label) .compact
        c.format := by
  obtain ⟨r, hr, hread⟩ := exists_record_of_ok h
  obtain ⟨hlevel, hformat⟩ := ofRecord_eq_ok_iff.mp hread
  exact ⟨(hr ⟨0, "level"⟩ ▸ hlevel).at_end, (hr ⟨1, "format"⟩ ▸ hformat).at_end⟩

/-- What a setting of the hub is taken from is the same wherever the hub stands. -/
theorem HubConfig.taken {c : HubConfig}
    (h : Decoder.record strictness 7 (ofRecord strictness) v = .ok c) :
    Takes (v.at? [⟨0, "hub_ports"⟩]) Decoder.word32 6 c.hubPorts ∧
      Takes (v.at? [⟨1, "channels_per_port"⟩]) Decoder.word32 16 c.channelsPerPort ∧
      Takes (v.at? [⟨2, "mode"⟩]) (Decoder.label HubMode.all HubMode.label) .instant c.mode ∧
      Takes (v.field? ⟨3, "timing"⟩) (Decoder.record strictness 2 HubTiming.ofRecord) {} c.timing ∧
      Takes (v.at? [⟨4, "failure_rate"⟩]) Decoder.number 0 c.failureRate ∧
      Takes (v.at? [⟨5, "seed"⟩]) (Decoder.optional Decoder.word64) none c.seed ∧
      Takes (v.at? [⟨6, "faults"⟩]) (Decoder.listOf Scenario.decode) [] c.faults := by
  obtain ⟨r, hr, hread⟩ := exists_record_of_ok h
  obtain ⟨hports, hchannels, hmode, htiming, hrate, hseed, hfaults⟩ := ofRecord_eq_ok_iff.mp hread
  exact ⟨(hr ⟨0, "hub_ports"⟩ ▸ hports).at_end, (hr ⟨1, "channels_per_port"⟩ ▸ hchannels).at_end,
    (hr ⟨2, "mode"⟩ ▸ hmode).at_end, hr ⟨3, "timing"⟩ ▸ htiming,
    (hr ⟨4, "failure_rate"⟩ ▸ hrate).at_end, (hr ⟨5, "seed"⟩ ▸ hseed).at_end,
    (hr ⟨6, "faults"⟩ ▸ hfaults).at_end⟩

theorem HardwareConfig.taken {c : HardwareConfig}
    (h : Decoder.record strictness 3 (ofRecord strictness) v = .ok c) :
    Takes (v.at? [⟨0, "driver"⟩]) (Decoder.label HardwareDriver.all HardwareDriver.label)
        .simulated c.driver ∧
      Takes (v.at? [⟨1, "open_timeout_ms"⟩]) Decoder.word64 5000 c.openTimeout ∧
      Takes (v.field? ⟨2, "mock"⟩) (Decoder.record strictness 7 (HubConfig.ofRecord strictness)) {}
        c.hub := by
  obtain ⟨r, hr, hread⟩ := exists_record_of_ok h
  obtain ⟨hdriver, htimeout, hhub⟩ := ofRecord_eq_ok_iff.mp hread
  exact ⟨(hr ⟨0, "driver"⟩ ▸ hdriver).at_end, (hr ⟨1, "open_timeout_ms"⟩ ▸ htimeout).at_end,
    hr ⟨2, "mock"⟩ ▸ hhub⟩

/-- **What is read from a tree takes every setting from its place.** -/
theorem Setting.taken {c : GatewayConfig} (h : GatewayConfig.decode strictness v = .ok c)
    (s : Setting) : Takes (v.at? s.path) (s.decoder strictness) s.default (s.get c) := by
  obtain ⟨r, hr, hread⟩ := exists_record_of_ok h
  obtain ⟨hserver, hhardware, hwebhooks, hlogging, hchannels⟩ :=
    GatewayConfig.ofRecord_eq_ok_iff.mp hread
  rw [hr ⟨0, "server"⟩] at hserver
  rw [hr ⟨1, "hardware"⟩] at hhardware
  rw [hr ⟨2, "webhooks"⟩] at hwebhooks
  rw [hr ⟨3, "logging"⟩] at hlogging
  rw [hr ⟨4, "channels"⟩] at hchannels
  -- a setting of the hub or of its timing, from that section
  have hub : ∀ {α : Type} (get : HubConfig → α) {d : Decoder α} {path : List Place},
      (∀ w, Decoder.record strictness 7 (HubConfig.ofRecord strictness) w = .ok c.hardware.hub →
        Takes (w.at? path) d (get {}) (get c.hardware.hub)) →
      Takes (v.at? (Setting.hubSection ++ path)) d (get {}) (get c.hardware.hub) := by
    intro α get d path hinner
    exact hhardware.inner (fun hardware => get hardware.hub) fun w hw =>
      (HardwareConfig.taken hw).2.2.inner get hinner
  have timing : ∀ (get : HubTiming → UInt64) {p : Place},
      (∀ w, Decoder.record strictness 2 HubTiming.ofRecord w = .ok c.hardware.hub.timing →
        Takes (w.at? [p]) Decoder.word64 (get {}) (get c.hardware.hub.timing)) →
      Takes (v.at? (Setting.hubSection ++ [⟨3, "timing"⟩, p])) Decoder.word64 (get {})
        (get c.hardware.hub.timing) := by
    intro get p hinner
    exact hub (fun hub => get hub.timing) fun w hw =>
      (HubConfig.taken hw).2.2.2.1.inner get hinner
  cases s with
  | host => exact hserver.inner ServerConfig.host fun w hw => (ServerConfig.taken hw).1
  | port => exact hserver.inner ServerConfig.port fun w hw => (ServerConfig.taken hw).2.1
  | title => exact hserver.inner ServerConfig.title fun w hw => (ServerConfig.taken hw).2.2
  | driver =>
    exact hhardware.inner HardwareConfig.driver fun w hw => (HardwareConfig.taken hw).1
  | openTimeout =>
    exact hhardware.inner HardwareConfig.openTimeout fun w hw =>
      (HardwareConfig.taken hw).2.1
  | hubPorts => exact hub HubConfig.hubPorts fun w hw => (HubConfig.taken hw).1
  | channelsPerPort =>
    exact hub HubConfig.channelsPerPort fun w hw => (HubConfig.taken hw).2.1
  | mode => exact hub HubConfig.mode fun w hw => (HubConfig.taken hw).2.2.1
  | attachDelay => exact timing HubTiming.attachDelay fun w hw => (HubTiming.taken hw).1
  | ioDelay => exact timing HubTiming.ioDelay fun w hw => (HubTiming.taken hw).2
  | failureRate =>
    exact hub HubConfig.failureRate fun w hw => (HubConfig.taken hw).2.2.2.2.1
  | seed => exact hub HubConfig.seed fun w hw => (HubConfig.taken hw).2.2.2.2.2.1
  | faults => exact hub HubConfig.faults fun w hw => (HubConfig.taken hw).2.2.2.2.2.2
  | deliveryTimeout =>
    exact hwebhooks.inner WebhookConfig.deliveryTimeout fun w hw =>
      (WebhookConfig.taken hw).1
  | userAgent =>
    exact hwebhooks.inner WebhookConfig.userAgent fun w hw => (WebhookConfig.taken hw).2
  | level => exact hlogging.inner LoggingConfig.level fun w hw => (LoggingConfig.taken hw).1
  | format =>
    exact hlogging.inner LoggingConfig.format fun w hw => (LoggingConfig.taken hw).2
  | channels => exact hchannels.at_end

end

/-! ## Loading -/

namespace GatewayConfig

/-- The layer of a configuration file, if there is one; none at all where the file is no TOML
text. -/
def fileLayer? : Option String → Option (Option Tree)
  | none => some none
  | some text => (Toml.read? text).map fun document => some (Tree.ofJson document)

/-- A configuration is returned if it has no defect. -/
theorem checked_eq_ok_iff {ε : Type} {wrap : ConfigDefect → ε} {c c' : GatewayConfig} :
    (match c.defect? with
      | some d => Except.error (wrap d)
      | none => Except.ok c) = .ok c' ↔ c.defect? = none ∧ c = c' := by
  cases c.defect? <;> simp

/-- **When a configuration is loaded**: the file can be read, what the layers make together is a
configuration, and it has no defect. -/
theorem load_eq_ok_iff {text : Option String} {environment : List (String × String)}
    {c : GatewayConfig} :
    load text environment = .ok c ↔ ∃ file, fileLayer? text = some file ∧
      decode .lenient (layered file environment) = .ok c ∧ c.defect? = none := by
  have hread : load text environment = .ok c ↔ ∃ file, fileLayer? text = some file ∧
      ∃ loaded, decode .lenient (layered file environment) = .ok loaded ∧
        loaded.defect? = none ∧ loaded = c := by
    unfold load fileLayer?
    cases text with
    | none =>
      simp only [pure_bind, Decoded.bind_eq_ok_iff, Decoded.mapError_eq_ok_iff,
        Option.some.injEq, exists_eq_left']
      exact exists_congr fun loaded => and_congr_right' checked_eq_ok_iff
    | some text =>
      dsimp only
      cases Toml.read? text with
      | none => exact iff_of_false (by rintro ⟨⟩) (by rintro ⟨file, ⟨⟩, -⟩)
      | some document =>
        simp only [pure_bind, Decoded.bind_eq_ok_iff, Decoded.mapError_eq_ok_iff,
          Option.map_some, Option.some.injEq, exists_eq_left']
        exact exists_congr fun loaded => and_congr_right' checked_eq_ok_iff
  rw [hread]
  refine exists_congr fun file => and_congr_right' ⟨?_, fun ⟨hloaded, hdefect⟩ => ?_⟩
  · rintro ⟨loaded, hloaded, hdefect, rfl⟩
    exact ⟨hloaded, hdefect⟩
  · exact ⟨c, hloaded, hdefect, rfl⟩

end GatewayConfig

end ChannelGateway
