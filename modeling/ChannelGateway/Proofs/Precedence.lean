import ChannelGateway.Config.Start
import ChannelGateway.Proofs.Reread
import ChannelGateway.Proofs.Variables

/-!
# Which layer a setting is taken from

A gateway starts with a configuration that is made of four layers: the command line for the port and
the log level, the environment, a file, and the defaults. What is read is the tree that the last
three make together. A setting of it is never a table (`Setting.isTable_eq_false_of_ok`), so it
comes whole from the first layer in which it is found (`Setting.taken_found`), arrays included.
Sections are merged as long as they are tables. A section may also be given as an array of its
settings in order; such an array hides the section in all lower layers, even where they have
settings that the array does not go on to (`section_hides_lower`), and it is hidden as a whole by a
table above it.

The level is looked at three times: when what is read is checked, when it is checked again with the
settings of the command line, and when logging is set up. All of them accept the same names
(`LogLevel.isName_iff`).

Results:
* `startConfig_eq_ok_iff`: when a gateway starts, and with which configuration.
* `Setting.taken_found`: a setting is taken from the first layer that it is found in.
* **`settings_by_layer`**: when a gateway starts, and what each setting is then.
-/

namespace ChannelGateway

/-! ## Levels -/

namespace LogLevel

/-- A configuration may give a name if a level has it. -/
theorem isName_iff {name : String} : isName name = true ↔ ∃ level, ofName? name = some level := by
  have hnames : names = all.map label := rfl
  rw [isName, hnames, List.contains_iff_mem, ← Option.isSome_iff_exists, ofName?, List.find?_isSome]
  simp [eq_comm]

end LogLevel

namespace GatewayConfig

theorem defect?_eq_none_iff {c : GatewayConfig} :
    c.defect? = none ↔ LogLevel.isName c.logging.level = true ∧ c.hardware.openTimeout ≠ 0 ∧
      c.webhooks.deliveryTimeout ≠ 0 ∧ c.hardware.hub.defect? = none ∧
      StartupChannel.defectIn? [] c.channels = none := by
  unfold defect?
  cases hhub : c.hardware.hub.defect? <;> split_ifs <;> simp_all

/-- A configuration without a defect has none with the settings of the command line either, if the
level that they give is one. -/
theorem defect?_apply_eq_none_iff {c : GatewayConfig} (h : c.defect? = none)
    (settings : CommandLine.Settings) :
    (settings.apply c).defect? = none ↔
      ∀ level ∈ settings.logLevel, LogLevel.isName level = true := by
  obtain ⟨hlevel, hothers⟩ := defect?_eq_none_iff.mp h
  rw [defect?_eq_none_iff]
  refine (and_iff_left hothers).trans ?_
  unfold CommandLine.Settings.apply
  cases settings.logLevel with
  | none => simpa using hlevel
  | some level => simp

/-- Logging can be set up as a configuration without a defect says. -/
theorem options_of_defect? {c : GatewayConfig} (h : c.defect? = none) :
    ∃ level, LogLevel.ofName? c.logging.level = some level ∧
      c.logging.options = .ok { level, format := c.logging.format } := by
  obtain ⟨level, hlevel⟩ := LogLevel.isName_iff.mp (defect?_eq_none_iff.mp h).1
  refine ⟨level, hlevel, ?_⟩
  rw [LoggingConfig.options, hlevel]

end GatewayConfig

/-! ## The command line -/

section

variable {files : String → Option String} {environment : List (String × String)}
  {args : List String} {c : GatewayConfig}

/-- **When a gateway starts**, and with which configuration, once its arguments have been read. -/
theorem startConfig_eq_ok_iff {settings : CommandLine.Settings}
    (parsed : CommandLine.read (Table.get? environment configVariable) args = .ok settings) :
    startConfig files environment args = .ok c ↔ ∃ loaded,
      GatewayConfig.load (settings.config.bind files) environment = .ok loaded ∧
        (settings.apply loaded).defect? = none ∧ settings.apply loaded = c := by
  unfold startConfig
  simp only [parsed, Decoded.bind_eq_ok_iff, Decoded.mapError_eq_ok_iff, Except.ok.injEq,
    exists_eq_left']
  exact exists_congr fun loaded => and_congr_right' GatewayConfig.checked_eq_ok_iff

end

namespace Setting

/-- What the command line sets. -/
def override (settings : CommandLine.Settings) : (s : Setting) → Option s.Value
  | .port => settings.port
  | .level => settings.logLevel
  | _ => none

theorem get_apply (settings : CommandLine.Settings) (c : GatewayConfig) (s : Setting) :
    s.get (settings.apply c) = (s.override settings).getD (s.get c) := by
  cases s <;> rfl

/-- What the command line does not set is as it was. -/
theorem get_apply_of_unset {settings : CommandLine.Settings} {s : Setting}
    (h : s.override settings = none) (c : GatewayConfig) : s.get (settings.apply c) = s.get c := by
  rw [get_apply, h, Option.getD_none]

/-! ## What is read -/

/-- One of several values cannot be read from a table without nulls. -/
theorem label_object_ne_ok {α : Type} {all : List α} {label : α → String}
    {fields : List (String × Tree)} (tidy : (Tree.object fields).IsTidy false) (a : α) :
    Decoder.label all label (.object fields) ≠ .ok a := by
  have hnull : ∀ name, Tree.lookup fields name ≠ some .null := by
    intro name hlookup
    exact (tidy.field? (p := ⟨0, name⟩) hlookup).ne_null rfl
  unfold Decoder.label Decoder.choice
  dsimp only
  cases Decoder.leastField? fields with
  | none => simp [Decoded.refuse]
  | some field =>
    obtain ⟨name, v⟩ := field
    dsimp only
    split
    · simp [Decoded.within]
    · next h => exact absurd h (hnull name)
    · simp [Decoded.within, Decoded.refuse]

/-- **A setting is never a table**: there is no way to read one from a table without nulls. -/
theorem isTable_eq_false_of_ok {strictness : Strictness} {s : Setting} {v : Tree} {a : s.Value}
    (tidy : v.IsTidy false) (h : s.decoder strictness v = .ok a) : v.isTable = false := by
  cases v with
  | object fields =>
    cases s with
    | driver => exact absurd h (label_object_ne_ok tidy a)
    | mode => exact absurd h (label_object_ne_ok tidy a)
    | format => exact absurd h (label_object_ne_ok tidy a)
    | _ => cases h
  | _ => rfl

end Setting

namespace GatewayConfig

/-- The layers below the command line, the highest first. -/
def layers (file : Option Tree) (environment : List (String × String)) : List Tree :=
  Env.tree environment :: (file.toList ++ [Tree.ofJson ({} : GatewayConfig).toJson])

theorem stack_layers (file : Option Tree) (environment : List (String × String)) :
    Tree.stack (layers file environment) = some (layered file environment) := by
  cases file <;> rfl

theorem mem_layers {file : Option Tree} {environment : List (String × String)} {v : Tree} :
    v ∈ layers file environment ↔
      v = Env.tree environment ∨ v ∈ file ∨ v = .ofJson ({} : GatewayConfig).toJson := by
  simp [layers]

/-- No key is there twice in the defaults. -/
theorem isTidy_defaults : (Tree.ofJson ({} : GatewayConfig).toJson).IsTidy true := by
  have hobject : ∀ fields : List (String × Json), (fields.map Prod.fst).Nodup →
      (∀ field ∈ fields, (Tree.ofJson field.2).IsTidy true) →
      (Tree.ofJson (.object fields)).IsTidy true := fun fields distinct inner =>
    Tree.isTidy_object ⟨distinct, inner⟩
  have hnone : (Tree.ofJson (.array [])).IsTidy true := Tree.isTidy_array (by simp)
  have hnumber : ∀ n, (Tree.ofJson (.ofNat n)).IsTidy true := fun n => .int n
  have htext : ∀ s, (Tree.ofJson (.text s)).IsTidy true := .text
  have hseed : (Tree.ofJson (.orNull none)).IsTidy true := .null rfl
  have hrate : (Tree.ofJson (.ofFloat 0)).IsTidy true := by
    unfold Json.ofFloat
    split
    · exact .float 0
    · exact .null rfl
  have hhub : (Tree.ofJson ({} : HubConfig).toJson).IsTidy true := by
    refine hobject _ (by decide) ?_
    simp [hobject, hnone, hnumber, htext, hseed, hrate]
  refine hobject _ (by decide) ?_
  simp [hobject, hnone, hnumber, htext, hhub]

theorem isTidy_fileLayer? {text : Option String} {file : Option Tree}
    (h : fileLayer? text = some file) :
    ∀ document ∈ file, document.IsTidy false := by
  cases text with
  | none =>
    cases h
    simp
  | some text =>
    obtain ⟨document, hdocument, rfl⟩ := Option.map_eq_some_iff.mp h
    simpa using Toml.isTidy_of_read? hdocument

end GatewayConfig

/-- Every setting has its default in the defaults, and stands in tables there. -/
theorem Setting.exists_default (s : Setting) :
    Tree.hasTables s.path (.ofJson ({} : GatewayConfig).toJson) = true ∧
      ∃ v, (Tree.ofJson ({} : GatewayConfig).toJson).at? s.path = some v ∧ v.isTable = false ∧
        s.decoder .lenient v = .ok s.default := by
  have hread : GatewayConfig.decode .lenient (.ofJson ({} : GatewayConfig).toJson) = .ok {} :=
    GatewayConfig.decode_toJson (by decide +kernel)
  have htaken := Setting.taken hread s
  have hgiven : ∃ v, (Tree.ofJson ({} : GatewayConfig).toJson).at? s.path = some v ∧
      v.isTable = false := by
    cases s <;> exact ⟨_, rfl, rfl⟩
  obtain ⟨v, hv, hkind⟩ := hgiven
  rw [hv] at htaken
  refine ⟨?_, v, hv, hkind, htaken⟩
  cases s <;> rfl

namespace GatewayConfig

variable {file : Option Tree} {environment : List (String × String)}

theorem isTidy_of_mem_layers (hfile : ∀ document ∈ file, document.IsTidy false) {v : Tree}
    (hv : v ∈ layers file environment) : v.IsTidy true := by
  rcases mem_layers.mp hv with rfl | hv | rfl
  · exact (Env.isTidy_tree environment).mono
  · exact (hfile v hv).mono
  · exact isTidy_defaults

/-- A table that is found at the place of a setting is none of the defaults, so it is without
nulls. -/
theorem isTidy_of_mem_found (hfile : ∀ document ∈ file, document.IsTidy false) {s : Setting}
    {w : Tree}
    (hw : w ∈ Tree.found s.path (layers file environment)) (table : w.isTable = true) :
    w.IsTidy false := by
  obtain ⟨v, hv, hat⟩ := Tree.mem_found hw
  rcases mem_layers.mp hv with rfl | hv | rfl
  · exact (Env.isTidy_tree environment).at? hat
  · exact (hfile v hv).at? hat
  · obtain ⟨-, leaf, hleaf, hkind, -⟩ := s.exists_default
    obtain rfl : leaf = w := Option.some.inj (hleaf.symm.trans hat)
    rw [hkind] at table
    cases table

end GatewayConfig

/-- **A setting is taken from the first layer in which it is found.** -/
theorem Setting.taken_found {file : Option Tree} {environment : List (String × String)}
    (hfile : ∀ document ∈ file, document.IsTidy false) {c : GatewayConfig}
    (h : GatewayConfig.decode .lenient (GatewayConfig.layered file environment) = .ok c)
    (s : Setting) :
    Takes (Tree.found s.path (GatewayConfig.layers file environment)).head? (s.decoder .lenient)
      s.default (s.get c) := by
  have hlayers : ∀ v ∈ GatewayConfig.layers file environment, v.IsTidy true :=
    fun v hv => GatewayConfig.isTidy_of_mem_layers hfile hv
  have hinner : ∀ w ∈ Tree.found s.path (GatewayConfig.layers file environment),
      w.isTable = true → w.IsTidy false :=
    fun w hw => GatewayConfig.isTidy_of_mem_found hfile hw
  have hat := Tree.at?_stack hlayers s.path
  rw [GatewayConfig.stack_layers, Option.bind_some] at hat
  have htaken := s.taken h
  rw [hat] at htaken
  cases hfound : Tree.found s.path (GatewayConfig.layers file environment) with
  | nil =>
    rw [hfound] at htaken
    exact htaken
  | cons v rest =>
    rw [hfound] at htaken hinner
    cases hkind : v.isTable with
    | false =>
      rw [Tree.stack_of_not_isTable hkind] at htaken
      exact htaken
    | true =>
      -- tables make a table, which no setting is
      obtain ⟨w, hw⟩ := Tree.exists_stack v rest
      rw [hw] at htaken
      have table : w.isTable = true := (Tree.isTable_of_stack hw).trans hkind
      have tidy := Tree.isTidy_stack_of_isTable hinner hw table
      rw [isTable_eq_false_of_ok tidy htaken] at table
      cases table

/-! ## Configurations by layers -/

/-- Where the settings of a configuration are from. -/
structure GatewayConfig.IsMadeOf (c : GatewayConfig) (settings : CommandLine.Settings)
    (file : Option Tree) (environment : List (String × String)) : Prop where
  /-- What the command line sets is as the command line says. -/
  overridden : ∀ (s : Setting) (a : s.Value), s.override settings = some a → s.get c = a
  /-- Any other setting is taken from the first layer in which it is found, and has its default if
  it is found in none. A section given as an array hides those below it, and a table those
  arrays. -/
  found : ∀ s : Setting, s.override settings = none →
    Takes (Tree.found s.path (layers file environment)).head? (s.decoder .lenient) s.default
      (s.get c)
  /-- What is found is in one layer, an array as a whole. -/
  whole : ∀ (s : Setting) (v : Tree),
    (Tree.found s.path (layers file environment)).head? = some v →
      ∃ layer ∈ layers file environment, layer.at? s.path = some v
  /-- If the layers have nothing but tables on the way to a setting, it is found in the highest
  layer that has it. -/
  highest : ∀ s : Setting, s.override settings = none →
    (∀ layer ∈ layers file environment, layer.hasTables s.path = true) →
      ∃ v, ((layers file environment).findSome? fun layer => layer.at? s.path) = some v ∧
        s.decoder .lenient v = .ok (s.get c)
  /-- A setting is as the last of the variables says that concern it, if that is for the setting
  itself; so it is as its variable says, if that is the only one that concerns it. -/
  lastVariable : ∀ (s : Setting) (name value : String), s.override settings = none →
    (environment.filter (Env.concerns s)).getLast? = some (name, value) →
      Env.path? name = some s.keys → s.decoder .lenient (Env.read value) = .ok (s.get c)
  /-- A setting that no variable concerns is as the file says, or has its default if that says
  nothing, provided that the file has nothing but tables on the way to it. -/
  noVariable : ∀ s : Setting, s.override settings = none →
    environment.filter (Env.concerns s) = [] →
    (∀ document ∈ file, document.hasTables s.path = true) →
      Takes (file.bind fun document => document.at? s.path) (s.decoder .lenient) s.default (s.get c)
  accepted : c.defect? = none
  /-- Logging can be set up. -/
  level : ∃ level, LogLevel.ofName? c.logging.level = some level ∧
    c.logging.options = .ok { level, format := c.logging.format }

namespace Setting

variable {file : Option Tree} {environment : List (String × String)}
  {settings : CommandLine.Settings}
  {loaded : GatewayConfig} {s : Setting}

/-- With nothing but tables on the way, what the highest layer that has a setting has is read. -/
theorem taken_highest
    (taken : Takes (Tree.found s.path (GatewayConfig.layers file environment)).head?
      (s.decoder .lenient) s.default (s.get loaded))
    (tables : ∀ layer ∈ GatewayConfig.layers file environment, layer.hasTables s.path = true) :
    ∃ v, ((GatewayConfig.layers file environment).findSome? fun layer => layer.at? s.path) =
      some v ∧
      s.decoder .lenient v = .ok (s.get loaded) := by
  rw [Tree.head?_found_of_hasTables tables] at taken
  obtain ⟨-, default, hdefault, -⟩ := s.exists_default
  obtain ⟨v, hv⟩ : ∃ v, ((GatewayConfig.layers file environment).findSome? fun layer =>
      layer.at? s.path) = some v := by
    rw [← Option.isSome_iff_exists, List.findSome?_isSome_iff]
    refine ⟨.ofJson ({} : GatewayConfig).toJson, GatewayConfig.mem_layers.mpr (.inr (.inr rfl)), ?_⟩
    rw [hdefault]
    rfl
  rw [hv] at taken
  exact ⟨v, hv, taken⟩

/-- A setting that no variable concerns is taken from the file or is its default. -/
theorem taken_of_noVariable
    (taken : Takes (Tree.found s.path (GatewayConfig.layers file environment)).head?
      (s.decoder .lenient) s.default (s.get loaded))
    (hnone : environment.filter (Env.concerns s) = [])
    (tables : ∀ document ∈ file, document.hasTables s.path = true) :
    Takes (file.bind fun document => document.at? s.path) (s.decoder .lenient) s.default
      (s.get loaded) := by
  have hvariables := Env.has_tree hnone
  obtain ⟨hbelow, default, hdefault, -, hread⟩ := s.exists_default
  have htables :
      ∀ layer ∈ GatewayConfig.layers file environment, layer.hasTables s.path = true := by
    intro layer hlayer
    rcases GatewayConfig.mem_layers.mp hlayer with rfl | hlayer | rfl
    · exact hvariables.tables
    · exact tables layer hlayer
    · exact hbelow
  obtain ⟨v, hv, hok⟩ := taken_highest taken htables
  have hlower : (file.bind fun document => document.at? s.path).or (some default) = some v := by
    have hfile : (file.toList.findSome? fun layer => layer.at? s.path) =
        file.bind fun document => document.at? s.path := by
      cases file <;> simp
    rw [GatewayConfig.layers, List.findSome?_cons, hvariables.found] at hv
    dsimp only at hv
    rwa [List.findSome?_append, hfile, List.findSome?_singleton, hdefault] at hv
  cases hfile : file.bind fun document => document.at? s.path with
  | none =>
    rw [hfile, Option.none_or] at hlower
    obtain rfl : default = v := Option.some.inj hlower
    exact Except.ok.inj (hok.symm.trans hread)
  | some w =>
    rw [hfile, Option.some_or] at hlower
    obtain rfl : w = v := Option.some.inj hlower
    exact hok

end Setting

namespace GatewayConfig

variable {file : Option Tree} {environment : List (String × String)}
  {settings : CommandLine.Settings}
  {loaded : GatewayConfig}

/-- What has been read, with the settings of the command line, if both have been checked. -/
theorem isMadeOf_apply (hfile : ∀ document ∈ file, document.IsTidy false)
    (hread : decode .lenient (layered file environment) = .ok loaded)
    (accepted : (settings.apply loaded).defect? = none) :
    (settings.apply loaded).IsMadeOf settings file environment where
  overridden s a hset := by rw [s.get_apply, hset, Option.getD_some]
  found s hunset := by
    rw [Setting.get_apply_of_unset hunset]
    exact s.taken_found hfile hread
  whole s v hv := Tree.mem_found (List.mem_of_mem_head? hv)
  highest s hunset tables := by
    rw [Setting.get_apply_of_unset hunset]
    exact Setting.taken_highest (s.taken_found hfile hread) tables
  lastVariable s name value hunset hlast hname := by
    obtain ⟨v, hv, hshows⟩ := Env.has_tree_of_last hlast hname
    have htaken := s.taken_found hfile hread
    rw [layers, Tree.head?_found_of_at? hv.found] at htaken
    have hvalue : s.decoder .lenient v = .ok (s.get loaded) := htaken
    have hleaf : ¬ v.isTable = true := by
      rw [Setting.isTable_eq_false_of_ok (hv.tidy.at? hv.found) hvalue]
      exact Bool.false_ne_true
    rw [hshows.resolve_right hleaf] at hvalue
    rw [Setting.get_apply_of_unset hunset]
    exact hvalue
  noVariable s hunset hnone tables := by
    rw [Setting.get_apply_of_unset hunset]
    exact Setting.taken_of_noVariable (s.taken_found hfile hread) hnone tables
  accepted := accepted
  level := options_of_defect? accepted

end GatewayConfig

/-- **When a gateway starts, and what each setting is then.** If the arguments can be read, a
gateway starts exactly if the file can be read, the layers make a configuration without a defect,
and a level that the command line gives is one. Then each setting is from the layers as
`GatewayConfig.IsMadeOf` says; and other arguments that name the same file give the same settings,
up to the port and the level. -/
theorem settings_by_layer {files : String → Option String} {environment : List (String × String)}
    {args : List String} {settings : CommandLine.Settings}
    (parsed : CommandLine.read (Table.get? environment configVariable) args = .ok settings) :
    ((∃ c, startConfig files environment args = .ok c) ↔ ∃ file loaded,
      GatewayConfig.fileLayer? (settings.config.bind files) = some file ∧
        GatewayConfig.decode .lenient (GatewayConfig.layered file environment) = .ok loaded ∧
        loaded.defect? = none ∧ ∀ level ∈ settings.logLevel, LogLevel.isName level = true) ∧
    ∀ c, startConfig files environment args = .ok c →
      (∃ file, GatewayConfig.fileLayer? (settings.config.bind files) = some file ∧
        c.IsMadeOf settings file environment) ∧
      ∀ others settings',
        CommandLine.read (Table.get? environment configVariable) others = .ok settings' →
        settings'.config = settings.config → ∀ c', startConfig files environment others = .ok c' →
          ∀ s : Setting, s ≠ .port → s ≠ .level → s.get c' = s.get c := by
  refine ⟨⟨?_, ?_⟩, fun c hc => ⟨?_, ?_⟩⟩
  · rintro ⟨c, hc⟩
    obtain ⟨loaded, hload, haccepted, rfl⟩ := (startConfig_eq_ok_iff parsed).mp hc
    obtain ⟨file, hfile, hread, hdefect⟩ := GatewayConfig.load_eq_ok_iff.mp hload
    exact ⟨file, loaded, hfile, hread, hdefect,
      (GatewayConfig.defect?_apply_eq_none_iff hdefect settings).mp haccepted⟩
  · rintro ⟨file, loaded, hfile, hread, hdefect, hlevel⟩
    have hload := GatewayConfig.load_eq_ok_iff.mpr ⟨file, hfile, hread, hdefect⟩
    have haccepted := (GatewayConfig.defect?_apply_eq_none_iff hdefect settings).mpr hlevel
    exact ⟨_, (startConfig_eq_ok_iff parsed).mpr ⟨loaded, hload, haccepted, rfl⟩⟩
  · obtain ⟨loaded, hload, haccepted, rfl⟩ := (startConfig_eq_ok_iff parsed).mp hc
    obtain ⟨file, hfile, hread, -⟩ := GatewayConfig.load_eq_ok_iff.mp hload
    exact ⟨file, hfile, GatewayConfig.isMadeOf_apply (GatewayConfig.isTidy_fileLayer? hfile) hread
      haccepted⟩
  · intro others settings' parsed' hconfig c' hc' s hport hlevel
    obtain ⟨loaded, hload, -, rfl⟩ := (startConfig_eq_ok_iff parsed).mp hc
    obtain ⟨loaded', hload', -, rfl⟩ := (startConfig_eq_ok_iff parsed').mp hc'
    rw [hconfig, hload] at hload'
    obtain rfl : loaded = loaded' := Except.ok.inj hload'
    have hunset : ∀ settings, s.override settings = none := by
      intro settings
      cases s with
      | port => exact absurd rfl hport
      | level => exact absurd rfl hlevel
      | _ => rfl
    rw [Setting.get_apply_of_unset (hunset _), Setting.get_apply_of_unset (hunset _)]

/-- The host from the environment, where it replaces a server given as an array; the format from a
file; and the port and the level from the command line, which goes before the file. -/
theorem settings_by_layer_gate :
    let files : String → Option String := fun _ =>
      some "[server]\nport = 4100\n[logging]\nformat = \"json\"\n"
    let environment := [("PHIDGET_GATEWAY_SERVER", "[\"cellar\", 1]"),
      ("PHIDGET_GATEWAY_SERVER__HOST", "gate")]
    let args := ["--config=gateway.toml", "--log-level", "DEBUG", ":4200"]
    let settings : CommandLine.Settings := ⟨some 4200, some "gateway.toml", some "DEBUG"⟩
    CommandLine.read (Table.get? environment configVariable) args = .ok settings ∧
      ∃ c file, startConfig files environment args = .ok c ∧
        GatewayConfig.fileLayer? (files "gateway.toml") = some file ∧
        c.IsMadeOf settings file environment ∧
        (c.server.host, c.server.port, c.logging.level, c.logging.format) =
          ("gate", 4200, "DEBUG", .json) := by
  intro files environment args settings
  have parsed : CommandLine.read (Table.get? environment configVariable) args = .ok settings := by
    decide +kernel
  have htold : (startConfig files environment args).toOption.map (fun c =>
      (c.server.host, c.server.port, c.logging.level, c.logging.format)) =
        some ("gate", 4200, "DEBUG", .json) := by
    decide +kernel
  obtain ⟨c, hstart, hc⟩ := Option.map_eq_some_iff.mp htold
  have hstart := Decoded.toOption_eq_some_iff.mp hstart
  obtain ⟨file, hfile, made⟩ := ((settings_by_layer parsed).2 c hstart).1
  exact ⟨parsed, c, file, hstart, hfile, made, hc⟩

/-- **A section hides what is below it, if it is given as an array.** The file has a title and the
environment has none; but the environment has the server as a host and a port, and the title is the
default. -/
theorem section_hides_lower :
    let text := "[server]\nstate_page_title = \"Boiler Room\"\n"
    let environment := [("PHIDGET_GATEWAY_SERVER", "[\"h\", 1]")]
    ∃ c document v,
      startConfig (fun _ => some text) environment ["--config", "gateway.toml"] = .ok c ∧
        GatewayConfig.fileLayer? (some text) = some (some document) ∧
        document.at? Setting.title.path = some v ∧
        Setting.title.decoder .lenient v = .ok "Boiler Room" ∧
        (Env.tree environment).at? Setting.title.path = none ∧
        Setting.title.get c = "Phidgets State" := by
  intro text environment
  have htold : (startConfig (fun _ => some text) environment
      ["--config", "gateway.toml"]).toOption.map (Setting.title.get ·) = some "Phidgets State" := by
    decide +kernel
  have hgiven : ((GatewayConfig.fileLayer? (some text)).bind fun file => file.bind fun document =>
      (document.at? Setting.title.path).bind fun v => (Decoder.text v).toOption) =
        some "Boiler Room" := by
    decide +kernel
  have hunset : ((Env.tree environment).at? Setting.title.path).isNone = true := by decide +kernel
  obtain ⟨c, hstart, hc⟩ := Option.map_eq_some_iff.mp htold
  obtain ⟨file, hfile, hdocument⟩ := Option.bind_eq_some_iff.mp hgiven
  obtain ⟨document, rfl, htitle⟩ := Option.bind_eq_some_iff.mp hdocument
  obtain ⟨v, hv, hread⟩ := Option.bind_eq_some_iff.mp htitle
  exact ⟨c, document, v, Decoded.toOption_eq_some_iff.mp hstart, hfile, hv,
    Decoded.toOption_eq_some_iff.mp hread, Option.isNone_iff_eq_none.mp hunset, hc⟩

end ChannelGateway
