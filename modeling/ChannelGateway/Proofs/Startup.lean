import ChannelGateway.Config.Basic
import ChannelGateway.Proofs.Series

/-!
# Startup channels

The startup channels of a configuration are opened one after the other when a gateway starts. An
accepted configuration gives them different names, so none of them finds a channel of an earlier
one: whether a startup channel opens depends on its own address and on how fast the hub is
(`GatewayConfig.Reaches`), and not on what has become of the others. The lemmas on directories say
this for entries whose names are new (`Directory.AreNew`); that a directory stays new to the entries
that are left is the invariant of the induction over them.

Results:
* `Directory.AreNew.listed`, `Directory.AreNew.unlisted`: what is listed after the openings
  of new names.
* **`startup_opens`**: what opening the startup channels returns and leaves behind, after every run
  in which nobody else is served; `startup_opens_door` is a configuration for it.
-/

namespace ChannelGateway

/-! ## Openings of new names -/

namespace Directory

variable (config : HubConfig) {d : Directory} {e : Entry} {entries rest : List Entry}
  {name : String}

/-- What is listed under a name. -/
def under (d : Directory) (name : String) : Option (ChannelKind × Address) × List String :=
  (d.places name, d.subscribers name)

/-- The names of some entries are different, and none of them is open. -/
structure AreNew (d : Directory) (entries : List Entry) : Prop where
  distinct : (entries.map fun e => e.request.name).Nodup
  free : ∀ e ∈ entries, d.places e.request.name = none

/-- Entering a name changes nothing under another one. -/
theorem under_enter_of_ne (hne : name ≠ e.request.name) :
    (d.enter config e).under name = d.under name := by
  unfold enter under
  split
  · simp only [Function.update_of_ne hne]
  · rfl

namespace AreNew

theorem ne_of_mem (h : d.AreNew (e :: rest)) {e' : Entry} (he' : e' ∈ rest) :
    e'.request.name ≠ e.request.name := by
  have hdistinct := h.distinct
  rw [List.map_cons, List.nodup_cons] at hdistinct
  exact fun he => hdistinct.1 (he ▸ List.mem_map_of_mem he')

/-- Once the first entry has been entered, the names of the others are still new. -/
theorem enter (h : d.AreNew (e :: rest)) : (d.enter config e).AreNew rest where
  distinct := (List.nodup_cons.mp h.distinct).2
  free e' he' := by
    have hsame := under_enter_of_ne config (d := d) (h.ne_of_mem he')
    exact (congrArg Prod.fst hsame).trans (h.free e' (List.mem_cons_of_mem e he'))

/-- **Each new name opens or fails for itself.** -/
theorem results_eq (h : d.AreNew entries) :
    d.results config entries = entries.map fun e => decide (e.IsAdmitted config) := by
  induction entries generalizing d with
  | nil => rfl
  | cons e rest ih =>
    have hfirst : d.Opens config e ↔ e.IsAdmitted config := opens_iff (h.free e List.mem_cons_self)
    rw [results, List.map_cons, ih (h.enter config), decide_eq_decide.mpr hfirst]

/-- What is listed under a name that is not opened. -/
theorem unlisted (h : d.AreNew entries)
    (off : ∀ e ∈ entries, e.request.name = name → ¬ e.IsAdmitted config) :
    (d.enterAll config entries).under name = d.under name := by
  induction entries generalizing d with
  | nil => rfl
  | cons e rest ih =>
    obtain ⟨hoff, hrest⟩ := List.forall_mem_cons.mp off
    refine (ih (h.enter config) hrest).trans ?_
    by_cases hname : name = e.request.name
    · have hnot : ¬ d.Opens config e := fun hopens =>
        hoff hname.symm ((opens_iff (h.free e List.mem_cons_self)).mp hopens)
      rw [Directory.enter, if_neg hnot]
    · exact under_enter_of_ne config hname

/-- What is listed under a name that is opened. -/
theorem listed (h : d.AreNew entries) (he : e ∈ entries) (admitted : e.IsAdmitted config) :
    (d.enterAll config entries).under e.request.name =
      (some (e.request.kind, e.request.address), d.subscribers e.request.name ++ e.urls) := by
  induction entries generalizing d with
  | nil => cases he
  | cons first rest ih =>
    rcases List.mem_cons.mp he with rfl | hmem
    · -- no other entry has the name
      have hother : ∀ e' ∈ rest, e'.request.name = e.request.name → ¬ e'.IsAdmitted config :=
        fun e' he' heq => absurd heq (h.ne_of_mem he')
      refine ((h.enter config).unlisted config hother).trans ?_
      rw [enter_of_admits (h.free e he) admitted]
      simp only [under, Function.update_self]
    · have hsame := under_enter_of_ne config (d := d) (h.ne_of_mem hmem)
      have hsubscribers : (d.enter config first).subscribers e.request.name =
          d.subscribers e.request.name := congrArg Prod.snd hsame
      exact hsubscribers ▸ ih (h.enter config) hmem

end AreNew

end Directory

/-! ## Configurations -/

namespace StartupChannel

/-- The entry that opens a startup channel. -/
def entry (openTimeout : Nat) (c : StartupChannel) : Entry :=
  ⟨⟨c.name, c.kind, c.address, openTimeout⟩, c.webhooks⟩

/-- Startup channels without a defect have different names, which have not been given before. -/
theorem distinct_of_defectIn? {names : List String} {channels : List StartupChannel}
    (h : defectIn? names channels = none) :
    (channels.map StartupChannel.name).Nodup ∧ ∀ c ∈ channels, c.name ∉ names := by
  induction channels generalizing names with
  | nil => exact ⟨List.nodup_nil, by simp⟩
  | cons c rest ih =>
    unfold defectIn? at h
    split_ifs at h with hempty hgiven hmissing
    obtain ⟨hdistinct, hnew⟩ := ih h
    refine ⟨List.nodup_cons.mpr ⟨?_, hdistinct⟩, List.forall_mem_cons.mpr ⟨hgiven, ?_⟩⟩
    · rintro hmem
      obtain ⟨other, hother, hname⟩ := List.mem_map.mp hmem
      exact hnew other hother (hname ▸ List.mem_cons_self)
    · exact fun other hother hmem => hnew other hother (List.mem_cons_of_mem _ hmem)

end StartupChannel

namespace GatewayConfig

/-- The startup channels of an accepted configuration have different names. -/
theorem distinct_of_defect? {config : GatewayConfig} (h : config.defect? = none) :
    (config.channels.map StartupChannel.name).Nodup := by
  unfold defect? at h
  split_ifs at h
  split at h
  · cases h
  · exact (StartupChannel.distinct_of_defectIn? h).1

/-- The entries that open the startup channels. -/
def entries (config : GatewayConfig) : List Entry :=
  config.channels.map (StartupChannel.entry config.hardware.openTimeout.toNat)

/-- Whether the hub has the place of a startup channel, and attaches it in time. -/
def Reaches (config : GatewayConfig) (c : StartupChannel) : Prop :=
  config.hardware.hub.Admits c.address config.hardware.openTimeout.toNat

instance (config : GatewayConfig) (c : StartupChannel) : Decidable (config.Reaches c) :=
  inferInstanceAs (Decidable (HubConfig.Admits ..))

/-- What is listed once the startup channels have been opened. -/
def opened (config : GatewayConfig) : Directory :=
  Directory.empty.enterAll config.hardware.hub config.entries

section

variable {config : GatewayConfig} (accepted : config.defect? = none)
include accepted

/-- The startup channels of an accepted configuration are new to a gateway with nothing open. -/
theorem areNew_entries : Directory.empty.AreNew config.entries := by
  refine ⟨?_, fun _ _ => rfl⟩
  rw [entries, List.map_map]
  exact distinct_of_defect? accepted

theorem opened_of_reaches {c : StartupChannel} (hc : c ∈ config.channels)
    (reached : config.Reaches c) :
    config.opened.under c.name = (some (c.kind, c.address), c.webhooks) :=
  (areNew_entries accepted).listed config.hardware.hub (List.mem_map_of_mem hc) reached

theorem opened_of_not_reaches {name : String}
    (off : ∀ c ∈ config.channels, c.name = name → ¬ config.Reaches c) :
    config.opened.under name = (none, []) := by
  refine (areNew_entries accepted).unlisted config.hardware.hub fun e he hname => ?_
  obtain ⟨c, hc, rfl⟩ := List.mem_map.mp he
  exact off c hc hname

/-- The names that are listed are those of the startup channels that the hub reaches. -/
theorem isSome_opened_iff (name : String) :
    (config.opened.places name).isSome = true ↔
      ∃ c ∈ config.channels, c.name = name ∧ config.Reaches c := by
  constructor
  · intro hsome
    by_contra hnone
    have hoff : ∀ c ∈ config.channels, c.name = name → ¬ config.Reaches c :=
      fun c hc hname reached => hnone ⟨c, hc, hname, reached⟩
    have hplace : config.opened.places name = none :=
      congrArg Prod.fst (opened_of_not_reaches accepted hoff)
    rw [hplace] at hsome
    cases hsome
  · rintro ⟨c, hc, rfl, reached⟩
    have hplace : config.opened.places c.name = some (c.kind, c.address) :=
      congrArg Prod.fst (opened_of_reaches accepted hc reached)
    rw [hplace]
    rfl

end

end GatewayConfig

/-! ## What opening the startup channels returns and leaves behind -/

/-- The startup channels of a configuration have been opened, as far as the hub reaches them, and
there is nothing else on the gateway. -/
structure Traffic.HasOpened (t : Traffic) (config : GatewayConfig) (outcomes : List Outcome) :
    Prop where
  /-- It is returned how many could be reached. -/
  count : successes outcomes = config.channels.countP fun c => config.Reaches c
  /-- Every startup channel has been tried, whatever has become of those before. -/
  each : List.Forall₂ (fun outcome c => outcome.isOk = true ↔ config.Reaches c) outcomes
    config.channels
  names : ∀ name, (t.gateway.registry.resolve name).isSome = true ↔
    ∃ c ∈ config.channels, c.name = name ∧ config.Reaches c
  /-- A name has an open channel of the kind and at the address of its startup channel. -/
  bound : ∀ c ∈ config.channels, config.Reaches c → ∃ r channel,
    t.gateway.registry.resolve c.name = some r ∧ r.kind = c.kind ∧
      t.gateway.hub.channel? r.serial = some channel ∧ channel.spec = ⟨r.id, c.kind, c.address⟩ ∧
      channel.isOpen = true ∧ channel.attached = true
  /-- No two names have the same channel. -/
  apart : ∀ {name other r s}, t.gateway.registry.resolve name = some r →
    t.gateway.registry.resolve other = some s → r.id = s.id ∨ r.serial = s.serial → name = other
  subscribed : ∀ c ∈ config.channels, config.Reaches c →
    t.gateway.subscriptions.listFor c.name = c.webhooks
  unsubscribed : ∀ name, (∀ c ∈ config.channels, c.name = name → ¬ config.Reaches c) →
    t.gateway.subscriptions.listFor name = []

/-- A move that serves one task only operates no channel directly. -/
theorem Move.isForeign_of_isSolo {ticket : Nat} {m : Move} (solo : m.IsSolo ticket) :
    m.isForeign = false := by
  obtain ⟨outside, lone⟩ := solo
  cases m with
  | advance k other => rfl
  | wait ms => rfl
  | deliver receivers => rfl
  | settle => rfl
  | _ => cases lone

/-- What is listed and told of the startup channels says how they have been opened. -/
theorem Traffic.hasOpened {config : GatewayConfig} (accepted : config.defect? = none) {t : Traffic}
    (orderly : t.IsOrderly)
    (sound : Sound config.hardware.hub t.gateway.hub t.gateway.registry t.standing)
    (listed : t.gateway.directory = config.opened) {outcomes : List Outcome}
    (told : outcomes.map (fun outcome => outcome.isOk) =
      config.channels.map fun c => decide (config.Reaches c)) : t.HasOpened config outcomes := by
  have hplaces : ∀ name, (t.gateway.registry.resolve name).map (fun r => (r.kind, r.spec.address)) =
      config.opened.places name :=
    fun name => congrFun (congrArg Directory.places listed) name
  have hsubscribers : ∀ name, t.gateway.subscriptions.listFor name =
      config.opened.subscribers name :=
    fun name => congrFun (congrArg Directory.subscribers listed) name
  refine
    { count := ?_
      each := ?_
      names := fun name => ?_
      bound := fun c hc reached => ?_
      apart := ?_
      subscribed := fun c hc reached => ?_
      unsubscribed := fun name off => ?_ }
  · have hcount : successes outcomes = (outcomes.map fun outcome => outcome.isOk).countP id := by
      rw [List.countP_map]
      rfl
    rw [hcount, told, List.countP_map]
    rfl
  · have hall : List.Forall₂ Eq (outcomes.map fun outcome => outcome.isOk)
        (config.channels.map _) := List.forall₂_eq_eq_eq ▸ told
    rw [List.forall₂_map_left_iff, List.forall₂_map_right_iff] at hall
    refine hall.imp fun outcome c heq => ?_
    rw [heq]
    exact decide_eq_true_iff
  · rw [← GatewayConfig.isSome_opened_iff accepted, ← hplaces, Option.isSome_map]
  · have hplace := (hplaces c.name).trans
      (congrArg Prod.fst (GatewayConfig.opened_of_reaches accepted hc reached))
    obtain ⟨r, hr, heq⟩ := Option.map_eq_some_iff.mp hplace
    obtain ⟨hkind, haddress⟩ := Prod.mk.inj heq
    have husable := sound.usable hr
    obtain ⟨channel, hchannel, hlink⟩ := Option.map_eq_some_iff.mp husable.link
    obtain ⟨hspec, hopen, hattached⟩ : channel.spec = r.spec ∧ channel.isOpen = true ∧
        channel.attached = true := by simpa using hlink
    refine ⟨r, channel, hr, hkind, hchannel, ?_, hopen, hattached⟩
    rw [hspec, ← hkind, husable.kind, ← haddress]
    rfl
  · rintro name other r s hr hs (hid | hserial)
    · exact orderly.consistent.name_inj hr hs hid
    · exact sound.name_eq_of_serial orderly.consistent hr hs hserial.symm
  · exact (hsubscribers c.name).trans
      (congrArg Prod.snd (GatewayConfig.opened_of_reaches accepted hc reached))
  · exact (hsubscribers name).trans
      (congrArg Prod.snd (GatewayConfig.opened_of_not_reaches accepted off))

/-- **What opening the startup channels returns and leaves behind.** On a fresh gateway with an
accepted configuration whose hub has no injected faults, and as long as nobody else is served, it
ends some time. Then the channels that the hub reaches have been counted, each of their names has a
channel of its own, as it was configured, and its webhooks in order; no other name is open or has a
subscriber. -/
theorem startup_opens (config : GatewayConfig) (accepted : config.defect? = none)
    (faultless : config.hardware.hub.IsFaultless) (seed : UInt64) (ticket : Nat)
    (moves : List Move) (solo : ∀ m ∈ moves, m.IsSolo ticket) :
    let start := Traffic.ofGateway (.ofConfig config (.ofConfig config.hardware.hub seed))
    let jobs := start.gateway.startupJobs
    let t := (start.arrive ticket jobs).run moves
    (∃ more outcomes, (∀ m ∈ more, m.IsSolo ticket) ∧
        (t.run more).ended? ticket jobs = some outcomes) ∧
      ∀ outcomes, t.ended? ticket jobs = some outcomes → t.HasOpened config outcomes := by
  intro start jobs t
  have hjobs : jobs = config.entries.map Entry.job := by
    rw [GatewayConfig.entries, List.map_map]
    rfl
  obtain ⟨hends, hended⟩ :=
    Traffic.entered_in_order config faultless seed ticket config.entries solo
  rw [← hjobs] at hends hended
  refine ⟨hends, fun outcomes houtcomes => ?_⟩
  obtain ⟨listed, told⟩ := hended outcomes houtcomes
  rw [(GatewayConfig.areNew_entries accepted).results_eq, GatewayConfig.entries, List.map_map]
    at told
  have own : ∀ m ∈ Move.arrive ticket jobs :: moves, m.isForeign = false :=
    List.forall_mem_cons.mpr ⟨rfl, fun m hm => Move.isForeign_of_isSolo (solo m hm)⟩
  obtain ⟨orderly, sound⟩ := Sound.run config config.hardware.hub seed own
  exact Traffic.hasOpened accepted orderly sound listed told

/-- A door and a bell open on a slow hub, and a lamp between them does not, whose port the hub does
not have. -/
theorem startup_opens_door :
    let config : GatewayConfig :=
      { hardware := { hub := { mode := .realistic } }
        channels := [⟨"door", .digitalInput, ⟨0, 0⟩, ["http://b", "http://a"]⟩,
          ⟨"lamp", .digitalOutput, ⟨0, 40⟩, ["http://a"]⟩, ⟨"bell", .digitalInput, ⟨1, 0⟩, []⟩] }
    let go : Move := .advance 0 fun _ => false
    let moves : List Move := [go, .wait 250, go, go, go, .wait 5000, go, go, go, .wait 250, go]
    let start := Traffic.ofGateway (.ofConfig config (.ofConfig config.hardware.hub 0))
    let t := (start.arrive 0 start.gateway.startupJobs).run moves
    config.defect? = none ∧ config.hardware.hub.IsFaultless ∧ (∀ m ∈ moves, m.IsSolo 0) ∧
      ∃ outcomes, t.ended? 0 start.gateway.startupJobs = some outcomes ∧ successes outcomes = 2 ∧
        t.HasOpened config outcomes := by
  intro config go moves start t
  have accepted : config.defect?.isNone = true := by decide +kernel
  rw [Option.isNone_iff_eq_none] at accepted
  have faultless : config.hardware.hub.IsFaultless := by decide +kernel
  have hgo : go.IsSolo 0 := ⟨fun _ => false, rfl, rfl⟩
  have hwait : ∀ ms, (Move.wait ms).IsSolo 0 := fun ms => ⟨fun _ => false, trivial⟩
  have solo : ∀ m ∈ moves, m.IsSolo 0 := by simp [moves, hgo, hwait]
  have htold : (t.ended? 0 start.gateway.startupJobs).map successes = some 2 := by decide +kernel
  obtain ⟨outcomes, hended, hcount⟩ := Option.map_eq_some_iff.mp htold
  have hopened := (startup_opens config accepted faultless 0 0 moves solo).2 outcomes hended
  exact ⟨accepted, faultless, solo, outcomes, hended, hcount, hopened⟩

end ChannelGateway
