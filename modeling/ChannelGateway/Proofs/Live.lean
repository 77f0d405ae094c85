import ChannelGateway.Proofs.Backing
import ChannelGateway.Proofs.Orderly
import Mathlib.Data.List.Nodup

/-!
# No channel outlives its name

The hub does not keep channels alive: a channel lives while the registry, a request or somebody
outside holds it. When every task is done and nobody outside holds a channel, the registry is the
only holder left, and each registered name has a channel of its own (`Backed`). So the live channels
are those of the registered names, one for one, whatever has failed, was closed, detached, drained
or given up before.

Results:
* `Backed.perm_resources`: a hub whose channels are held by the registry alone.
* **`live_registered`**: the live channels after every run, once every task is done.
-/

namespace ChannelGateway

namespace Task

/-- A task whose requests have all ended stands after one. -/
theorem done_of_outcomes? {u : Task} (h : u.outcomes?.isSome = true) :
    ∃ outcome, u.progress = .done outcome := by
  unfold outcomes? at h
  split at h
  · rename_i outcome hdone _
    exact ⟨outcome, hdone⟩
  · cases h

/-- A task that is done holds no channel. -/
theorem not_holds_of_outcomes? {u : Task} (h : u.outcomes?.isSome = true) (serial : Nat) :
    u.progress.holds serial = false := by
  obtain ⟨outcome, hdone⟩ := done_of_outcomes? h
  rw [hdone]
  rfl

end Task

namespace Registry.Consistent

variable {registry : Registry}

/-- The registered resources have different names. -/
theorem nodup_names (h : registry.Consistent) : (registry.resources.map Resource.name).Nodup := by
  have hnames : registry.resources.map Resource.name = registry.byName.keys := by
    unfold resources Table.values Table.keys
    rw [List.map_map]
    refine List.map_congr_left fun entry hentry => ?_
    exact h.name_eq (Table.get?_of_mem h.distinct hentry)
  rw [hnames]
  exact h.distinct

/-- A resource is listed if its name resolves to it. -/
theorem mem_resources_iff (h : registry.Consistent) {r : Resource} :
    r ∈ registry.resources ↔ ∃ name, registry.resolve name = some r :=
  ⟨fun hr => ⟨r.name, h.resolve_of_mem hr⟩,
    fun ⟨name, hr⟩ => List.mem_map.mpr ⟨(name, r), Table.mem_of_get? hr, rfl⟩⟩

end Registry.Consistent

namespace Backed

variable {hub : Hub} {registry : Registry} {standing : Nat → Option Progress} {held : Nat → Bool}

/-- The registered resources have channels of their own. -/
theorem nodup_serials (h : Backed hub.ledger registry standing) (hc : registry.Consistent) :
    (registry.resources.map Resource.serial).Nodup :=
  List.Nodup.map_on
    (fun _ hr _ hs he =>
      h.inj (known_resolve (hc.resolve_of_mem hr)) (known_resolve (hc.resolve_of_mem hs)) he)
    (List.Nodup.of_map _ hc.nodup_names)

/-- **When the registry holds the channels of its resources and nobody holds another one**, the live
channels are those of the registered resources. -/
theorem perm_resources (h : Backed hub.ledger registry standing) (hc : registry.Consistent)
    (alone : ∀ serial, held serial = true ↔ ∃ r ∈ registry.resources, r.serial = serial) :
    ((hub.live held).map fun c => (c.serial, c.spec)).Perm
      (registry.resources.map fun r => (r.serial, r.spec)) := by
  have hlive : (hub.live held).map (fun c => (c.serial, c.spec)) =
      hub.ledger.specs.filter fun entry => held entry.1 := by
    simp [Hub.live, Hub.ledger, List.filter_map, Function.comp_def]
  have hknown : ∀ {r}, r ∈ registry.resources → Known registry standing r :=
    fun hr => known_resolve (hc.resolve_of_mem hr)
  have hnodup : (registry.resources.map fun r => (r.serial, r.spec)).Nodup :=
    List.Nodup.of_map Prod.fst (by rw [List.map_map]; exact h.nodup_serials hc)
  rw [hlive, List.perm_ext_iff_of_nodup ((List.Nodup.of_map _ h.distinct).filter _) hnodup]
  rintro ⟨serial, spec⟩
  rw [List.mem_filter, List.mem_map]
  constructor
  · rintro ⟨hentry, hheld⟩
    obtain ⟨r, hr, rfl⟩ := (alone serial).mp hheld
    have hspec := Table.get?_of_mem h.distinct hentry
    rw [Table.get?_of_mem h.distinct (h.backed (hknown hr))] at hspec
    exact ⟨r, hr, by rw [Option.some.inj hspec]⟩
  · rintro ⟨r, hr, he⟩
    cases he
    exact ⟨h.backed (hknown hr), (alone _).mpr ⟨r, hr, rfl⟩⟩

end Backed

/-- Whether the registry or a task holds a channel. -/
def Traffic.inUse (t : Traffic) : Nat → Bool :=
  t.gateway.holds (t.held fun _ => false)

/-- An identity is registered if a listed resource has it. -/
theorem Registry.Consistent.nameFor_isSome_iff {registry : Registry} (hc : registry.Consistent)
    (id : ChannelId) :
    (registry.nameFor id).isSome = true ↔ ∃ r ∈ registry.resources, r.id = id := by
  rw [Option.isSome_iff_exists]
  constructor
  · rintro ⟨name, hname⟩
    obtain ⟨r, hr, hid⟩ := hc.resolve_eq hname
    exact ⟨r, hc.mem_resources_iff.mpr ⟨name, hr⟩, hid⟩
  · rintro ⟨r, hr, rfl⟩
    exact ⟨r.name, hc.nameFor_eq (hc.resolve_of_mem hr)⟩

/-- The channels that the registry or a task holds are those of the open names. -/
structure Traffic.IsTidy (t : Traffic) : Prop where
  /-- The live channels are those of the registered resources, one for one. -/
  live : ((t.gateway.hub.live t.inUse).map fun c => (c.serial, c.spec)).Perm
    (t.gateway.registry.resources.map fun r => (r.serial, r.spec))
  /-- There are as many as open names. -/
  count : t.gateway.hub.liveCount t.inUse = t.gateway.registry.size
  /-- A channel is found under an identity if and only if the identity is registered. -/
  found : ∀ id,
    (t.gateway.hub.withId? t.inUse id).isSome = (t.gateway.registry.nameFor id).isSome

/-- **No channel outlives its name.** After every run that puts no other hub in place, once every
task is done and if nobody outside holds a channel, the live channels of the hub are those of the
open names. -/
theorem live_registered (gateway : GatewayConfig) (config : HubConfig) (seed : UInt64)
    (moves : List Move) (own : ∀ m ∈ moves, ∀ hub, m ≠ .meddle hub) :
    let t := (Traffic.ofGateway (.ofConfig gateway (.ofConfig config seed))).run moves
    (∀ u ∈ t.tasks, u.outcomes?.isSome = true) → t.IsTidy := by
  intro t idle
  have hbacked : t.IsBacked := Traffic.IsBacked.run gateway config seed own
  have hc : t.gateway.registry.Consistent :=
    (Traffic.isOrderly_run gateway (.ofConfig config seed) moves).consistent
  have alone : ∀ serial, t.inUse serial = true ↔
      ∃ r ∈ t.gateway.registry.resources, r.serial = serial := by
    intro serial
    have hnone : t.held (fun _ => false) serial = false := by
      unfold Traffic.held
      rw [Bool.or_false, List.any_eq_false]
      intro u hu
      rw [Task.not_holds_of_outcomes? (idle u hu)]
      exact Bool.false_ne_true
    unfold Traffic.inUse Gateway.holds Gateway.registers
    rw [hnone, Bool.or_false, List.any_eq_true]
    simp
  have hperm := hbacked.perm_resources hc alone
  refine ⟨hperm, ?_, fun id => ?_⟩
  · have hlength := hperm.length_eq
    rw [List.length_map, List.length_map] at hlength
    unfold Hub.liveCount Registry.size
    rw [hlength]
    exact List.length_map _
  · rw [Bool.eq_iff_iff, hc.nameFor_isSome_iff, Hub.withId?, List.find?_isSome]
    -- an identity of a live channel is one of a registered resource
    have hids := (hperm.map fun entry => entry.2.id).mem_iff (a := id)
    simp only [List.map_map, List.mem_map, Function.comp_def] at hids
    simpa [Resource.id] using hids

/-- A relay that is not there fails to open, a door is closed again, a bell loses its hardware, and
a fan is given up while its channel attaches; of their channels only that of the lamp is left. -/
theorem live_registered_lamp :
    let use (name : String) (channel : Int32) : Job :=
      .use ⟨name, .digitalOutput, ⟨channel, 0⟩, 1000⟩ .nothing
    let go (ticket : Nat) : Move := .advance ticket fun _ => false
    let moves : List Move := [.arrive 0 [use "relay" 40], .arrive 1 [use "lamp" 0],
      .arrive 2 [use "door" 1, .close "door"], .arrive 3 [use "bell" 2], .arrive 4 [use "fan" 3],
      go 0, go 1, go 2, go 3, go 4, .cancel 4, .wait 1000, go 0, go 1, go 2, go 2, go 2, go 3,
      .intervene 3 .detach]
    let config : HubConfig := { mode := .realistic }
    let t := (Traffic.ofGateway (.ofConfig {} (.ofConfig config 0))).run moves
    (∀ m ∈ moves, ∀ hub, m ≠ .meddle hub) ∧ (∀ u ∈ t.tasks, u.outcomes?.isSome = true) ∧
      t.gateway.hub.created = 5 ∧ t.gateway.hub.liveCount t.inUse = 1 ∧
      (t.gateway.hub.withId? t.inUse 2).isSome = true ∧
      (t.gateway.hub.withId? t.inUse 3).isSome = false := by
  intro use go moves config t
  have own : ∀ m ∈ moves, ∀ hub, m ≠ .meddle hub := by simp [moves, go]
  have idle : ∀ u ∈ t.tasks, u.outcomes?.isSome = true := by
    have hall : t.tasks.all (fun u => u.outcomes?.isSome) = true := by decide +kernel
    exact List.all_eq_true.mp hall
  have hsize : t.gateway.registry.size = 1 := by decide +kernel
  have hlamp : (t.gateway.registry.nameFor 2).isSome = true := by decide +kernel
  have hdoor : (t.gateway.registry.nameFor 3).isSome = false := by decide +kernel
  have tidy : t.IsTidy := live_registered {} config 0 moves own idle
  refine ⟨own, idle, by decide +kernel, ?_, ?_, ?_⟩
  · rw [tidy.count, hsize]
  · rw [tidy.found, hlamp]
  · rw [tidy.found, hdoor]

end ChannelGateway
