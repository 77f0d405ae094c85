import ChannelGateway.Proofs.Asked
import ChannelGateway.Proofs.Live
import ChannelGateway.Proofs.Outage
import Mathlib.Data.List.Pairwise
import Mathlib.Tactic.SplitIfs

/-!
# The status records of all open names

The registry has no order of its own in which it lists its resources, so their channels may be read
in any order (`Gateway.snapshotIn`); the records are sorted by name afterwards. Names are different,
so the order of the records is strict; it is that of the bytes of the names in UTF-8, which is that
of their code points (`octets_lt`).

What a channel reads could still depend on which channels were read before it, since all readings
ask the same injected faults. They leave no trace there if no limit is set to readings, nothing is
left to chance and nothing latches (`Injection.check_snd`); and where something latches no name is
ever registered (`Scene.IsDown`). Then every order gives the same records.

Results:
* `octets_lt`: the order of texts is that of their bytes.
* `Gateway.lists_snapshotIn`: what is listed, in whichever order the channels are read.
* `Gateway.snapshotIn_perm`: when that order does not matter.
* **`snapshots_listed`**: both, after every run.
-/

namespace ChannelGateway

/-! ## The order of texts -/

/-- The bytes of a text in UTF-8. -/
def octets (s : String) : List UInt8 :=
  s.toUTF8.data.toList

theorem octets_eq (s : String) : octets s = s.toList.flatMap String.utf8EncodeChar := by
  have hbytes : s.toUTF8 = (s.toList.flatMap String.utf8EncodeChar).toByteArray := by
    rw [← s.ofList_toList, String.toUTF8, String.toByteArray_ofList, String.toList_ofList]
    rfl
  rw [octets, hbytes, List.data_toByteArray]

/-- A character with a smaller code point has smaller bytes, whatever follows: there is a place
where both have a byte and the bytes differ. -/
theorem utf8EncodeChar_append_lt {c d : Char} (h : c < d) (rest more : List UInt8) :
    String.utf8EncodeChar c ++ rest < String.utf8EncodeChar d ++ more := by
  have hcode : c.val.toNat < d.val.toNat := h
  have hvalid : d.val.toNat < 1114112 := by
    have := d.valid
    unfold UInt32.isValidChar Nat.isValidChar at this
    omega
  -- the bytes are digits to the base 64, the leading one with a mark for how many there are
  have hdigits (v : Nat) : v / 4096 = v / 64 / 64 ∧ v / 262144 = v / 64 / 64 / 64 := by omega
  unfold String.utf8EncodeChar
  by_cases hrest : rest < more
  all_goals
    dsimp only
    simp only [hdigits]
    split_ifs <;>
      simp only [List.cons_append, List.nil_append, List.cons_lt_cons_iff, UInt8.lt_iff_toNat_lt,
        ← UInt8.toNat_inj, UInt8.toNat_ofNat', hrest, and_true, and_false, or_false] <;>
      omega

theorem flatMap_utf8EncodeChar_lt {cs ds : List Char} (h : cs < ds) :
    cs.flatMap String.utf8EncodeChar < ds.flatMap String.utf8EncodeChar := by
  induction List.lex_lt.mpr h with
  | @nil d ds =>
    have hpos : 0 < ((d :: ds).flatMap String.utf8EncodeChar).length := by
      rw [List.flatMap_cons, List.length_append, String.length_utf8EncodeChar]
      exact Nat.add_pos_left d.utf8Size_pos _
    obtain ⟨b, bs, hb⟩ := List.exists_cons_of_length_pos hpos
    rw [hb]
    exact List.nil_lt_cons b bs
  | rel hc => exact utf8EncodeChar_append_lt hc _ _
  | cons hrest ih => exact List.append_left_lt (ih (List.lex_lt.mp hrest))

/-- **The order of texts is that of their bytes.** -/
theorem octets_lt {s t : String} (h : s < t) : octets s < octets t := by
  rw [octets_eq, octets_eq]
  exact flatMap_utf8EncodeChar_lt h

/-! ## What is listed -/

namespace Registry.Consistent

variable {registry : Registry}

/-- The registered resources with a name are the one that the name resolves to. -/
theorem filter_name (h : registry.Consistent) (name : String) :
    (registry.resources.filter fun r => r.name = name) = (registry.resolve name).toList := by
  have hmem (r : Resource) : r ∈ (registry.resources.filter fun r => r.name = name) ↔
      registry.resolve name = some r := by
    rw [List.mem_filter, decide_eq_true_iff, h.mem_resources_iff]
    constructor
    · rintro ⟨⟨other, hr⟩, hname⟩
      rwa [← hname, h.name_eq hr]
    · exact fun hr => ⟨⟨name, hr⟩, h.name_eq hr⟩
  have hnodup : (registry.resources.filter fun r => r.name = name).Nodup :=
    (List.Nodup.of_map _ h.nodup_names).filter _
  cases hr : registry.resolve name with
  | none =>
    refine List.eq_nil_iff_forall_not_mem.mpr fun r hr' => ?_
    cases hr.symm.trans ((hmem r).mp hr')
  | some r =>
    refine List.perm_singleton.mp
      ((List.perm_ext_iff_of_nodup hnodup (List.nodup_singleton r)).mpr fun r' => ?_)
    rw [hmem, hr, List.mem_singleton, Option.some_inj, eq_comm]

end Registry.Consistent

namespace Gateway

variable {g : Gateway} {order other : List Resource}

/-- The status records of resources whose channels are read in some order, in the order of the
names. -/
def snapshotIn (g : Gateway) (order : List Resource) : List Status × Gateway :=
  let (records, g) := g.statuses order
  (records.mergeSort fun a b => !(b.name < a.name), g)

/-- What the listing of all open names comes to. -/
structure Lists (g : Gateway) (listed : List Status × Gateway) : Prop where
  /-- The names are in the strict order of their bytes. -/
  sorted : listed.1.Pairwise fun a b => octets a.name < octets b.name
  /-- A name that is open has one record, with the kind it was opened as, and another name has
  none. -/
  each (name : String) : (listed.1.filter fun s => s.name = name).map Status.kind =
    ((g.registry.resolve name).map Resource.kind).toList
  /-- Nothing else happens than that the injected faults are asked. -/
  frame : ∃ i, listed.2 = { g with hub := g.hub.withInjection i }

theorem heads_statuses (g : Gateway) (resources : List Resource) :
    (g.statuses resources).1.map (fun s => (s.name, s.kind)) =
      resources.map fun r => (r.name, r.kind) := by
  induction resources generalizing g with
  | nil => rfl
  | cons r rest ih => exact congrArg ((r.name, r.kind) :: ·) (ih (g.status r).2)

theorem heads_snapshotIn (g : Gateway) (order : List Resource) :
    ((g.snapshotIn order).1.map fun s => (s.name, s.kind)).Perm
      (order.map fun r => (r.name, r.kind)) := by
  rw [← g.heads_statuses order]
  exact (List.mergeSort_perm ..).map _

/-- Records of different names are sorted strictly. -/
theorem sorted_snapshotIn (g : Gateway) (hnames : (order.map Resource.name).Nodup) :
    (g.snapshotIn order).1.Pairwise fun a b => a.name < b.name := by
  have hle (a b : Status) : (!decide (b.name < a.name)) = true ↔ a.name ≤ b.name := by
    rw [Bool.not_eq_true', decide_eq_false_iff_not, String.not_lt]
  have hsorted : (g.snapshotIn order).1.Pairwise fun a b => (!decide (b.name < a.name)) = true := by
    refine List.pairwise_mergeSort (fun a b c hab hbc => ?_) (fun a b => ?_) _
    · exact (hle a c).mpr (String.le_trans ((hle a b).mp hab) ((hle b c).mp hbc))
    · rw [Bool.or_eq_true, hle, hle]
      exact String.le_total a.name b.name
  have hperm := (g.heads_snapshotIn order).map Prod.fst
  rw [List.map_map, List.map_map] at hperm
  have hdistinct : (g.snapshotIn order).1.Pairwise fun a b => a.name ≠ b.name :=
    List.pairwise_map.mp (hperm.nodup_iff.mpr hnames)
  refine hsorted.imp₂ (fun a b hab hne => Decidable.not_not.mp fun hnot => hne ?_) hdistinct
  exact String.le_antisymm ((hle a b).mp hab) (String.not_lt.mp hnot)

/-- **What is listed**, in whichever order the channels are read. -/
theorem lists_snapshotIn (hc : g.registry.Consistent) (horder : order.Perm g.registry.resources) :
    g.Lists (g.snapshotIn order) where
  sorted := by
    have hnames : (order.map Resource.name).Nodup :=
      (horder.map Resource.name).nodup_iff.mpr hc.nodup_names
    exact (g.sorted_snapshotIn hnames).imp octets_lt
  each name := by
    have hperm := (((g.heads_snapshotIn order).trans (horder.map _)).filter
      fun head => head.1 = name).map Prod.snd
    simp only [List.filter_map, List.map_map, Function.comp_def] at hperm
    rw [hc.filter_name name] at hperm
    cases hr : g.registry.resolve name with
    | none =>
      rw [hr] at hperm
      exact hperm.eq_nil
    | some r =>
      rw [hr] at hperm
      exact List.perm_singleton.mp hperm
  frame := g.statuses_snd order

end Gateway

/-! ## When the order does not matter -/

/-- Asking whether a reading fails leaves the injected faults as they are. -/
def Injection.IsUnmovedByReading (i : Injection) : Prop :=
  ∀ kind : ChannelKind, (i.check kind.reader).2 = i

namespace Injection

variable {i : Injection} {op : Operation}

/-- **A check leaves no trace** if nothing has latched or could, no limit is set to the operation
and nothing is left to chance. -/
theorem check_snd (latched : i.latched = Option.none)
    (first : i.scenarios.findSome? Scenario.latch? = Option.none)
    (unlimited : ∀ count, .failAfter op count ∉ i.scenarios)
    (certain : i.failureRate ≤ 0 ∨ 1 ≤ i.failureRate) : (i.check op).2 = i := by
  have hlimits : limits op i.scenarios = [] := by
    refine List.filterMap_eq_nil_iff.mpr fun s hs => ?_
    refine Option.eq_none_iff_forall_ne_some.mpr fun count hcount => ?_
    exact unlimited count (Scenario.limit?_eq_some_iff.mp hcount ▸ hs)
  have hcounts (calls : UInt32) : (scan op calls i.scenarios).2 = calls := by
    have hreach := reach_le op calls i.scenarios
    rw [hlimits] at hreach
    rw [scan_snd, Nat.le_zero.mp hreach]
    exact UInt32.add_zero calls
  have hcalls : i.calls.set op (scan op (i.calls.get op) i.scenarios).2 = i.calls := by
    rw [hcounts, CallCounts.set_get]
  cases hs : (scan op (i.calls.get op) i.scenarios).1 with
  | some f =>
    have hlatch : f.latch? = Option.none := by
      refine Option.eq_none_iff_forall_ne_some.mpr fun l hl => ?_
      cases first.symm.trans (latch?_of_scan hs hl)
    rw [check_of_fails latched hs, hcalls, hlatch, ← latched]
  | none =>
    have hchance : (i.chance.decide i.failureRate).2 = i.chance := by
      unfold Chance.decide
      rcases certain with hnever | halways
      · rw [if_pos hnever]
      · rw [if_pos halways]
        split <;> rfl
    rw [check_of_passes latched hs, hcalls, hchance]

end Injection

/-- Reading a channel changes nothing if it leaves no trace in the faults. -/
theorem Hub.read_unmoved {h : Hub} (hi : h.injection.IsUnmovedByReading) (c : Channel) :
    (h.read c).1 = h := by
  have hstate : (h.injection.check .readingState).2 = h.injection := hi .digitalInput
  have hvoltage : (h.injection.check .readingVoltage).2 = h.injection := hi .voltageOutput
  have hsame : h.withInjection h.injection = h := rfl
  unfold read readState readVoltage
  rw [check_eq, check_eq, hstate, hvoltage, hsame]
  cases (h.injection.check .readingState).1 <;> cases (h.injection.check .readingVoltage).1 <;>
    dsimp only <;> split_ifs <;> rfl

namespace Gateway

variable {g : Gateway} {order other : List Resource}

/-- Each record is then what a single reading tells. -/
theorem statuses_unmoved (hi : g.hub.injection.IsUnmovedByReading) (resources : List Resource) :
    g.statuses resources = (resources.map fun r => (g.status r).1, g) := by
  induction resources with
  | nil => rfl
  | cons r rest ih =>
    have hstatus : (g.status r).2 = g := by
      unfold status
      dsimp only
      rw [Hub.read_unmoved hi]
    unfold statuses
    dsimp only
    rw [hstatus, ih]
    rfl

/-- **The order of readings does not matter** if they leave no trace in the faults. -/
theorem snapshotIn_perm (hi : g.hub.injection.IsUnmovedByReading) (h : order.Perm other)
    (hnames : (other.map Resource.name).Nodup) : g.snapshotIn order = g.snapshotIn other := by
  have hrecords : (g.snapshotIn order).1.Perm (g.snapshotIn other).1 := by
    refine (List.mergeSort_perm ..).trans (.trans ?_ (List.mergeSort_perm ..).symm)
    rw [statuses_unmoved hi, statuses_unmoved hi]
    exact h.map _
  have hafter (order : List Resource) : (g.snapshotIn order).2 = g := by
    unfold snapshotIn
    rw [statuses_unmoved hi]
  refine Prod.ext (hrecords.eq_of_pairwise (fun a b _ _ hab hba => absurd hab (String.lt_asymm hba))
    (g.sorted_snapshotIn ((h.map Resource.name).nodup_iff.mpr hnames))
    (g.sorted_snapshotIn hnames)) ((hafter order).trans (hafter other).symm)

end Gateway

/-! ## After every run -/

namespace Scene

variable {s : Scene}

/-- Every act keeps the registry in order. -/
theorem isOrderly_step (h : s.traffic.IsOrderly) (a : Act) : (s.step a).traffic.IsOrderly := by
  rcases s.step_cases a with ⟨m, -, he⟩ | he | ⟨handle, serial, w, -, -, -, he⟩
  · rw [he]
    exact h.step m
  · rwa [he]
  · rw [he]
    rcases s.traffic.conclude_cases serial w with hsame | ⟨c, hub, events, -, -, hconclude⟩
    · rwa [hsame]
    · have hremoved := Orderly.removal h
        (({ s.traffic.gateway with hub } : Gateway).registry_observeAll events)
      rw [hconclude]
      unfold Traffic.IsOrderly
      rw [Gateway.gates_observeAll]
      exact hremoved

theorem isOrderly_run (h : s.traffic.IsOrderly) (acts : List Act) :
    (s.run acts).traffic.IsOrderly :=
  run_induction_of (P := fun s => s.traffic.IsOrderly) (Q := fun _ => True) h
    (fun _ a _ h => isOrderly_step h a) fun _ _ => trivial

/-- Where nothing can latch and no limit is set to readings, and nothing is left to chance, readings
leave no trace in the faults after any run; where something can latch, no name is open. -/
theorem unmoved_or_empty (gateway : GatewayConfig) {config : HubConfig} (seed : UInt64)
    {acts : List Act}
    (permitted : (ofGateway (.ofConfig gateway (.ofConfig config seed))).PermitsAll acts)
    (unlimited :
      ∀ (kind : ChannelKind) (count : UInt32), .failAfter kind.reader count ∉ config.faults)
    (certain : config.failureRate ≤ 0 ∨ 1 ≤ config.failureRate) :
    let g := ((ofGateway (.ofConfig gateway (.ofConfig config seed))).run acts).traffic.gateway
    g.hub.injection.IsUnmovedByReading ∨ g.registry.resources = [] := by
  cases hfirst : config.faults.findSome? Scenario.latch? with
  | none =>
    refine .inl fun kind => ?_
    obtain ⟨ops, hasked⟩ := asked_run permitted
    obtain ⟨hscenarios, hrate⟩ := (config.injection seed).scenarios_after ops
    have hlatched : ((config.injection seed).after ops).latched = Option.none := by
      refine Option.eq_none_iff_forall_ne_some.mpr fun l hl => ?_
      rcases Injection.latched_after hl with hnone | hsome
      · cases hnone
      · cases hfirst.symm.trans hsome
    change ((_ : Scene).hub.injection.check _).2 = (_ : Scene).hub.injection
    rw [hasked]
    refine Injection.check_snd hlatched ?_ ?_ ?_
    · exact (congrArg (List.findSome? Scenario.latch?) hscenarios).trans hfirst
    · intro count
      exact (congrArg (Scenario.failAfter kind.reader count ∉ ·) hscenarios).mpr
        (unlimited kind count)
    · exact (congrArg (fun rate : Float => rate ≤ 0 ∨ 1 ≤ rate) hrate).mpr certain
  | some l =>
    have hd : (config.injection seed).IsDoomed l := Injection.isDoomed_ofScenarios hfirst ..
    have hstart : (ofGateway (.ofConfig gateway (.ofConfig config seed))).IsDown
        (config.injection seed) :=
      ⟨⟨⟨⟨[], rfl⟩, nofun, rfl, rfl, rfl⟩, nofun⟩, fun _ => rfl⟩
    exact .inr (hstart.run hd permitted).traffic.gateway.resources

end Scene

/-- **The open names are listed each once, in the order of their bytes**, whatever has happened
before and in whichever order the channels are read; the listing asks the injected faults and
changes nothing else. On a hub that sets no limit to readings and leaves nothing to chance, and that
nobody has replaced, every order lists the same records. -/
theorem snapshots_listed (gateway : GatewayConfig) (config : HubConfig) (seed : UInt64)
    (acts : List Act) :
    let start := Scene.ofGateway (.ofConfig gateway (.ofConfig config seed))
    let g := (start.run acts).traffic.gateway
    g.snapshot = g.snapshotIn g.registry.resources ∧
    ∀ order, order.Perm g.registry.resources → g.Lists (g.snapshotIn order) ∧
      (start.PermitsAll acts →
        (∀ count, .failAfter .readingState count ∉ config.faults) →
        (∀ count, .failAfter .readingVoltage count ∉ config.faults) →
        config.failureRate ≤ 0 ∨ 1 ≤ config.failureRate →
        g.snapshotIn order = g.snapshot) := by
  intro start g
  have hc : g.registry.Consistent :=
    (Scene.isOrderly_run (Traffic.isOrderly_run gateway (.ofConfig config seed) []) acts).consistent
  refine ⟨rfl, fun order horder => ⟨Gateway.lists_snapshotIn hc horder, ?_⟩⟩
  intro permitted states voltages certain
  have unlimited (kind : ChannelKind) (count : UInt32) :
      .failAfter kind.reader count ∉ config.faults := by
    cases kind with
    | voltageOutput => exact voltages count
    | digitalInput => exact states count
    | digitalOutput => exact states count
  rcases Scene.unmoved_or_empty gateway seed permitted unlimited certain with hi | hempty
  · exact Gateway.snapshotIn_perm hi horder hc.nodup_names
  · obtain rfl : order = g.registry.resources := by rw [hempty] at horder ⊢; exact horder.eq_nil
    rfl

/-- A lamp and a dimmer whose voltage cannot be read, on a hub that also limits how often channels
are closed. -/
theorem snapshots_listed_lamp :
    let use (name : String) (kind : ChannelKind) (channel : Int32) : Job :=
      .use ⟨name, kind, ⟨channel, 0⟩, 1000⟩ .nothing
    let config : HubConfig := { faults := [.timeout .readingVoltage, .failAfter .closing 1] }
    let start := Scene.ofGateway (.ofConfig {} (.ofConfig config 0))
    let acts : List Act := [.move (.arrive 0 [use "lamp" .digitalOutput 0]),
      .move (.advance 0 fun _ => false), .move (.arrive 1 [use "dimmer" .voltageOutput 1]),
      .move (.advance 1 fun _ => false)]
    let g := (start.run acts).traffic.gateway
    start.PermitsAll acts ∧ g.registry.resources.map Resource.name = ["lamp", "dimmer"] ∧
      ((g.snapshotIn g.registry.resources.reverse).1.filter fun s => s.name = "dimmer").map
        Status.kind = [.voltageOutput] ∧
      g.snapshotIn g.registry.resources.reverse = g.snapshot := by
  intro use config start acts g
  have own : ∀ a ∈ acts, ∀ hub, a ≠ .move (.meddle hub) := by simp [acts]
  have permitted : start.PermitsAll acts := Scene.permitsAll_of_ne own
  have hkind : (g.registry.resolve "dimmer").map Resource.kind = some .voltageOutput := by
    decide +kernel
  obtain ⟨-, hlisted⟩ := snapshots_listed {} config 0 acts
  obtain ⟨hlists, hsame⟩ := hlisted g.registry.resources.reverse (List.reverse_perm _)
  exact ⟨permitted, by decide +kernel, (hlists.each "dimmer").trans (congrArg Option.toList hkind),
    hsame permitted (by simp [config]) (by simp [config]) (.inl (by decide +kernel))⟩

end ChannelGateway
