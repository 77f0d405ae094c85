import ChannelGateway.Proofs.Backing
import Mathlib.Data.List.Induction

/-!
# The books of a hub and the handles of its channels

A channel lives as long as somebody has a handle of it. The hub has none: it tracks the channels
that it has created, and looks at the handles of others when it counts or finds one. It forgets a
channel no sooner than it creates another, so what it tracks is in general more than what lives, and
which dead channels are still among it depends on when the last one was created.

`Custody` is a hub with the handles of its channels, and `Handling` all that is done with either.
The channels that a history has created are its `roll`, which does not look at the hub. The
invariant of every run (`Custody.IsExact`) is that the ledger and the roll agree on the channels
that are held: creating strikes out of the ledger only what nobody holds, nobody can take hold again
of what nobody holds, and a handle that is released strikes the same channel out of both.

Results:
* `Custody.IsExact.run`: the ledger and the roll agree on what is held, after every run.
* **`books_exact`**: what a hub counts and finds after every run, and what it tracks when it has
  just created a channel.
-/

namespace ChannelGateway

/-- What is done with the channels of a hub and their handles. -/
inductive Handling where
  /-- A channel is created; whoever does so has a handle of it. -/
  | create (spec : ChannelSpec)
  /-- A channel gets one more handle: one of its handles is copied, or the hub is asked for it. -/
  | share (serial : Nat)
  /-- A handle is let go. -/
  | release (serial : Nat)
  /-- Something is begun on a channel. -/
  | intervene (serial now : Nat) (what : Intervention)
  /-- A call that has waited on a channel ends. -/
  | conclude (serial : Nat) (w : Waiting)

/-- What a channel is created for, if one is. -/
def Handling.spec? : Handling → Option ChannelSpec
  | create spec => some spec
  | _ => none

/-- The channels that a history creates, in order of creation, by their serial numbers. -/
def roll (history : List Handling) : Table Nat ChannelSpec :=
  (history.filterMap Handling.spec?).zipIdx.map Prod.swap

/-- The entry of a channel in a roll. -/
def Channel.entry (c : Channel) : Nat × ChannelSpec :=
  (c.serial, c.spec)

/-- A hub and the handles of its channels. -/
structure Custody where
  hub : Hub
  /-- The serial number of the channel of each handle. -/
  handles : List Nat

namespace Custody

/-- A hub on which nothing has been created. -/
def ofHub (hub : Hub) : Custody := ⟨hub, []⟩

/-- Whether a channel has a handle. -/
def held (c : Custody) (serial : Nat) : Bool :=
  c.handles.contains serial

/-- The channel behind a handle. -/
def channel? (c : Custody) (serial : Nat) : Option Channel :=
  if c.held serial then c.hub.channel? serial else none

/-- Do something with the channels or their handles. A channel that nobody holds cannot be had
again, and nothing can be done to it. -/
def act (c : Custody) : Handling → Custody
  | .create spec => ⟨c.hub.create c.held spec, c.hub.created :: c.handles⟩
  | .share serial => if c.held serial then { c with handles := serial :: c.handles } else c
  | .release serial => { c with handles := c.handles.erase serial }
  | .intervene serial now what =>
    match c.channel? serial with
    | some channel => { c with hub := (c.hub.intervene now channel what).1 }
    | none => c
  | .conclude serial w =>
    match c.channel? serial with
    | some channel => { c with hub := (c.hub.conclude channel w).1 }
    | none => c

/-- Do things one after the other. -/
def run (c : Custody) (history : List Handling) : Custody :=
  history.foldl act c

/-- The channels of a history that are held. -/
def kept (c : Custody) (history : List Handling) : Table Nat ChannelSpec :=
  (roll history).filter fun entry => c.held entry.1

end Custody

/-! ## Rolls -/

/-- Creating a channel adds it to the roll. -/
theorem roll_create (history : List Handling) (spec : ChannelSpec) :
    roll (history ++ [.create spec]) = roll history ++ [((roll history).length, spec)] := by
  simp [roll, Handling.spec?, List.filterMap_append, List.zipIdx_append]

/-- What creates no channel adds none to the roll. -/
theorem roll_other (history : List Handling) {h : Handling} (hh : h.spec? = none) :
    roll (history ++ [h]) = roll history := by
  simp [roll, List.filterMap_append, hh]

theorem lt_of_mem_roll {history : List Handling} {entry : Nat × ChannelSpec}
    (h : entry ∈ roll history) : entry.1 < (roll history).length := by
  obtain ⟨⟨spec, serial⟩, hmem, rfl⟩ := List.mem_map.mp h
  have hlt := List.snd_lt_of_mem_zipIdx hmem
  simpa [roll] using hlt

namespace Hub

theorem entries_live (h : Hub) (held : Nat → Bool) :
    (h.live held).map Channel.entry = h.ledger.specs.filter fun entry => held entry.1 := by
  simp [live, ledger, List.filter_map, Function.comp_def, Channel.entry]

end Hub

/-! ## The invariant -/

namespace Custody

variable {c : Custody} {history : List Handling}

/-- The books of a hub agree with the roll of a history on every channel that is held. -/
structure IsExact (c : Custody) (history : List Handling) : Prop where
  created : c.hub.created = (roll history).length
  /-- Only what has been created is held. -/
  known : ∀ serial, c.held serial = true → serial < c.hub.created
  live : (c.hub.ledger.specs.filter fun entry => c.held entry.1) = c.kept history

theorem held_create (c : Custody) (spec : ChannelSpec) (serial : Nat) :
    (c.act (.create spec)).held serial = (serial == c.hub.created || c.held serial) :=
  List.contains_cons

theorem held_of_held_release {serial released : Nat}
    (h : (c.act (.release released)).held serial = true) : c.held serial = true := by
  unfold held at h ⊢
  rw [List.contains_iff_mem] at h ⊢
  exact List.mem_of_mem_erase h

theorem held_share (c : Custody) (shared serial : Nat) :
    (c.act (.share shared)).held serial = c.held serial := by
  dsimp only [act]
  split
  · rename_i hshared
    by_cases hs : serial = shared
    · subst hs
      rw [hshared]
      exact List.contains_iff_mem.mpr List.mem_cons_self
    · simp [held, hs]
  · rfl

/-- What is tracked when a channel has just been created: what was held, and the new channel. -/
theorem specs_create (c : Custody) (spec : ChannelSpec) :
    (c.act (.create spec)).hub.ledger.specs =
      (c.hub.ledger.specs.filter fun entry => c.held entry.1) ++ [(c.hub.created, spec)] :=
  congrArg Ledger.specs (c.hub.ledger_create c.held spec)

/-- The channels that are held when one has just been created: those that were, and the new one. -/
theorem IsExact.kept_create (h : c.IsExact history) (spec : ChannelSpec) :
    (c.act (.create spec)).kept (history ++ [.create spec]) =
      c.kept history ++ [(c.hub.created, spec)] := by
  unfold kept
  rw [roll_create, ← h.created, List.filter_append]
  congr 1
  · refine List.filter_congr fun entry hentry => ?_
    have hne : entry.1 ≠ c.hub.created := fun he => by
      have hlt := lt_of_mem_roll hentry
      rw [← h.created, he] at hlt
      exact Nat.lt_irrefl _ hlt
    rw [held_create, beq_eq_false_iff_ne.mpr hne, Bool.false_or]
  · simp [held_create]

/-- **Creating a channel leaves nothing tracked but what is held.** -/
theorem IsExact.tracked_create (h : c.IsExact history) (spec : ChannelSpec) :
    (c.act (.create spec)).hub.ledger.specs =
      (c.act (.create spec)).kept (history ++ [.create spec]) := by
  rw [specs_create, h.kept_create, h.live]

namespace IsExact

theorem create (h : c.IsExact history) (spec : ChannelSpec) :
    (c.act (.create spec)).IsExact (history ++ [.create spec]) where
  created := by
    rw [roll_create, List.length_append, ← h.created]
    rfl
  known serial hs := by
    rw [held_create, Bool.or_eq_true, beq_iff_eq] at hs
    rcases hs with rfl | hs
    · exact Nat.lt_succ_self _
    · exact Nat.lt_succ_of_lt (h.known serial hs)
  live := by
    rw [h.tracked_create]
    exact List.filter_eq_self.mpr fun entry hentry => (List.mem_filter.mp hentry).2

/-- What only lets go of channels leaves the books right. -/
theorem restrict {c' : Custody} (h : c.IsExact history) (step : Handling)
    (other : step.spec? = none) (hub : c'.hub.ledger = c.hub.ledger)
    (held : ∀ serial, c'.held serial = true → c.held serial = true) :
    c'.IsExact (history ++ [step]) where
  created := by
    rw [roll_other history other, ← h.created]
    exact congrArg Ledger.created hub
  known serial hs := by
    have hcreated : c'.hub.created = c.hub.created := congrArg Ledger.created hub
    rw [hcreated]
    exact h.known serial (held serial hs)
  live := by
    -- what is still held is a part of what was held, and there the books agree
    have hpart : ∀ l : Table Nat ChannelSpec, (l.filter fun entry => c'.held entry.1) =
        (l.filter fun entry => c.held entry.1).filter fun entry => c'.held entry.1 := by
      intro l
      rw [List.filter_filter]
      refine List.filter_congr fun entry _ => ?_
      by_cases hs : c'.held entry.1 = true
      · rw [hs, held _ hs, Bool.and_self]
      · rw [Bool.eq_false_iff.mpr hs, Bool.false_and]
    rw [kept, roll_other history other, hub, hpart, h.live, hpart (roll history)]
    rfl

/-- **Whatever is done, the books stay right.** -/
theorem act (h : c.IsExact history) (step : Handling) :
    (c.act step).IsExact (history ++ [step]) := by
  cases step with
  | create spec => exact h.create spec
  | share serial =>
    refine h.restrict (.share serial) rfl ?_ fun other => ?_
    · dsimp only [Custody.act]
      split <;> rfl
    · rw [held_share]
      exact id
  | release serial =>
    exact h.restrict (.release serial) rfl rfl fun _ => held_of_held_release
  | intervene serial now what =>
    dsimp only [Custody.act]
    split
    · exact h.restrict (.intervene serial now what) rfl (Hub.ledger_intervene ..) fun _ => id
    · exact h.restrict (.intervene serial now what) rfl rfl fun _ => id
  | conclude serial w =>
    dsimp only [Custody.act]
    split
    · exact h.restrict (.conclude serial w) rfl (Hub.ledger_conclude ..) fun _ => id
    · exact h.restrict (.conclude serial w) rfl rfl fun _ => id

/-- **The books are right after every run.** -/
theorem run (config : HubConfig) (seed : UInt64) (history : List Handling) :
    ((ofHub (.ofConfig config seed)).run history).IsExact history := by
  induction history using List.reverseRecOn with
  | nil => exact ⟨rfl, by simp [ofHub, held, Custody.run], rfl⟩
  | append_singleton history step ih =>
    have hstep := ih.act step
    rwa [Custody.run, List.foldl_append]

end IsExact

/-! ## What a hub counts and finds -/

/-- The first entry of a list with some property. -/
def IsFirst (entries : Table Nat ChannelSpec) (p : ChannelSpec → Prop)
    (entry : Nat × ChannelSpec) : Prop :=
  ∃ before after, entries = before ++ entry :: after ∧ p entry.2 ∧ ∀ other ∈ before, ¬ p other.2

/-- The last entry of a list with some property. -/
def IsLast (entries : Table Nat ChannelSpec) (p : ChannelSpec → Prop)
    (entry : Nat × ChannelSpec) : Prop :=
  ∃ before after, entries = before ++ entry :: after ∧ p entry.2 ∧ ∀ other ∈ after, ¬ p other.2

section

variable (channels : List Channel) (p : ChannelSpec → Prop) [DecidablePred p]

/-- A search in a list of channels finds the first entry. -/
theorem find?_iff (entry : Nat × ChannelSpec) :
    (channels.find? fun c => p c.spec).map Channel.entry = some entry ↔
      IsFirst (channels.map Channel.entry) p entry := by
  have hfind : (channels.find? fun c => p c.spec).map Channel.entry =
      (channels.map Channel.entry).find? fun e => p e.2 := by
    rw [List.find?_map]
    rfl
  rw [hfind, List.find?_eq_some_iff_append]
  simp only [IsFirst, decide_eq_true_eq, Bool.not_eq_true', decide_eq_false_iff_not]
  constructor
  · rintro ⟨hp, before, after, hsplit, hbefore⟩
    exact ⟨before, after, hsplit, hp, hbefore⟩
  · rintro ⟨before, after, hsplit, hp, hbefore⟩
    exact ⟨hp, before, after, hsplit, hbefore⟩

/-- A search from the end of a list of channels finds the last entry. -/
theorem find?_reverse_iff (entry : Nat × ChannelSpec) :
    (channels.reverse.find? fun c => p c.spec).map Channel.entry = some entry ↔
      IsLast (channels.map Channel.entry) p entry := by
  rw [find?_iff, List.map_reverse]
  constructor
  · rintro ⟨before, after, hsplit, hp, hbefore⟩
    refine ⟨after.reverse, before.reverse, ?_, hp, fun other h => hbefore other (by simpa using h)⟩
    rw [← List.reverse_reverse (channels.map Channel.entry), hsplit]
    simp
  · rintro ⟨before, after, hsplit, hp, hafter⟩
    refine ⟨after.reverse, before.reverse, ?_, hp, fun other h => hafter other (by simpa using h)⟩
    rw [hsplit]
    simp

/-- A search finds nothing exactly where there is nothing to find. -/
theorem find?_none_iff :
    (channels.find? fun c => p c.spec) = none ↔
      ∀ entry ∈ channels.map Channel.entry, ¬ p entry.2 := by
  simp [Channel.entry]

end

/-- What a hub tells of its channels agrees with a history and with the handles that are left of
it. -/
structure KeepsBooks (c : Custody) (history : List Handling) : Prop where
  /-- Every channel that has been created counts as created. -/
  created : c.hub.created = history.countP fun step => step.spec?.isSome
  /-- The live channels are those that are held. -/
  live : c.hub.liveCount c.held = (c.kept history).length
  /-- An identity leads to the channel that was created first among those that are held and have
  it. -/
  identity : ∀ id entry, (c.hub.withId? c.held id).map Channel.entry = some entry ↔
    IsFirst (c.kept history) (fun spec => spec.id = id) entry
  /-- An address leads to the channel that was created last among those that are held and are
  there. -/
  place : ∀ address entry, (c.hub.at? c.held address).map Channel.entry = some entry ↔
    IsLast (c.kept history) (fun spec => spec.address = address) entry
  noIdentity : ∀ id, c.hub.withId? c.held id = none ↔ ∀ entry ∈ c.kept history, entry.2.id ≠ id
  noPlace : ∀ address, c.hub.at? c.held address = none ↔
    ∀ entry ∈ c.kept history, entry.2.address ≠ address
  /-- When a channel is created, just the channels that are held then are tracked, in order of
  creation. -/
  tracked : ∀ spec, let next := c.act (.create spec)
    next.hub.tracked.map Channel.entry = next.kept (history ++ [.create spec])

theorem IsExact.keepsBooks (h : c.IsExact history) : c.KeepsBooks history := by
  have hlive : (c.hub.live c.held).map Channel.entry = c.kept history := by
    rw [Hub.entries_live, h.live]
  exact
    { created := by
        rw [h.created]
        simp [roll, List.length_filterMap_eq_countP]
      live := by
        rw [← hlive, List.length_map]
        rfl
      identity := fun id entry => by
        rw [← hlive]
        exact find?_iff _ (fun spec => spec.id = id) entry
      place := fun address entry => by
        rw [← hlive]
        exact find?_reverse_iff _ (fun spec => spec.address = address) entry
      noIdentity := fun id => by
        rw [← hlive]
        exact find?_none_iff _ fun spec => spec.id = id
      noPlace := fun address => by
        rw [← hlive]
        refine
          (find?_none_iff (c.hub.live c.held).reverse fun spec => spec.address = address).trans ?_
        simp
      tracked := h.tracked_create }

end Custody

/-- **What a hub counts and finds.** After every history of channels that are created, shared,
released and used, in any order and with any identities and addresses, the hub counts every channel
that has been created, and among those that somebody still holds it counts each one, finds the first
with an identity and the last at an address. Just after a channel has been created it tracks none
but these. -/
theorem books_exact (config : HubConfig) (seed : UInt64) (history : List Handling) :
    ((Custody.ofHub (.ofConfig config seed)).run history).KeepsBooks history :=
  (Custody.IsExact.run config seed history).keepsBooks

end ChannelGateway
