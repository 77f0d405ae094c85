import ChannelGateway.Proofs.Apart
import ChannelGateway.Proofs.Silent
import Mathlib.Data.List.Nodup

/-!
# Channels under other serial numbers

`own` lists the channels that have been created for a name, in order. A hub on which no others have
been created numbers them from zero on, and gives them the identities from one on
(`Channel.renumber`, `Resource.among`). `Hub.Mirrors own h h'` says that `h'` has the channels of
`own` so renumbered. It speaks in one direction: what `h` still has of them, `h'` has too. The hub
`h` may have forgotten more, since it forgets channels whenever it creates one for any name; it
forgets none that is held, so nobody misses them.

Faults are silent on both hubs: a shared counter of calls would tell the names of each other.

Results:
* `Hub.Mirrors.startOpen`, `startClose`, `startWrite`, `resume`: the squares of the operations. Done
  on both hubs they end alike, and the hubs mirror each other again.
* `Hub.Mirrors.create`: the square of creating a channel, which is the next one of `own`.
-/

namespace ChannelGateway

/-! ## Renumbering -/

/-- A channel under another serial number, with the identity that goes with it. -/
def Channel.renumber (c : Channel) (n : Nat) : Channel :=
  { c with serial := n, spec := { c.spec with id := n + 1 } }

namespace Channel

variable (c : Channel) (n : Nat)

@[simp]
theorem renumber_notAttached : (c.renumber n).notAttached = c.notAttached := rfl

@[simp]
theorem renumber_unsupported (operation : String) :
    (c.renumber n).unsupported operation = c.unsupported operation := rfl

end Channel

/-- A resource whose channel is numbered by its position among others. -/
def Resource.among (own : List Nat) (r : Resource) : Resource :=
  { r with serial := own.idxOf r.serial, spec := { r.spec with id := own.idxOf r.serial + 1 } }

/-- An outcome that tells of a resource numbered among others. -/
def Outcome.among (own : List Nat) (outcome : Outcome) : Outcome :=
  outcome.map fun r => r.map (Resource.among own)

/-- Where a request stands, with its resource numbered among others. -/
def Progress.among (own : List Nat) : Progress → Progress
  | opening r followup w => opening (r.among own) followup w
  | writing r w => writing (r.among own) w
  | done outcome => done (Outcome.among own outcome)
  | p => p

/-- The effect of what is done to a channel, told of it under another serial number. -/
def Effect.renumber (n : Nat) : Effect → Effect
  | answered (.channel c) => answered (.channel (c.renumber n))
  | e => e

theorem Write.renumber_apply (w : Write) (c : Channel) (n : Nat) :
    (w.apply c).renumber n = w.apply (c.renumber n) := by
  cases w <;> rfl

/-- What has a position keeps it when more is listed. -/
theorem Resource.among_append {own more : List Nat} {r : Resource} (h : r.serial ∈ own) :
    r.among (own ++ more) = r.among own := by
  unfold among
  rw [List.idxOf_append_of_mem h]

namespace Hub

/-! ## Hubs -/

/-- A hub has the channels that have been created for a name, renumbered. -/
structure Mirrors (own : List Nat) (h h' : Hub) : Prop where
  silent : h.injection.IsSilent
  silent' : h'.injection.IsSilent
  config : h'.config = h.config
  numbered : h.Numbered
  numbered' : h'.Numbered
  created : h'.created = own.length
  nodup : own.Nodup
  given : ∀ serial ∈ own, serial < h.created
  channel : ∀ {serial c}, serial ∈ own → h.channel? serial = some c →
    h'.channel? (own.idxOf serial) = some (c.renumber (own.idxOf serial))

namespace Mirrors

variable {own : List Nat} {h h' : Hub}

/-- The hub changes, and of the channels for the name none is there that was not there before. -/
theorem frame (M : h.Mirrors own h') {hub : Hub} (silent : hub.injection = h.injection)
    (config : hub.config = h.config) (numbered : hub.Numbered) (created : h.created ≤ hub.created)
    (channel : ∀ {serial c}, serial ∈ own → hub.channel? serial = some c →
      h.channel? serial = some c) : hub.Mirrors own h' where
  silent := silent ▸ M.silent
  silent' := M.silent'
  config := M.config.trans config.symm
  numbered := numbered
  numbered' := M.numbered'
  created := M.created
  nodup := M.nodup
  given serial hs := Nat.lt_of_lt_of_le (M.given serial hs) created
  channel hs hc := M.channel hs (channel hs hc)

/-- **The same is done to a channel and to what it has been renumbered to.** -/
theorem modify (M : h.Mirrors own h') (serial : Nat) {f : Channel → Channel}
    (hserial : ∀ c, (f c).serial = c.serial)
    (hcomm : ∀ c n, (f c).renumber n = f (c.renumber n)) :
    (h.modify serial f).Mirrors own (h'.modify (own.idxOf serial) f) where
  silent := M.silent
  silent' := M.silent'
  config := M.config
  numbered := M.numbered.modify serial hserial
  numbered' := M.numbered'.modify _ hserial
  created := M.created
  nodup := M.nodup
  given := M.given
  channel {other c} hother hc := by
    rw [channel?_modify h serial other hserial] at hc
    rw [channel?_modify h' _ _ hserial]
    by_cases hs : other = serial
    · rw [if_pos hs] at hc
      obtain ⟨c', hc', rfl⟩ := Option.map_eq_some_iff.mp hc
      rw [if_pos (by rw [hs]), M.channel hother hc', Option.map_some, hcomm]
    · rw [if_neg hs] at hc
      rw [if_neg, M.channel hother hc]
      exact fun he => hs ((List.idxOf_inj hother).mp he)

theorem write (M : h.Mirrors own h') (serial : Nat) (w : Write) :
    (h.modify serial w.apply).Mirrors own (h'.modify (own.idxOf serial) w.apply) :=
  M.modify serial (fun _ => by cases w <;> rfl) fun c n => w.renumber_apply c n

/-- **Channels are closed on both hubs**, and those for the name alike. -/
theorem disconnects (M : h.Mirrors own h') {closed closed' : Nat → Bool}
    (heq : ∀ serial ∈ own, closed' (own.idxOf serial) = closed serial) :
    (h.disconnects closed).Mirrors own (h'.disconnects closed') where
  silent := M.silent
  silent' := M.silent'
  config := M.config
  numbered := M.numbered.disconnects closed
  numbered' := M.numbered'.disconnects closed'
  created := M.created
  nodup := M.nodup
  given := M.given
  channel {serial c} hs hc := by
    rw [channel?_disconnects] at hc ⊢
    obtain ⟨c', hc', rfl⟩ := Option.map_eq_some_iff.mp hc
    rw [M.channel hs hc', Option.map_some, heq serial hs]
    split <;> rfl

/-- **A channel is created for the name.** -/
theorem create (M : h.Mirrors own h') {held held' : Nat → Bool} (spec : ChannelSpec)
    (hheld : ∀ serial ∈ own, held serial = true → held' (own.idxOf serial) = true) :
    (h.create held spec).Mirrors (own ++ [h.created])
      (h'.create held' { spec with id := own.length + 1 }) where
  silent := M.silent
  silent' := M.silent'
  config := M.config
  numbered := M.numbered.create held spec
  numbered' := M.numbered'.create held' _
  created := by
    rw [List.length_append]
    exact congrArg (· + 1) M.created
  nodup := by
    refine List.nodup_append.mpr ⟨M.nodup, by simp, ?_⟩
    rintro a ha b hb rfl
    rw [List.mem_singleton.mp hb] at ha
    exact Nat.lt_irrefl _ (M.given _ ha)
  given serial hs := by
    rcases List.mem_append.mp hs with hs | hs
    · exact Nat.lt_succ_of_lt (M.given serial hs)
    · rw [List.mem_singleton.mp hs]
      exact Nat.lt_succ_self _
  channel {serial c} hs hc := by
    rcases List.mem_append.mp hs with hs | hs
    · rw [channel?_create h held spec (Nat.ne_of_lt (M.given serial hs))] at hc
      split at hc
      · rename_i hkept
        have hlt : own.idxOf serial ≠ h'.created := by
          rw [M.created]
          exact Nat.ne_of_lt (List.idxOf_lt_length_of_mem hs)
        rw [List.idxOf_append_of_mem hs, channel?_create h' held' _ hlt,
          if_pos (hheld serial hs hkept), M.channel hs hc]
      · cases hc
    · rw [List.mem_singleton] at hs
      subst hs
      rw [channel?_create_self spec M.numbered] at hc
      cases hc
      have hnew : h.created ∉ own := fun hmem => Nat.lt_irrefl _ (M.given _ hmem)
      have hlast : (own ++ [h.created]).idxOf h.created = h'.created := by
        rw [List.idxOf_append_of_notMem hnew, M.created]
        simp
      rw [hlast, channel?_create_self _ M.numbered', M.created]
      rfl

/-! ### Squares -/

theorem startOpen (M : h.Mirrors own h') (now : Nat) (c : Channel) (timeout : Nat) :
    (h'.startOpen now (c.renumber (own.idxOf c.serial)) timeout).2.2 =
        (h.startOpen now c timeout).2.2 ∧
      (h.startOpen now c timeout).1.Mirrors own
        (h'.startOpen now (c.renumber (own.idxOf c.serial)) timeout).1 := by
  rw [startOpen_silent M.silent, startOpen_silent M.silent', M.config]
  generalize hc' : c.renumber (own.idxOf c.serial) = c'
  have hsame : c'.isOpen = c.isOpen ∧ c'.spec.address = c.spec.address ∧
      c'.serial = own.idxOf c.serial := by
    subst hc'
    exact ⟨rfl, rfl, rfl⟩
  rw [hsame.1, hsame.2.1, hsame.2.2]
  split_ifs
  · exact ⟨rfl, M⟩
  · exact ⟨rfl, M⟩
  · exact ⟨rfl, M.modify c.serial (f := Channel.connect) (fun _ => rfl) fun _ _ => rfl⟩
  · exact ⟨rfl, M⟩
  · exact ⟨rfl, M⟩

theorem startClose (M : h.Mirrors own h') (c : Channel) :
    (h'.startClose (c.renumber (own.idxOf c.serial))).2 = (h.startClose c).2 ∧
      (h.startClose c).1.Mirrors own (h'.startClose (c.renumber (own.idxOf c.serial))).1 := by
  rw [startClose_silent M.silent, startClose_silent M.silent']
  exact ⟨rfl, M.modify c.serial (f := Channel.disconnect) (fun _ => rfl) fun _ _ => rfl⟩

theorem startWrite (M : h.Mirrors own h') (now : Nat) (c : Channel) (w : Write) :
    (h'.startWrite now (c.renumber (own.idxOf c.serial)) w).2 = (h.startWrite now c w).2 ∧
      (h.startWrite now c w).1.Mirrors own
        (h'.startWrite now (c.renumber (own.idxOf c.serial)) w).1 := by
  rw [startWrite_silent M.silent, startWrite_silent M.silent', M.config,
    Channel.renumber_unsupported, Channel.renumber_notAttached]
  generalize hc' : c.renumber (own.idxOf c.serial) = c'
  have hsame : c'.spec.kind = c.spec.kind ∧ c'.attached = c.attached ∧
      c'.serial = own.idxOf c.serial := by
    subst hc'
    exact ⟨rfl, rfl, rfl⟩
  rw [hsame.1, hsame.2.1, hsame.2.2]
  cases w.refusal? with
  | some f =>
    dsimp only
    split_ifs <;> exact ⟨rfl, M⟩
  | none =>
    dsimp only
    split_ifs
    · exact ⟨rfl, M⟩
    · exact ⟨rfl, M⟩
    · exact ⟨rfl, M⟩
    · exact ⟨rfl, M.write c.serial w⟩

theorem resume (M : h.Mirrors own h') (c : Channel) (w : Waiting) :
    (h'.resume (c.renumber (own.idxOf c.serial)) w).2.2 = (h.resume c w).2.2 ∧
      (h.resume c w).1.Mirrors own (h'.resume (c.renumber (own.idxOf c.serial)) w).1 := by
  cases w with
  | attaching due =>
    exact ⟨rfl, M.modify c.serial (f := Channel.connect) (fun _ => rfl) fun _ _ => rfl⟩
  | absent due timeout => exact ⟨rfl, M⟩
  | writing due w => exact ⟨rfl, M.write c.serial w⟩

end Mirrors

end Hub

end ChannelGateway
