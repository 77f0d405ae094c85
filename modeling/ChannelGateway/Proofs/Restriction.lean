import ChannelGateway.Proofs.InStep

/-!
# Names do not interfere

What is left of a run when only what is for one name is done, is a run of a gateway that receives
nothing else. At every moment the two agree about the name: what its requests have come to and when,
whether they can go on, and what the gateway has for it. Whatever requests for other names do, and
however long they wait, is not to be seen.

Results:
* **`restrict_agrees`**: a run and what of it is for a name agree about the name at every
  moment.
-/

namespace ChannelGateway

/-- A move is for a name: it brings no request for another one. -/
def Move.isFor (name : String) : Move → Bool
  | arrive _ jobs => jobs.all fun job => job.name = name
  | snapshot => false
  | m => m.divides name

/-- What is left of a move is for the name. -/
theorem Share.isFor_moves {s : Share} {name : String} {t : Traffic} {m m' : Move}
    (hm : m.divides name = true) (h : m' ∈ s.moves name t m) : m'.isFor name = true := by
  cases m with
  | arrive ticket jobs =>
    simp only [moves] at h
    split at h
    · rename_i hjobs
      rw [List.mem_singleton.mp h]
      exact hjobs.2
    · cases h
  | intervene serial what =>
    simp only [moves] at h
    split at h
    · rw [List.mem_singleton.mp h]
      cases what <;> first | rfl | cases hm
    · cases h
  | advance ticket outside =>
    simp only [moves] at h
    split at h
    · rw [List.mem_singleton.mp h]
      rfl
    · cases h
  | cancel ticket =>
    simp only [moves] at h
    split at h
    · rw [List.mem_singleton.mp h]
      rfl
    · cases h
  | wait ms => rw [List.mem_singleton.mp h]; rfl
  | shutdown => rw [List.mem_singleton.mp h]; rfl
  | deliver receivers => rw [List.mem_singleton.mp h]; rfl
  | settle => rw [List.mem_singleton.mp h]; rfl
  | _ => cases h

namespace Traffic

/-- What a run and the run of a name alone agree on at a moment. -/
structure Agrees (name : String) (s : Share) (t t' : Traffic) : Prop where
  now : t'.now = t.now
  /-- Every task that still has a request for the name is in both runs. -/
  concerned : ∀ u ∈ t.tasks, u.concerns name = true → s.tickets u.ticket = true
  /-- The tasks for the name are all there are. They stand at the same places, with the same
  results. -/
  tasks : t'.tasks = t.tasksFor s
  /-- They can go on in the one run when they can in the other. -/
  canAdvance : ∀ u ∈ t.tasks, s.tickets u.ticket = true →
    (u.among s.serials).canAdvance t'.now t'.gateway = u.canAdvance t.now t.gateway
  /-- The registration, with its kind and its address. -/
  resolve : t'.gateway.registry.resolve name =
    (t.gateway.registry.resolve name).map (Resource.among s.serials)
  listFor : t'.gateway.subscriptions.listFor name = t.gateway.subscriptions.listFor name
  /-- The channel, with its state, its voltage and the count of its writes. -/
  channel : ∀ {r}, t.gateway.registry.resolve name = some r →
    ∃ c, t.gateway.hub.channel? r.serial = some c ∧
      t'.gateway.hub.channel? (r.among s.serials).serial =
        some (c.renumber (s.serials.idxOf r.serial))
  /-- What happens to a channel of the name by itself has the same effect. -/
  effect : ∀ {serial c}, serial ∈ s.serials → t.gateway.hub.channel? serial = some c →
    ∃ c', t'.gateway.hub.channel? (s.serials.idxOf serial) = some c' ∧
      ∀ what, (∀ io, what ≠ .operate io) →
        (t'.gateway.hub.intervene t'.now c' what).2.2 =
          (t.gateway.hub.intervene t.now c what).2.2.renumber (s.serials.idxOf serial)

namespace Mirrors

variable {config : HubConfig} {name : String} {s : Share} {t t' : Traffic} {u : Task}

/-- A task for the name can go on in the one run when it can in the other. -/
theorem canAdvance (M : t.Mirrors config name s t') (hu : u ∈ t.tasks)
    (hmine : s.tickets u.ticket = true) :
    (u.among s.serials).canAdvance t'.now t'.gateway = u.canAdvance t.now t.gateway := by
  have hfor := (M.mine u hu hmine).1
  obtain ⟨ticket, progress, rest, outcomes⟩ := u
  rw [M.now]
  cases progress with
  | queued job =>
    obtain rfl : job.name = name := hfor.current rfl
    exact M.gateway.holds ticket
  | _ => rfl

/-- **Two runs in step agree.** -/
theorem agrees (M : t.Mirrors config name s t') : t.Agrees name s t' where
  now := M.now
  concerned u hu hconcerns := by
    by_contra hnot
    rw [M.other u hu (by simpa using hnot)] at hconcerns
    cases hconcerns
  tasks := M.tasks
  canAdvance _ hu hmine := M.canAdvance hu hmine
  resolve := M.gateway.resolve
  listFor := M.gateway.listFor
  channel {r} hr := by
    obtain ⟨c, hc, -⟩ := M.coupled.backed.channel? (.inl ⟨name, hr⟩)
    exact ⟨c, hc, M.gateway.hub.channel (M.resolve_owned hr).1 hc⟩
  effect {serial c} hmem hc := by
    obtain rfl := Hub.serial_of_channel? hc
    refine ⟨_, M.gateway.hub.channel hmem hc, fun what hwhat => ?_⟩
    rw [M.now]
    exact (M.gateway.intervene M.coupled.consistent (Orderly.consistent M.orderly)
      M.resolve_owned (M.coupled.id_channel hc) hwhat t.now).2

end Mirrors

/-- What is left of a run is for the name. -/
theorem isFor_restrict {name : String} {s : Share} {t : Traffic} {moves : List Move}
    (hm : ∀ m ∈ moves, m.divides name = true) :
    ∀ m ∈ t.restrict name s moves, m.isFor name = true := by
  induction moves generalizing s t with
  | nil => exact fun m hm => (by cases hm)
  | cons m rest ih =>
    intro m' hm'
    rcases List.mem_append.mp hm' with hm' | hm'
    · exact Share.isFor_moves (hm m List.mem_cons_self) hm'
    · exact ih (fun m hmem => hm m (List.mem_cons_of_mem _ hmem)) m' hm'

end Traffic

/-- **Names do not interfere.** On a hub without injected faults, out of any run of requests and of
what happens to channels, what is for a name is a run of a gateway that receives only that, and at
every moment the two agree about the name. -/
theorem restrict_agrees (gateway : GatewayConfig) (config : HubConfig) (seed : UInt64)
    (faultless : config.IsFaultless) (name : String) (moves more : List Move)
    (divided : ∀ m ∈ moves ++ more, m.divides name = true) :
    let start := Traffic.ofGateway (.ofConfig gateway (.ofConfig config seed))
    let left := start.restrict name .none moves
    (start.run moves).Agrees name (start.share name .none moves) (start.run left) ∧
      left <+: start.restrict name .none (moves ++ more) ∧ ∀ m ∈ left, m.isFor name = true := by
  intro start left
  have hmoves : ∀ m ∈ moves, m.divides name = true := fun m hm =>
    divided m (List.mem_append_left _ hm)
  refine ⟨?_, ?_, Traffic.isFor_restrict hmoves⟩
  · exact ((Traffic.Mirrors.ofConfig gateway faultless seed name).run hmoves).agrees
  · rw [Traffic.restrict_append]
    exact List.prefix_append ..

/-- A horn is not where it is looked for, and its open waits for a minute. Meanwhile a lamp is
opened and switched on, and loses its hardware; alone it does so at the same time. -/
theorem restrict_agrees_lamp :
    let go (ticket : Nat) : Move := .advance ticket fun _ => false
    let horn : Job := .use ⟨"horn", .voltageOutput, ⟨40, 0⟩, 60000⟩ .nothing
    let lamp : Job := .use ⟨"lamp", .digitalOutput, ⟨0, 0⟩, 1000⟩ (.write (.state true))
    let moves : List Move := [.arrive 0 [horn], go 0, .arrive 1 [lamp], go 1, .wait 250, go 0, go 1,
      .wait 2, go 1, .snapshot]
    let more : List Move := [.intervene 1 .detach]
    let config : HubConfig := { mode := .realistic }
    let start := Traffic.ofGateway (.ofConfig {} (.ofConfig config 0))
    let left := start.restrict "lamp" .none moves
    config.IsFaultless ∧ (∀ m ∈ moves ++ more, m.divides "lamp" = true) ∧
      (start.run moves).Agrees "lamp" (start.share "lamp" .none moves) (start.run left) ∧
      (start.run moves).tasks.map (fun u => u.outcomes?.isSome) = [false, true] ∧
      (start.run left).tasks.map (fun u => u.outcomes?.isSome) = [true] ∧
      (start.run left).now = 252 := by
  intro go horn lamp moves more config start left
  have faultless : config.IsFaultless := by decide +kernel
  have divided : ∀ m ∈ moves ++ more, m.divides "lamp" = true := by
    have hall : (moves ++ more).all (Move.divides "lamp") = true := by decide +kernel
    exact List.all_eq_true.mp hall
  have hagrees := restrict_agrees {} config 0 faultless "lamp" moves more divided
  exact ⟨faultless, divided, hagrees.1, by decide +kernel, by decide +kernel, by decide +kernel⟩

end ChannelGateway
