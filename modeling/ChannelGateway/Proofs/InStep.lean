import ChannelGateway.Proofs.Share

/-!
# A run and what of it is for one name, in step

`Traffic.Mirrors config name s t t'` relates a run and the run of what of it is for a name. A move
that is for another name is a step of the one run and no step of the other: it leaves what the
relation speaks of, since it touches neither the entry, the gate and the webhook list of the name
nor its channels. A move for the name is a step of both, and has a square.

Results:
* `Traffic.Mirrors.advance_other`, `advance_mine`, `arrive`, `cancel`, `intervene`, `shutdown`: the
  moves.
* **`Traffic.Mirrors.step`**, **`Traffic.Mirrors.run`**: two runs stay in step.
-/

namespace ChannelGateway

namespace Traffic

/-! ## Two runs in step -/

/-- The tasks for a name, with their resources renumbered. -/
def tasksFor (s : Share) (t : Traffic) : List Task :=
  (t.tasks.filter fun u => s.tickets u.ticket).map (Task.among s.serials)

/-- A run and what of it is for a name are in step. -/
structure Mirrors (config : HubConfig) (name : String) (s : Share) (t t' : Traffic) : Prop where
  coupled : t.IsCoupled config
  orderly : t'.IsOrderly
  gateway : t.gateway.Mirrors name s.serials t'.gateway
  now : t'.now = t.now
  tasks : t'.tasks = t.tasksFor s
  distinct : (t.tasks.map Task.ticket).Nodup
  mine : ∀ u ∈ t.tasks, s.tickets u.ticket = true →
    u.IsFor name ∧ ∀ r, u.Tells r → r.serial ∈ s.serials
  other : ∀ u ∈ t.tasks, s.tickets u.ticket = false → u.concerns name = false
  known : ∀ {r}, Known t.gateway.registry t.standing r → (r.serial ∈ s.serials ↔ r.name = name)

variable {config : HubConfig} {name : String} {s : Share} {t t' : Traffic} {ticket : Nat}
  {u v : Task}

theorem standing_of_task? (h : t.task? ticket = some u) : t.standing ticket = some u.progress := by
  rw [standing, h]
  rfl

/-- Which tasks are for the name does not change when one goes on. -/
theorem filter_replace (t : Traffic) (tickets : Nat → Bool) (v : Task) :
    ((t.replace v).filter fun w => tickets w.ticket) =
      (t.tasks.filter fun w => tickets w.ticket).map fun w =>
        if w.ticket = v.ticket then v else w := by
  unfold replace
  rw [List.filter_map]
  congr 2
  funext w
  dsimp only [Function.comp]
  split
  · rename_i hw
    rw [hw]
  · rfl

/-- The tasks for the name after another task has gone on. -/
theorem tasksFor_replace_other (g : Gateway) (hv : s.tickets v.ticket = false) :
    ({ t with gateway := g, tasks := t.replace v } : Traffic).tasksFor s = t.tasksFor s := by
  unfold tasksFor
  rw [filter_replace]
  congr 1
  refine (List.map_congr_left fun w hw => ?_).trans (List.map_id _)
  rw [if_neg]
  · rfl
  · intro he
    have hmine := (List.mem_filter.mp hw).2
    rw [he, hv] at hmine
    cases hmine

/-- The tasks for the name after one of them has gone on. -/
theorem tasksFor_replace_mine {own : List Nat} (g : Gateway)
    (hkeep : ∀ w ∈ t.tasks, s.tickets w.ticket = true → w.among own = w.among s.serials) :
    ({ t with gateway := g, tasks := t.replace v } : Traffic).tasksFor { s with serials := own } =
      (t.tasksFor s).map fun w => if w.ticket = v.ticket then v.among own else w := by
  unfold tasksFor
  rw [filter_replace, List.map_map, List.map_map]
  refine List.map_congr_left fun w hw => ?_
  obtain ⟨hw, hmine⟩ := List.mem_filter.mp hw
  dsimp only [Function.comp]
  by_cases he : w.ticket = v.ticket
  · rw [if_pos he, if_pos (show (w.among s.serials).ticket = v.ticket from he)]
  · rw [if_neg he, if_neg (show (w.among s.serials).ticket ≠ v.ticket from he), hkeep w hw hmine]

namespace Mirrors

theorem task?_of_mem (M : t.Mirrors config name s t') (hu : u ∈ t.tasks) :
    t.task? u.ticket = some u := by
  have hdistinct := M.distinct
  unfold task?
  generalize t.tasks = tasks at hu hdistinct
  induction tasks with
  | nil => cases hu
  | cons w rest ih =>
    obtain ⟨hw, hrest⟩ := List.nodup_cons.mp hdistinct
    rcases List.mem_cons.mp hu with rfl | hu
    · simp
    · have hne : w.ticket ≠ u.ticket := fun he => hw (he ▸ List.mem_map_of_mem hu)
      rw [List.find?_cons_of_neg (by simpa using hne)]
      exact ih hu hrest

/-- The task for the name with a ticket. -/
theorem task?_mine (M : t.Mirrors config name s t') (hmine : s.tickets ticket = true) :
    t'.task? ticket = (t.task? ticket).map (Task.among s.serials) := by
  unfold task?
  rw [M.tasks, tasksFor, List.find?_map, List.find?_filter]
  congr 2
  funext w
  by_cases hw : w.ticket = ticket
  · simp [Function.comp, Task.among, hw, hmine]
  · simp [Function.comp, Task.among, hw]

/-- The known resources of the name have their channels. -/
theorem owns (M : t.Mirrors config name s t') {r : Resource}
    (hr : Known t.gateway.registry t.standing r) (hname : r.name = name) :
    t.gateway.Owns name s.serials r := by
  obtain ⟨c, hc, -⟩ := M.coupled.backed.channel? hr
  exact ⟨hname, (M.known hr).mpr hname, by rw [hc]; rfl⟩

/-- The resources that a request touches are known, and of its name. -/
theorem known_touched (M : t.Mirrors config name s t') (hu : t.task? ticket = some u) {r : Resource}
    (hr : t.gateway.Touches u.progress r) :
    Known t.gateway.registry t.standing r ∧ u.progress.name? = some r.name := by
  rcases hr with hr | ⟨other, hother, hr⟩
  · exact ⟨.inr ⟨ticket, by rw [standing_of_task? hu]; exact hr⟩, Progress.name?_of_resource? hr⟩
  · exact ⟨.inl ⟨other, hr⟩, by rw [M.coupled.consistent.name_eq hr, hother]⟩

/-- Whoever holds a channel of the name holds what it has been renumbered to. -/
theorem held (M : t.Mirrors config name s t') (outside : Nat → Bool) :
    ∀ serial ∈ s.serials, t.gateway.holds (t.held outside) serial = true →
      t'.gateway.holds (t'.held fun i => s.serials[i]?.any outside) (s.serials.idxOf serial) =
        true := by
  intro serial hmem hheld
  have hregisters := M.gateway.registers M.coupled.consistent (Orderly.consistent M.orderly)
    (fun hr => M.known (.inl ⟨_, hr⟩)) hmem
  unfold Gateway.holds Traffic.held at hheld ⊢
  rw [hregisters]
  simp only [Bool.or_eq_true, List.any_eq_true] at hheld ⊢
  rcases hheld with hheld | ⟨u, hu, hheld⟩ | hheld
  · exact .inl hheld
  · obtain ⟨r, hr, rfl⟩ := Progress.holds_iff.mp hheld
    have hknown : Known t.gateway.registry t.standing r :=
      .inr ⟨u.ticket, by rw [standing_of_task? (M.task?_of_mem hu)]; exact hr⟩
    -- the task is for the name, since its channel is
    have hmine : s.tickets u.ticket = true := by
      by_contra hnot
      have hother := M.other u hu (by simpa using hnot)
      refine (Task.concerns_eq_false_iff.mp hother).1 ?_
      rw [Progress.name?_of_resource? hr, (M.known hknown).mp hmem]
    refine .inr (.inl ⟨u.among s.serials, ?_, ?_⟩)
    · rw [M.tasks]
      exact List.mem_map.mpr ⟨u, List.mem_filter.mpr ⟨hu, hmine⟩, rfl⟩
    · refine Progress.holds_iff.mpr ⟨r.among s.serials, ?_, rfl⟩
      exact Progress.resource?_among.trans (congrArg (Option.map _) hr)
  · refine .inr (.inr ?_)
    rw [List.getElem?_idxOf hmem]
    exact hheld

/-! ### Tasks -/

/-- What is known after a task has gone on: no more, or the resource of a channel that it has
created. -/
theorem known_advance (hu : t.task? ticket = some u) (outside : Nat → Bool) {r : Resource}
    (hr : Known (t.advance ticket outside).gateway.registry (t.advance ticket outside).standing r) :
    Known t.gateway.registry t.standing r ∨
      u.progress.name? = some r.name ∧ r.serial = t.gateway.hub.created ∧
        (t.advance ticket outside).gateway.hub.created = t.gateway.hub.created + 1 := by
  rcases t.advance_cases ticket outside with
    he | ⟨outcome, job, hs, hg, hstanding⟩ | ⟨p, g, p', hs, ha, hg, hstanding⟩
  · rw [he] at hr
    exact .inl hr
  · rw [hg, hstanding] at hr
    exact .inl (hr.of_rest rfl)
  · rw [hg, hstanding] at hr
    rw [standing_of_task? hu] at hs
    obtain rfl := Option.some.inj hs
    rw [hg]
    cases Gateway.advance_turnover (standing_of_task? hu) ha with
    | keeps ledger next known => exact .inl (known hr)
    | adds new own serial id ledger next known =>
      rcases known hr with rfl | hr
      · exact .inr ⟨own, serial, congrArg Ledger.created ledger⟩
      · exact .inl hr

/-- The hub after a task for another name has gone on. -/
theorem hub_other (M : t.Mirrors config name s t') (hu : t.task? ticket = some u)
    (hother : u.concerns name = false) (outside : Nat → Bool) :
    (t.advance ticket outside).gateway.hub.Mirrors s.serials t'.gateway.hub := by
  have hcoupled : (t.advance ticket outside).IsCoupled config :=
    M.coupled.step (m := .advance ticket outside) rfl
  rcases t.advance_cases ticket outside with
    he | ⟨outcome, job, hs, hg, -⟩ | ⟨p, g, p', hs, ha, hg, -⟩
  · rw [he]
    exact M.gateway.hub
  · rw [hg]
    exact M.gateway.hub
  · rw [standing_of_task? hu] at hs
    obtain rfl := Option.some.inj hs
    refine M.gateway.hub.frame (hg ▸ Gateway.injection_advance M.gateway.hub.silent ha)
      (hcoupled.sound.config_eq.trans M.coupled.sound.config_eq.symm) hcoupled.sound.numbered ?_
      fun {serial c} hserial hc => ?_
    · rw [hg]
      cases Gateway.advance_turnover (standing_of_task? hu) ha with
      | keeps ledger next known => exact Nat.le_of_eq (congrArg Ledger.created ledger).symm
      | adds new own serial id ledger next known =>
        exact Nat.le_of_succ_le (Nat.le_of_eq (congrArg Ledger.created ledger).symm)
    · rw [hg] at hc
      refine (Gateway.advance_keepsChannel ha (fun {r} hr he => ?_)
        (M.gateway.hub.given _ hserial)).of_some hc
      obtain ⟨hknown, hname⟩ := M.known_touched hu hr
      rw [(M.known hknown).mp (he ▸ hserial)] at hname
      exact (Task.concerns_eq_false_iff.mp hother).1 hname

/-- **A task for another name goes on.** -/
theorem advance_other (M : t.Mirrors config name s t') (outside : Nat → Bool)
    (hother : s.tickets ticket = false) :
    (t.advance ticket outside).Mirrors config name s t' := by
  cases hu : t.task? ticket with
  | none =>
    have he : t.advance ticket outside = t := by rw [advance, hu]
    rwa [he]
  | some u =>
    have hcoupled := M.coupled.step (m := .advance ticket outside) rfl
    have hknown := fun r => known_advance hu outside (r := r)
    have hconcerns := M.other u (mem_of_task? hu) (by rwa [ticket_of_task? hu])
    have hhub := M.hub_other hu hconcerns outside
    rcases advance_of_task? hu outside with ⟨-, he⟩ | ⟨g, v, ha, hv, he⟩
    · rwa [he]
    change (t.advance ticket outside).IsCoupled config at hcoupled
    rw [he] at hcoupled hknown hhub ⊢
    obtain ⟨hsame, hvconcerns⟩ := Task.advance_apart M.coupled.consistent ha hconcerns
    refine ⟨hcoupled, M.orderly, M.gateway.frame hsame hhub, M.now, ?_, ?_, fun w hw hmine => ?_,
      fun w hw hnot => ?_, fun {r} hr => ?_⟩
    · rw [M.tasks, tasksFor_replace_other g (by rwa [hv])]
    · rw [tickets_replace]
      exact M.distinct
    · rcases mem_replace hw with rfl | ⟨hw, -⟩
      · rw [hv, hother] at hmine
        cases hmine
      · exact M.mine w hw hmine
    · rcases mem_replace hw with rfl | ⟨hw, -⟩
      · exact hvconcerns
      · exact M.other w hw hnot
    · rcases hknown r hr with hr | ⟨hname, hserial, -⟩
      · exact M.known hr
      · -- the channel has been created for another name
        have hne : r.name ≠ name := by
          rintro rfl
          exact (Task.concerns_eq_false_iff.mp hconcerns).1 hname
        refine iff_of_false (fun hmem => ?_) hne
        have hlt := M.gateway.hub.given _ hmem
        omega

/-- **A task for the name goes on**, in both runs. -/
theorem advance_mine (M : t.Mirrors config name s t') (outside : Nat → Bool)
    (hmine : s.tickets ticket = true) :
    (t.advance ticket outside).Mirrors config name
      { s with serials := Gateway.grown s.serials t.gateway (t.advance ticket outside).gateway }
      (t'.advance ticket fun i => s.serials[i]?.any outside) := by
  have hstay : Gateway.grown s.serials t.gateway t.gateway = s.serials := if_pos rfl
  have htask' := M.task?_mine hmine
  cases hu : t.task? ticket with
  | none =>
    have he : t.advance ticket outside = t := by rw [advance, hu]
    rw [hu] at htask'
    have he' : (t'.advance ticket fun i => s.serials[i]?.any outside) = t' := by
      rw [advance, htask']
      rfl
    rw [he, he', hstay]
    exact M
  | some u =>
    have hcoupled : (t.advance ticket outside).IsCoupled config :=
      M.coupled.step (m := .advance ticket outside) rfl
    have horderly : (t'.advance ticket fun i => s.serials[i]?.any outside).IsOrderly :=
      M.orderly.step (.advance ticket _)
    have hknown := fun r => known_advance hu outside (r := r)
    obtain ⟨hfor, htells⟩ := M.mine u (mem_of_task? hu) (by rwa [ticket_of_task? hu])
    have howns : ∀ {r}, t.gateway.Touches u.progress r → t.gateway.Owns name s.serials r := by
      intro r hr
      obtain ⟨hknown, hname⟩ := M.known_touched hu hr
      exact M.owns hknown (hfor.current hname)
    have hsquare := Task.advance_among M.gateway hfor htells howns (M.held outside) t.now
    have hu' : t'.task? ticket = some (u.among s.serials) := by
      rw [htask', hu]
      rfl
    have hadvance' := advance_of_task? hu' fun i => s.serials[i]?.any outside
    rw [M.now] at hadvance'
    rcases advance_of_task? hu outside with ⟨ha, he⟩ | ⟨g, v, ha, hv, he⟩ <;>
      rcases hadvance' with ⟨ha', he'⟩ | ⟨g', v', ha', -, he'⟩ <;> rw [ha, ha'] at hsquare
    · rw [he, he', hstay]
      exact M
    · cases hsquare
    · cases hsquare
    obtain ⟨hgateway, hv'⟩ := Option.rel_some_some.mp hsquare
    dsimp only at hgateway hv'
    rw [he'] at horderly ⊢
    rw [he] at hcoupled hknown ⊢
    generalize hown : Gateway.grown s.serials t.gateway g = own at hgateway hv' ⊢
    have hkeep : ∀ {serial}, serial ∈ s.serials → serial ∈ own := fun hs =>
      hown ▸ Gateway.mem_grown hs
    refine ⟨hcoupled, horderly, hgateway, rfl, ?_, ?_, fun w hw hmine => ?_, fun w hw hnot => ?_,
      fun {r} hr => ?_⟩
    · rw [tasksFor_replace_mine g fun w hw hmine => ?_, ← M.tasks, hv']
      · rfl
      · rw [← hown]
        exact Gateway.among_grown (M.mine w hw hmine).2
    · rw [tickets_replace]
      exact M.distinct
    · rcases mem_replace hw with rfl | ⟨hw, -⟩
      · refine ⟨hfor.advance M.coupled.consistent ha, fun r hr => ?_⟩
        rcases Task.tells_advance ha hr with hr | hr | ⟨hserial, hcreated⟩
        · exact hkeep (htells r hr)
        · exact hkeep (howns hr).mem
        · rw [hserial, ← hown]
          exact Gateway.created_mem_grown hcreated
      · obtain ⟨hwfor, hwtells⟩ := M.mine w hw hmine
        exact ⟨hwfor, fun r hr => hkeep (hwtells r hr)⟩
    · rcases mem_replace hw with rfl | ⟨hw, -⟩
      · rw [hv] at hnot
        rw [hnot] at hmine
        cases hmine
      · exact M.other w hw hnot
    · rcases hknown r hr with hr | ⟨hname, hserial, hcreated⟩
      · rw [← M.known hr, ← hown]
        exact Gateway.mem_grown_iff (M.coupled.backed.lt_created hr)
      · refine iff_of_true ?_ (hfor.current hname)
        rw [hserial, ← hown]
        exact Gateway.created_mem_grown hcreated

/-! ### Arrivals and departures -/

/-- A ticket that no task has may be given to whomever. -/
theorem retag (M : t.Mirrors config name s t') (hfree : t.task? ticket = Option.none) (b : Bool) :
    t.Mirrors config name { s with tickets := Function.update s.tickets ticket b } t' := by
  have hne : ∀ u ∈ t.tasks, u.ticket ≠ ticket := by
    rintro u hu rfl
    rw [M.task?_of_mem hu] at hfree
    cases hfree
  have htickets : ∀ u ∈ t.tasks, Function.update s.tickets ticket b u.ticket = s.tickets u.ticket :=
    fun u hu => Function.update_of_ne (hne u hu) ..
  refine ⟨M.coupled, M.orderly, M.gateway, M.now, ?_, M.distinct, fun u hu hmine => ?_,
    fun u hu hnot => ?_, M.known⟩
  · rw [M.tasks, tasksFor, tasksFor]
    congr 1
    exact List.filter_congr fun u hu => (htickets u hu).symm
  · exact M.mine u hu (htickets u hu ▸ hmine)
  · exact M.other u hu (htickets u hu ▸ hnot)

theorem arrive_eq {job : Job} {rest : List Job} (hfree : t.task? ticket = Option.none) :
    t.arrive ticket (job :: rest) =
      { t with tasks := t.tasks ++ [⟨ticket, .ready job, rest, []⟩] } := by
  rw [arrive, hfree]
  rfl

theorem arrive_nil (t : Traffic) (ticket : Nat) : t.arrive ticket [] = t := by
  unfold arrive
  cases t.task? ticket <;> rfl

/-- Tickets are distinct after a task has arrived. -/
theorem distinct_arrive (M : t.Mirrors config name s t') (u : Task)
    (hfree : t.task? u.ticket = Option.none) : ((t.tasks ++ [u]).map Task.ticket).Nodup := by
  rw [List.map_append, List.nodup_append]
  refine ⟨M.distinct, by simp, ?_⟩
  rintro k hk l hl rfl
  obtain ⟨w, hw, rfl⟩ := List.mem_map.mp hk
  have hticket : w.ticket = u.ticket := by simpa using hl
  rw [← hticket, M.task?_of_mem hw] at hfree
  cases hfree

/-- A task arrives for another name. -/
theorem arrive_other (M : t.Mirrors config name s t') (hfree : t.task? ticket = Option.none)
    (hother : s.tickets ticket = false) {jobs : List Job} (hjobs : ∀ job ∈ jobs, job.name ≠ name) :
    (t.arrive ticket jobs).Mirrors config name s t' := by
  have hcoupled : (t.arrive ticket jobs).IsCoupled config :=
    M.coupled.step (m := .arrive ticket jobs) rfl
  cases jobs with
  | nil => rwa [arrive_nil]
  | cons job rest =>
    rw [arrive_eq hfree] at hcoupled ⊢
    refine ⟨hcoupled, M.orderly, M.gateway, M.now, ?_, M.distinct_arrive _ hfree,
      fun w hw hmine => ?_, fun w hw hnot => ?_, fun hr => M.known ?_⟩
    · rw [M.tasks, tasksFor, tasksFor, List.filter_append]
      simp [hother]
    · rcases List.mem_append.mp hw with hw | hw
      · exact M.mine w hw hmine
      · rw [List.mem_singleton.mp hw] at hmine
        exact absurd (hother.symm.trans hmine) Bool.false_ne_true
    · rcases List.mem_append.mp hw with hw | hw
      · exact M.other w hw hnot
      · rw [List.mem_singleton.mp hw, Task.concerns_eq_false_iff]
        refine ⟨fun hn => hjobs job List.mem_cons_self (Option.some.inj hn), fun j hj => ?_⟩
        exact hjobs j (List.mem_cons_of_mem _ hj)
    · rw [standing_append (u := ⟨ticket, .ready job, rest, []⟩) hfree] at hr
      exact hr.of_rest rfl

/-- A task arrives for the name, in both runs. -/
theorem arrive_mine (M : t.Mirrors config name s t') (hfree : t.task? ticket = Option.none)
    (hmine : s.tickets ticket = true) {jobs : List Job} (hjobs : ∀ job ∈ jobs, job.name = name) :
    (t.arrive ticket jobs).Mirrors config name s (t'.arrive ticket jobs) := by
  have hcoupled : (t.arrive ticket jobs).IsCoupled config :=
    M.coupled.step (m := .arrive ticket jobs) rfl
  have horderly : (t'.arrive ticket jobs).IsOrderly := M.orderly.step (.arrive ticket jobs)
  cases jobs with
  | nil => rwa [arrive_nil, arrive_nil]
  | cons job rest =>
    have hfree' : t'.task? ticket = Option.none := by
      rw [M.task?_mine hmine, hfree]
      rfl
    rw [arrive_eq hfree] at hcoupled ⊢
    rw [arrive_eq hfree'] at horderly ⊢
    refine ⟨hcoupled, horderly, M.gateway, M.now, ?_, M.distinct_arrive _ hfree,
      fun w hw _ => ?_, fun w hw hnot => ?_, fun hr => M.known ?_⟩
    · rw [M.tasks, tasksFor, tasksFor, List.filter_append, List.map_append]
      simp [hmine, Task.among, Progress.among]
    · rcases List.mem_append.mp hw with hw | hw
      · exact M.mine w hw ‹_›
      · rw [List.mem_singleton.mp hw]
        refine ⟨⟨fun hother => ?_, fun j hj => hjobs j (List.mem_cons_of_mem _ hj)⟩, fun r hr => ?_⟩
        · cases hother
          exact hjobs job List.mem_cons_self
        · rcases hr with hr | hr <;> cases hr
    · rcases List.mem_append.mp hw with hw | hw
      · exact M.other w hw hnot
      · rw [List.mem_singleton.mp hw] at hnot
        exact absurd (hnot.symm.trans hmine) Bool.false_ne_true
    · rw [standing_append (u := ⟨ticket, .ready job, rest, []⟩) hfree] at hr
      exact hr.of_rest rfl

/-- **A task arrives**, for the name or for another one. -/
theorem arrive (M : t.Mirrors config name s t') (ticket : Nat) (jobs : List Job)
    (hm : (Move.arrive ticket jobs).divides name = true) :
    (t.arrive ticket jobs).Mirrors config name (s.after name t (.arrive ticket jobs))
      (t'.run (s.moves name t (.arrive ticket jobs))) := by
  simp only [Share.after, Share.moves]
  cases hu : t.task? ticket with
  | some u =>
    have he : t.arrive ticket jobs = t := by rw [Traffic.arrive, hu]
    rw [he]
    exact M
  | none =>
    have M' := M.retag hu (jobs.all fun job => job.name = name)
    rw [Option.isNone_none, if_pos rfl]
    by_cases hb : (jobs.all fun job => decide (job.name = name)) = true
    · rw [if_pos ⟨rfl, hb⟩]
      exact M'.arrive_mine hu ((Function.update_self ..).trans hb) (by simpa using hb)
    · rw [if_neg fun h => hb h.2]
      have hnone : ∀ job ∈ jobs, job.name ≠ name := by
        simp only [Move.divides, hb, Bool.false_or] at hm
        simpa using hm
      exact M'.arrive_other hu ((Function.update_self ..).trans (by simpa using hb)) hnone

/-- The tasks for the name after another task has been given up. -/
theorem tasksFor_cancel_other (g : Gateway) (hother : s.tickets ticket = false) :
    ({ t with gateway := g, tasks := t.tasks.filter fun w => w.ticket ≠ ticket } : Traffic).tasksFor
      s = t.tasksFor s := by
  unfold tasksFor
  rw [List.filter_filter]
  congr 1
  refine List.filter_congr fun w _ => ?_
  by_cases hw : w.ticket = ticket
  · simp [hw, hother]
  · simp [hw]

/-- The tasks for the name after one of them has been given up. -/
theorem tasksFor_cancel_mine (g : Gateway) :
    ({ t with gateway := g, tasks := t.tasks.filter fun w => w.ticket ≠ ticket } : Traffic).tasksFor
      s = (t.tasksFor s).filter fun w => w.ticket ≠ ticket := by
  unfold tasksFor
  rw [List.filter_map, List.filter_filter, List.filter_filter]
  congr 1
  refine List.filter_congr fun w _ => ?_
  exact Bool.and_comm ..

/-- **A task is given up**, in the runs that it is in. -/
theorem cancel (M : t.Mirrors config name s t') (ticket : Nat) :
    (t.cancel ticket).Mirrors config name s (t'.run (s.moves name t (.cancel ticket))) := by
  have hcoupled : (t.cancel ticket).IsCoupled config :=
    M.coupled.step (m := .cancel ticket) rfl
  have horderly : (t'.cancel ticket).IsOrderly := M.orderly.step (.cancel ticket)
  simp only [Share.moves]
  cases hu : t.task? ticket with
  | none =>
    have he : t.cancel ticket = t := by rw [Traffic.cancel, hu]
    rw [he]
    split
    · rename_i hmine
      have he' : t'.cancel ticket = t' := by
        rw [Traffic.cancel, M.task?_mine hmine, hu]
        rfl
      change t.Mirrors config name s (t'.cancel ticket)
      rwa [he']
    · exact M
  | some u =>
    have hmem := mem_of_task? hu
    have hticket := ticket_of_task? hu
    have he : t.cancel ticket =
        { t with
          gateway := t.gateway.cancel ticket u.progress
          tasks := t.tasks.filter fun w => w.ticket ≠ ticket } := by
      rw [Traffic.cancel, hu]
    have hdistinct : ((t.tasks.filter fun w => w.ticket ≠ ticket).map Task.ticket).Nodup :=
      M.distinct.sublist (List.Sublist.map _ List.filter_sublist)
    have hknown : ∀ {r}, Known (t.cancel ticket).gateway.registry (t.cancel ticket).standing r →
        (r.serial ∈ s.serials ↔ r.name = name) := by
      intro r hr
      rw [he, standing_filter] at hr
      dsimp only at hr
      rw [Gateway.registry_cancel] at hr
      exact M.known (hr.of_rest rfl)
    rw [he] at hcoupled hknown ⊢
    by_cases hmine : s.tickets ticket = true
    · rw [if_pos hmine]
      have he' : t'.cancel ticket =
          { t' with
            gateway := t'.gateway.cancel ticket (u.progress.among s.serials)
            tasks := t'.tasks.filter fun w => w.ticket ≠ ticket } := by
        rw [Traffic.cancel, M.task?_mine hmine, hu]
        rfl
      change Mirrors config name s _ (t'.cancel ticket)
      rw [he'] at horderly ⊢
      refine ⟨hcoupled, horderly, ?_, M.now, ?_, hdistinct, fun w hw => M.mine w ?_,
        fun w hw => M.other w ?_, hknown⟩
      · exact M.gateway.cancel (M.mine u hmem (hticket ▸ hmine)).1.current ticket
      · rw [M.tasks, tasksFor_cancel_mine]
      · exact (List.mem_filter.mp hw).1
      · exact (List.mem_filter.mp hw).1
    · have hother : s.tickets ticket = false := by simpa using hmine
      rw [if_neg hmine]
      have hconcerns := M.other u hmem (hticket ▸ hother)
      have hsame := t.gateway.cancel_sameFor ticket (Task.concerns_eq_false_iff.mp hconcerns).1
      refine ⟨hcoupled, M.orderly, M.gateway.frame hsame ?_, M.now, ?_, hdistinct,
        fun w hw => M.mine w ?_, fun w hw => M.other w ?_, hknown⟩
      · rw [Gateway.hub_cancel]
        exact M.gateway.hub
      · exact M.tasks.trans (tasksFor_cancel_other _ hother).symm
      · exact (List.mem_filter.mp hw).1
      · exact (List.mem_filter.mp hw).1

/-! ### Channels and the gateway as a whole -/

/-- The gateways change, and nobody comes or goes. -/
theorem withGateway (M : t.Mirrors config name s t') {g g' : Gateway}
    (coupled : ({ t with gateway := g } : Traffic).IsCoupled config)
    (orderly : ({ t' with gateway := g' } : Traffic).IsOrderly)
    (gateway : g.Mirrors name s.serials g')
    (loses : ∀ {other r}, g.registry.resolve other = some r →
      t.gateway.registry.resolve other = some r) :
    ({ t with gateway := g } : Traffic).Mirrors config name s { t' with gateway := g' } :=
  ⟨coupled, orderly, gateway, M.now, M.tasks, M.distinct, M.mine, M.other,
    fun hr => M.known (Known.of_loses loses hr)⟩

/-- The resource of the name has its channel, and its identity. -/
theorem resolve_owned (M : t.Mirrors config name s t') {r : Resource}
    (hr : t.gateway.registry.resolve name = some r) :
    r.serial ∈ s.serials ∧ r.id = r.serial + 1 :=
  ⟨(M.known (.inl ⟨name, hr⟩)).mpr (M.coupled.consistent.name_eq hr),
    M.coupled.backed.id_eq (.inl ⟨name, hr⟩)⟩

/-- What happens to a channel of another name leaves what is under the name. -/
theorem gateway_disturbance (M : t.Mirrors config name s t') {c : Channel} {hub : Hub}
    {events : List HubEvent} (hd : Hub.Disturbance t.gateway.hub c (hub, events))
    (hc : t.gateway.hub.channel? c.serial = some c) (hother : c.serial ∉ s.serials)
    (hcoupled : ({ t with gateway := { t.gateway with hub }.observeAll events } :
      Traffic).IsCoupled config) :
    ({ t.gateway with hub }.observeAll events).Mirrors name s.serials t'.gateway := by
  have hapart : ∀ {r}, t.gateway.registry.resolve name = some r →
      r.serial ≠ c.serial ∧ r.id ≠ c.spec.id := by
    intro r hr
    obtain ⟨hmem, hid⟩ := M.resolve_owned hr
    have hne : r.serial ≠ c.serial := fun he => hother (he ▸ hmem)
    rw [hid, M.coupled.id_channel hc]
    exact ⟨hne, fun he => hne (Nat.succ.inj he)⟩
  have hunder := Gateway.under_disturbance M.coupled.consistent hd hapart
  have hsame : t.gateway.SameFor name ({ t.gateway with hub }.observeAll events) := by
    refine ⟨?_, congrArg (fun g => Gates.tickets g name) (Gateway.gates_observeAll ..),
      congrArg (fun g => Subscriptions.listFor g name) (Gateway.subscriptions_observeAll ..)⟩
    rw [← Gateway.resource_under, ← Gateway.resource_under, hunder]
  refine M.gateway.frame hsame (M.gateway.hub.frame ?_ ?_ hcoupled.sound.numbered ?_ ?_)
  · rw [Gateway.hub_observeAll]
    exact Hub.injection_disturbance hd
  · exact hcoupled.sound.config_eq.trans M.coupled.sound.config_eq.symm
  · rw [Gateway.hub_observeAll]
    cases hd <;> exact Nat.le_refl _
  · intro serial c' hserial hc'
    rw [Gateway.hub_observeAll] at hc'
    rwa [Hub.channel?_disturbance hd fun he => hother (he ▸ hserial)] at hc'

theorem intervene_eq (t : Traffic) {serial : Nat} {c : Channel}
    (hc : t.gateway.hub.channel? serial = some c) (what : Intervention) :
    t.intervene serial what =
      { t with
        gateway := { t.gateway with hub := (t.gateway.hub.intervene t.now c what).1 }.observeAll
          (t.gateway.hub.intervene t.now c what).2.1 } := by
  rw [Traffic.intervene, hc]

/-- **Something happens to a channel**, of the name or of another one. -/
theorem intervene (M : t.Mirrors config name s t') (serial : Nat) {what : Intervention}
    (hwhat : ∀ io, what ≠ .operate io) :
    (t.intervene serial what).Mirrors config name s
      (t'.run (s.moves name t (.intervene serial what))) := by
  have hcoupled : (t.intervene serial what).IsCoupled config :=
    M.coupled.step (m := .intervene serial what)
      (by cases what <;> first | rfl | exact absurd rfl (hwhat _))
  simp only [Share.moves]
  cases hc : t.gateway.hub.channel? serial with
  | none =>
    have he : t.intervene serial what = t := by rw [Traffic.intervene, hc]
    rw [he, if_neg (by simp)]
    exact M
  | some c =>
    obtain rfl := Hub.serial_of_channel? hc
    have hloses := Registry.removal_loses (Gateway.registry_observeAll
      { t.gateway with hub := (t.gateway.hub.intervene t.now c what).1 }
      (t.gateway.hub.intervene t.now c what).2.1)
    rw [intervene_eq t hc what] at hcoupled ⊢
    by_cases hmem : c.serial ∈ s.serials
    · have hc' := M.gateway.hub.channel hmem hc
      have horderly := M.orderly.step (.intervene (s.serials.idxOf c.serial) what)
      obtain ⟨hgateway, -⟩ := M.gateway.intervene M.coupled.consistent
        (Orderly.consistent M.orderly) M.resolve_owned (M.coupled.id_channel hc) hwhat t.now
      rw [if_pos ⟨hmem, rfl⟩]
      change (t'.intervene _ what).IsOrderly at horderly
      change Mirrors config name s _ (t'.intervene _ what)
      rw [intervene_eq t' hc' what] at horderly ⊢
      refine M.withGateway hcoupled horderly ?_ hloses.2
      rw [M.now]
      exact hgateway
    · rw [if_neg fun h => hmem h.1]
      have hd := t.gateway.hub.intervene_disturbance t.now c hwhat
      exact M.withGateway hcoupled M.orderly (M.gateway_disturbance hd hc hmem hcoupled) hloses.2

/-- The gateway is shut down. -/
theorem shutdown (M : t.Mirrors config name s t') :
    (t.step .shutdown).Mirrors config name s (t'.step .shutdown) := by
  refine M.withGateway (M.coupled.step (m := .shutdown) rfl) (M.orderly.step .shutdown) ?_
    fun {other r} hr => ?_
  · exact M.gateway.shutdown M.coupled.consistent (Orderly.consistent M.orderly) fun hr =>
      M.known (.inl ⟨_, hr⟩)
  · rw [Gateway.shutdown_eq] at hr
    cases hr

/-- Webhooks are delivered. -/
theorem withDispatcher (M : t.Mirrors config name s t') (f f' : Dispatcher → Dispatcher)
    (hcoupled : (t.withDispatcher f).IsCoupled config)
    (horderly : (t'.withDispatcher f').IsOrderly) :
    (t.withDispatcher f).Mirrors config name s (t'.withDispatcher f') :=
  M.withGateway hcoupled horderly
    ⟨M.gateway.hub, M.gateway.resolve, M.gateway.tickets, M.gateway.listFor, M.gateway.next,
      M.gateway.alone⟩ id

/-! ### Runs -/

/-- **Every move keeps the two runs in step.** -/
theorem step (M : t.Mirrors config name s t') {m : Move} (hm : m.divides name = true) :
    (t.step m).Mirrors config name (s.after name t m) (t'.run (s.moves name t m)) := by
  have hcoupled := M.coupled.step (Move.isForeign_of_divides hm)
  cases m with
  | arrive ticket jobs => exact M.arrive ticket jobs hm
  | advance ticket outside =>
    simp only [Share.after, Share.moves]
    by_cases hmine : s.tickets ticket = true
    · rw [if_pos hmine, if_pos hmine]
      exact M.advance_mine outside hmine
    · rw [if_neg hmine, if_neg hmine]
      exact M.advance_other outside (by simpa using hmine)
  | cancel ticket => exact M.cancel ticket
  | wait ms =>
    exact ⟨hcoupled, M.orderly, M.gateway, congrArg (· + ms) M.now, M.tasks, M.distinct, M.mine,
      M.other, M.known⟩
  | intervene serial what =>
    refine M.intervene serial ?_
    rintro io rfl
    cases hm
  | shutdown => exact M.shutdown
  | snapshot =>
    have he : t.step .snapshot = t := by
      simp only [Traffic.step]
      rw [Gateway.snapshot_silent M.gateway.hub.silent]
    rw [he]
    exact M
  | deliver receivers =>
    exact M.withDispatcher (fun d => d.beginAll t.now receivers)
      (fun d => d.beginAll t'.now receivers) hcoupled (M.orderly.step (.deliver receivers))
  | settle =>
    exact M.withDispatcher (fun d => d.settle t.now) (fun d => d.settle t'.now) hcoupled
      (M.orderly.step .settle)
  | tell event => cases hm
  | forget other id => cases hm
  | drain => cases hm
  | meddle hub => cases hm

/-- Two runs are in step at every moment. -/
theorem run (M : t.Mirrors config name s t') {moves : List Move}
    (hm : ∀ m ∈ moves, m.divides name = true) :
    (t.run moves).Mirrors config name (t.share name s moves)
      (t'.run (t.restrict name s moves)) := by
  induction moves generalizing s t t' with
  | nil => exact M
  | cons m rest ih =>
    rw [restrict, run_append]
    exact ih (M.step (hm m List.mem_cons_self)) fun m' hm' => hm m' (List.mem_cons_of_mem m hm')

/-- Two runs from the beginning are in step. -/
theorem ofConfig (gateway : GatewayConfig) {config : HubConfig} (hf : config.IsFaultless)
    (seed : UInt64) (name : String) :
    (ofGateway (.ofConfig gateway (.ofConfig config seed))).Mirrors config name .none
      (ofGateway (.ofConfig gateway (.ofConfig config seed))) := by
  have hcoupled := IsCoupled.ofConfig gateway config seed
  refine ⟨hcoupled, hcoupled.orderly, ⟨⟨hf.silent seed, hf.silent seed, rfl, ?_, ?_, rfl, .nil,
    ?_, ?_⟩, rfl, rfl, rfl, rfl, ?_⟩, rfl, rfl, .nil, ?_, ?_, ?_⟩
  · exact hcoupled.sound.numbered
  · exact hcoupled.sound.numbered
  · exact fun serial hs => (by cases hs)
  · exact fun hs => (by cases hs)
  · exact fun hr => (by cases hr)
  · exact fun u hu => (by cases hu)
  · exact fun u hu => (by cases hu)
  · rintro r (⟨other, hr⟩ | ⟨k, hk⟩)
    · cases hr
    · cases hk

end Mirrors

end Traffic

end ChannelGateway
