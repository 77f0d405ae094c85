import ChannelGateway.Proofs.Mirror

/-!
# What of a run is for one name

Out of a run, the moves that are for one name are taken: the arrivals of tasks with requests for it,
what these tasks do, and what happens to the channels that they have created (`Traffic.restrict`).
Made alone, on a gateway that receives nothing else, these channels get other serial numbers, since
no others are created; `Share` keeps the list of them, by which a task is renumbered (`Task.among`).

Results:
* `Gateway.advance_tells`: a request tells only of channels that are its own.
* **`Task.advance_among`**: the square of a task for the name.
* `Traffic.restrict_append`: what is left of a longer run begins with what is left of its beginning.
-/

namespace ChannelGateway

/-! ## What requests tell -/

/-- The resource of a request, or the one that it has ended with. -/
def Progress.tells? : Progress → Option Resource
  | opening r _ _ => some r
  | writing r _ => some r
  | done (.ok r) => r
  | _ => none

theorem Progress.resource?_among {own : List Nat} {p : Progress} :
    (p.among own).resource? = p.resource?.map (Resource.among own) := by
  cases p <;> rfl

namespace Gateway

variable {g g' : Gateway} {now ticket : Nat} {held : Nat → Bool} {p p' : Progress}
  {r : Resource}

theorem tells?_follow {g : Gateway} {s : Resource} {followup : Followup}
    (h : (g.follow now r followup).2.tells? = some s) : s = r := by
  have ho := follow_outcome g now r followup
  generalize g.follow now r followup = result at ho h
  cases ho <;> cases h <;> rfl

/-- **A piece of a request tells of a channel that the request touches**, or of one that it has just
created. -/
theorem piece_tells (hp : g.Piece now held ticket p g' p') (h : p'.tells? = some r) :
    g.Touches p r ∨ r.serial = g.hub.created ∧ g'.hub.created = g.hub.created + 1 := by
  cases hp with
  | reuse found =>
    obtain rfl := tells?_follow h
    exact .inl (.inr ⟨_, rfl, found⟩)
  | join turn found =>
    obtain rfl := tells?_follow h
    exact .inl (.inr ⟨_, rfl, found⟩)
  | create turn free known attempt =>
    cases h
    exact .inr ⟨rfl, congrArg Ledger.created (ledger_attempt attempt)⟩
  | @createOpen request followup hub events reply turn free known attempt =>
    obtain rfl := tells?_follow h
    have hregister := ledger_register { g.enlist held request with hub } now ticket
      (g.newcomer request) followup
    exact .inr ⟨rfl, congrArg Ledger.created (hregister.trans (ledger_attempt attempt))⟩
  | attached due result =>
    obtain rfl := tells?_follow h
    exact .inl (.inl rfl)
  | written due result =>
    cases h
    exact .inl (.inl rfl)
  | _ => cases h

/-- A call of `Gateway.advance` tells of a channel that the request touches, or of one that it has
just created. -/
theorem advance_tells (ha : g.advance now held ticket p = some (g', p')) (h : p'.tells? = some r) :
    g.Touches p r ∨ r.serial = g.hub.created ∧ g'.hub.created = g.hub.created + 1 := by
  rcases advance_piece ha with hone | ⟨job, rfl, htwo⟩
  · exact piece_tells hone h
  · have hpiece := piece_tells (g := { g with gates := g.gates.enter job.name ticket }) htwo h
    exact hpiece.imp_left fun htouch => htouch.imp_left fun hr => by cases hr

end Gateway

/-! ## Tasks for a name -/

namespace Task

variable {name : String} {own : List Nat} {u v : Task} {g g' : Gateway} {now : Nat}
  {held held' : Nat → Bool} {r : Resource}

/-- A task with its resources numbered among others. -/
def among (own : List Nat) (u : Task) : Task :=
  { u with progress := u.progress.among own, outcomes := u.outcomes.map (Outcome.among own) }

/-- All requests of a task that are still to come are for a name. -/
structure IsFor (name : String) (u : Task) : Prop where
  current : ∀ {other}, u.progress.name? = some other → other = name
  rest : ∀ job ∈ u.rest, job.name = name

/-- The resources that a task tells of. -/
def Tells (u : Task) (r : Resource) : Prop :=
  u.progress.tells? = some r ∨ .ok (some r) ∈ u.outcomes

end Task

/-- An outcome tells the same when more is listed. -/
theorem Outcome.among_append {own more : List Nat} {outcome : Outcome}
    (h : ∀ r, outcome = .ok (some r) → r.serial ∈ own) :
    outcome.among (own ++ more) = outcome.among own := by
  rcases outcome with e | (_ | r)
  · rfl
  · rfl
  · simp only [Outcome.among, Except.map, Option.map_some, Resource.among_append (h r rfl)]

/-- A request stands at the same place when more is listed. -/
theorem Progress.among_append {own more : List Nat} {p : Progress}
    (h : ∀ r, p.tells? = some r → r.serial ∈ own) : p.among (own ++ more) = p.among own := by
  cases p with
  | opening r followup w =>
    simp only [among, Resource.among_append (h r rfl)]
  | writing r w => simp only [among, Resource.among_append (h r rfl)]
  | done outcome =>
    have houtcome : ∀ r, outcome = .ok (some r) → r.serial ∈ own := by
      rintro r rfl
      exact h r rfl
    simp only [among, Outcome.among_append houtcome]
  | _ => rfl

namespace Task

variable {name : String} {own : List Nat} {u v : Task} {g g' : Gateway} {now : Nat}
  {held held' : Nat → Bool} {r : Resource}

/-- A task is the same when more is listed. -/
theorem among_append {more : List Nat} (h : ∀ r, u.Tells r → r.serial ∈ own) :
    u.among (own ++ more) = u.among own := by
  have hprogress : u.progress.among (own ++ more) = u.progress.among own :=
    Progress.among_append fun r hr => h r (.inl hr)
  have houtcomes : u.outcomes.map (Outcome.among (own ++ more)) =
      u.outcomes.map (Outcome.among own) :=
    List.map_congr_left fun outcome ho =>
      Outcome.among_append fun r hr => h r (.inr (hr ▸ ho))
  unfold among
  rw [hprogress, houtcomes]

/-- A task that has not arrived at the end of a request goes on as its request does. -/
theorem advance_of_name (h : u.progress.name?.isSome) (now : Nat) (held : Nat → Bool)
    (g : Gateway) :
    u.advance now held g =
      (g.advance now held u.ticket u.progress).map fun (g, p) => (g, { u with progress := p }) := by
  obtain ⟨ticket, progress, rest, outcomes⟩ := u
  cases progress <;> first | rfl | cases h

/-- A task that goes on stays for its name. -/
theorem IsFor.advance (h : u.IsFor name) (hc : g.registry.Consistent)
    (ha : u.advance now held g = some (g', v)) : v.IsFor name := by
  rcases advance_cases ha with ⟨outcome, job, rest, hdone, hrest, rfl, rfl⟩ | ⟨p', hp, rfl⟩
  · refine ⟨fun hother => ?_, fun j hj => h.rest j (by rw [hrest]; exact List.mem_cons_of_mem _ hj)⟩
    cases hother
    exact h.rest job (by rw [hrest]; exact List.mem_cons_self)
  · refine ⟨fun {other} hother => ?_, h.rest⟩
    rcases Gateway.advance_name hc hp with hn | hn
    · rw [hn] at hother
      cases hother
    · exact h.current (hn ▸ hother)

/-- A task that goes on tells of what it has told, of a channel that it touches, or of one that it
has just created. -/
theorem tells_advance (ha : u.advance now held g = some (g', v)) (h : v.Tells r) :
    u.Tells r ∨ g.Touches u.progress r ∨
      r.serial = g.hub.created ∧ g'.hub.created = g.hub.created + 1 := by
  rcases advance_cases ha with ⟨outcome, job, rest, hdone, hrest, rfl, rfl⟩ | ⟨p', hp, rfl⟩
  · refine .inl (h.elim (fun hr => by cases hr) fun hr => ?_)
    rcases List.mem_append.mp hr with hr | hr
    · exact .inr hr
    · refine .inl ?_
      rw [hdone, ← List.mem_singleton.mp hr]
      rfl
  · rcases h with hr | hr
    · exact .inr (Gateway.advance_tells hp hr)
    · exact .inl (.inr hr)

end Task

namespace Gateway

variable {own : List Nat} {g g' : Gateway} {serial : Nat}

theorem mem_grown (h : serial ∈ own) : serial ∈ grown own g g' := by
  unfold grown
  split
  · exact h
  · exact List.mem_append_left _ h

theorem created_mem_grown (h : g'.hub.created = g.hub.created + 1) :
    g.hub.created ∈ grown own g g' := by
  unfold grown
  rw [if_neg (h ▸ Nat.succ_ne_self _)]
  exact List.mem_append_right _ List.mem_cons_self

/-- The channels that there were before are those of the name that there were before. -/
theorem mem_grown_iff (h : serial < g.hub.created) : serial ∈ grown own g g' ↔ serial ∈ own := by
  unfold grown
  split
  · rfl
  · simp [Nat.ne_of_lt h]

/-- A task is the same after another channel has been created for the name. -/
theorem among_grown {u : Task} (h : ∀ r, u.Tells r → r.serial ∈ own) :
    u.among (grown own g g') = u.among own := by
  unfold grown
  split
  · rfl
  · exact Task.among_append h

end Gateway

namespace Task

variable {name : String} {own : List Nat} {u v : Task} {g g' : Gateway} {now : Nat}
  {held held' : Nat → Bool} {r : Resource}

/-- **The square of a task for the name.** -/
theorem advance_among (M : g.Mirrors name own g') (hu : u.IsFor name)
    (htells : ∀ r, u.Tells r → r.serial ∈ own)
    (howns : ∀ {r}, g.Touches u.progress r → g.Owns name own r)
    (hheld : ∀ serial ∈ own, g.holds held serial = true →
      g'.holds held' (own.idxOf serial) = true) (now : Nat) :
    Option.Rel
      (fun a a' => a.1.Mirrors name (Gateway.grown own g a.1) a'.1 ∧
        a'.2 = a.2.among (Gateway.grown own g a.1))
      (u.advance now held g) ((u.among own).advance now held' g') := by
  cases hname : u.progress.name? with
  | none =>
    -- the request is done, and the next one begins if there is one
    obtain ⟨ticket, progress, rest, outcomes⟩ := u
    cases progress with
    | done outcome =>
      cases rest with
      | nil => exact .none
      | cons job rest =>
        have hgrown : Gateway.grown own g g = own := if_pos rfl
        refine .some ⟨by rwa [hgrown], ?_⟩
        rw [hgrown]
        simp [among, Progress.among]
    | _ => cases hname
  | some other =>
    obtain rfl := hu.current hname
    have hname' : (u.among own).progress.name?.isSome := by
      obtain ⟨ticket, progress, rest, outcomes⟩ := u
      cases progress <;> first | rfl | cases hname
    rw [advance_of_name (by rw [hname]; rfl), advance_of_name hname']
    have hrel := M.advance hname howns hheld now u.ticket
    change Option.Rel _ _
      (Option.map _ (g'.advance now held' u.ticket (u.progress.among own)))
    generalize g.advance now held u.ticket u.progress = result at hrel ⊢
    generalize g'.advance now held' u.ticket (u.progress.among own) = result' at hrel ⊢
    cases hrel with
    | none => exact .none
    | @some a a' h =>
      obtain ⟨hmirrors, hprogress⟩ := h
      refine .some ⟨hmirrors, ?_⟩
      have houtcomes : (u.among (Gateway.grown own g a.1)).outcomes = (u.among own).outcomes :=
        congrArg Task.outcomes (Gateway.among_grown htells)
      dsimp only [among] at houtcomes ⊢
      rw [hprogress, houtcomes]

end Task

/-! ## What of a run is for a name -/

/-- What of a run is for a name: the tickets under which tasks with requests for it have arrived,
and the channels that these have created, in order. -/
structure Share where
  tickets : Nat → Bool
  serials : List Nat

namespace Share

/-- Nothing has happened yet. -/
def none : Share := ⟨fun _ => false, []⟩

/-- What is for a name after a move. -/
def after (s : Share) (name : String) (t : Traffic) : Move → Share
  | .arrive ticket jobs =>
    if (t.task? ticket).isNone then
      { s with tickets := Function.update s.tickets ticket (jobs.all fun job => job.name = name) }
    else s
  | .advance ticket outside =>
    if s.tickets ticket then
      { s with serials := Gateway.grown s.serials t.gateway (t.advance ticket outside).gateway }
    else s
  | _ => s

/-- What is left of a move when only what is for a name is done. Time passes all the same, and
shutting down is for every name. -/
def moves (s : Share) (name : String) (t : Traffic) : Move → List Move
  | .arrive ticket jobs =>
    if (t.task? ticket).isNone ∧ jobs.all fun job => job.name = name then [.arrive ticket jobs]
    else []
  | .advance ticket outside =>
    if s.tickets ticket then [.advance ticket fun i => s.serials[i]?.any outside] else []
  | .cancel ticket => if s.tickets ticket then [.cancel ticket] else []
  | .intervene serial what =>
    if serial ∈ s.serials ∧ (t.gateway.hub.channel? serial).isSome then
      [.intervene (s.serials.idxOf serial) what]
    else []
  | .wait ms => [.wait ms]
  | .shutdown => [.shutdown]
  | .deliver receivers => [.deliver receivers]
  | .settle => [.settle]
  | _ => []

end Share

/-- A move is a request, something that happens to a channel by itself, or the passing of time. A
task that arrives has requests for the name only, or none for it. -/
def Move.divides (name : String) : Move → Bool
  | arrive _ jobs =>
    (jobs.all fun job => job.name = name) || jobs.all fun job => job.name ≠ name
  | intervene _ (.operate _) => false
  | tell _ => false
  | forget _ _ => false
  | drain => false
  | meddle _ => false
  | _ => true

theorem Move.isForeign_of_divides {name : String} {m : Move} (h : m.divides name = true) :
    m.isForeign = false := by
  cases m with
  | intervene serial what => cases what <;> first | rfl | cases h
  | meddle hub => cases h
  | _ => rfl

namespace Traffic

/-- What of a run is for a name. -/
def share (name : String) (s : Share) (t : Traffic) : List Move → Share
  | [] => s
  | m :: rest => share name (s.after name t m) (t.step m) rest

/-- What is left of a run when only what is for a name is done. -/
def restrict (name : String) (s : Share) (t : Traffic) : List Move → List Move
  | [] => []
  | m :: rest => s.moves name t m ++ restrict name (s.after name t m) (t.step m) rest

/-- What is left of a longer run begins with what is left of its beginning. -/
theorem restrict_append (name : String) (s : Share) (t : Traffic) (moves more : List Move) :
    t.restrict name s (moves ++ more) =
      t.restrict name s moves ++ (t.run moves).restrict name (t.share name s moves) more := by
  induction moves generalizing s t with
  | nil => rfl
  | cons m rest ih =>
    have hrest := ih (s.after name t m) (t.step m)
    rw [List.cons_append, restrict, hrest, restrict, List.append_assoc]
    rfl

end Traffic

end ChannelGateway
