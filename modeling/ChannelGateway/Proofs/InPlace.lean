import ChannelGateway.Bench.Run
import ChannelGateway.Proofs.Intact

/-!
# Requests in the place of calls

Who calls a gateway directly and who sends it a request may ask for the same thing. A request stands
for a call if every gateway makes the same request on a name of both, or refuses both with the same
error at once (`Http.Request.StandsFor`). In a run of the bench, a request in the place of a call
that it stands for changes one errand and nothing else: the errand of the request goes through the
places that the errand of the call goes through, at the same times, and its answer is the response
to the outcome that the call is answered with (`Errand.Matches`). What else is under way may be
anything.

Results:
* `Errand.Matches.poll`: errands that match are taken up alike.
* `Bench.round_swapped`, `Bench.rounds_swapped`: so are lists of errands of which two match.
* **`Bench.run_swapped`**: a run in which a request takes the place of a call ends in the same bench
  and sends the same deliveries, and every other step has the same answer.
-/

namespace ChannelGateway

/-- A request stands for a call: a gateway makes the same request on a name of both, or refuses both
with the same error. -/
structure Http.Request.StandsFor (r : Http.Request) (c : Call) : Prop where
  accepted : ∀ {g : Gateway} {job : Job}, c.job g.openTimeout = .ok job →
    Http.handle g r = .accepted job
  refused : ∀ {g : Gateway} {e : GatewayError}, c.job g.openTimeout = .error e →
    Http.handle g r = .answered (.ofOutcome (.error e)) g

/-- The errand of a request and the errand of a call are as far as each other. -/
inductive Errand.Matches (r : Http.Request) (c : Call) : Errand → Errand → Prop
  | fresh : Matches r c (.fresh (.http r)) (.fresh (.call c))
  | requesting (ticket : Nat) (p : Progress) :
    Matches r c (.requesting ⟨ticket, p, [], []⟩ .response) (.requesting ⟨ticket, p, [], []⟩ .plain)
  | finished (outcome : Outcome) (time : Nat) :
    Matches r c (.finished (.response (.ofOutcome outcome)) time)
      (.finished (.ofOutcome outcome) time)

/-- Errands that are the same but for one place, where they match. -/
inductive Errand.Swapped (r : Http.Request) (c : Call) (place : Nat) :
    List Errand → List Errand → Prop
  | intro {earlier later : List Errand} {e e' : Errand} (length : earlier.length = place)
    (here : Matches r c e e') :
    Swapped r c place (earlier ++ e :: later) (earlier ++ e' :: later)

/-! ## One errand -/

/-- A task of one request stays one. -/
theorem Task.run_single (ticket : Nat) (p : Progress) (now : Nat) (held : Nat → Bool)
    (g : Gateway) :
    ∃ g' p', (⟨ticket, p, [], []⟩ : Task).run now held g = (g', ⟨ticket, p', [], []⟩) := by
  suffices h : ∀ fuel g p, ∃ g' p',
      advanceUpTo now held fuel g ⟨ticket, p, [], []⟩ = (g', ⟨ticket, p', [], []⟩) from h _ g p
  intro fuel
  induction fuel with
  | zero => exact fun g p => ⟨g, p, rfl⟩
  | succ fuel ih =>
    intro g p
    unfold advanceUpTo
    rw [Task.advance_single]
    cases g.advance now held ticket p with
    | none => exact ⟨g, p, rfl⟩
    | some x => exact ih x.1 x.2

/-- What a task of one request has ended with. -/
theorem Task.outcomes?_single (ticket : Nat) (p : Progress) :
    (∃ outcome, (⟨ticket, p, [], []⟩ : Task).outcomes? = some [outcome]) ∨
      (⟨ticket, p, [], []⟩ : Task).outcomes? = none := by
  cases p with
  | done outcome => exact .inl ⟨outcome, rfl⟩
  | _ => exact .inr rfl

section

variable {r : Http.Request} {c : Call} {e e' : Errand}

namespace Errand.Matches

theorem holds (h : Matches r c e e') (serial : Nat) : e.holds serial = e'.holds serial := by
  cases h <;> rfl

theorem due? (h : Matches r c e e') : e.due? = e'.due? := by
  cases h <;> rfl

theorem remaining (h : Matches r c e e') : e.remaining = e'.remaining := by
  cases h <;> rfl

theorem isSome_answer? (h : Matches r c e e') : e.answer?.isSome = e'.answer?.isSome := by
  cases h <;> rfl

theorem canResume (h : Matches r c e e') (b : Bench) : b.canResume e = b.canResume e' := by
  cases h <;> rfl

/-- A request on a name goes on alike, whoever asked for it. -/
theorem resume (r : Http.Request) (c : Call) (b : Bench) (others : Nat → Bool) (ticket : Nat)
    (p : Progress) :
    ∃ b' f f', b.resume others (.requesting ⟨ticket, p, [], []⟩ .response) = (b', f) ∧
      b.resume others (.requesting ⟨ticket, p, [], []⟩ .plain) = (b', f') ∧ Matches r c f f' := by
  obtain ⟨g, p', hrun⟩ := Task.run_single ticket p b.now (b.keeps others) b.gateway
  obtain ⟨outcome, ho⟩ | ho := Task.outcomes?_single ticket p'
  · simp only [Bench.resume, hrun, ho]
    exact ⟨_, _, _, rfl, rfl, .finished outcome b.now⟩
  · simp only [Bench.resume, hrun, ho]
    exact ⟨_, _, _, rfl, rfl, .requesting ticket p'⟩

/-- **Errands that match are taken up alike**: the bench becomes the same, and they still match. -/
theorem poll (stands : r.StandsFor c) (h : Matches r c e e') (b : Bench) (others : Nat → Bool) :
    ∃ b' f f', b.poll others e = (b', f) ∧ b.poll others e' = (b', f') ∧ Matches r c f f' := by
  cases h with
  | fresh =>
    simp only [Bench.poll, Bench.perform]
    cases hjob : c.job b.gateway.openTimeout with
    | ok job =>
      rw [stands.accepted hjob]
      exact resume r c { b with ticket := b.ticket + 1 } others b.ticket (.ready job)
    | error err =>
      rw [stands.refused hjob]
      exact ⟨b, _, _, rfl, rfl, .finished (.error err) b.now⟩
  | requesting ticket p => exact resume r c b others ticket p
  | finished outcome time => exact ⟨b, _, _, rfl, rfl, .finished outcome time⟩

end Errand.Matches

/-! ## Rounds -/

namespace Errand.Swapped

variable {place : Nat} {es es' : List Errand}

/-- What matching errands have in common, the lists have in common. -/
theorem map_eq {α : Type} {f : Errand → α} (h : Swapped r c place es es')
    (same : ∀ {e e'}, Matches r c e e' → f e = f e') : es.map f = es'.map f := by
  obtain ⟨-, here⟩ := h
  rw [List.map_append, List.map_cons, same here, List.map_append, List.map_cons]

theorem all_answered (h : Swapped r c place es es') :
    (es.all fun e => e.answer?.isSome) = es'.all fun e => e.answer?.isSome := by
  have hmap := h.map_eq Matches.isSome_answer?
  simpa only [List.all_map, Function.comp_def, id] using congrArg (List.all · id) hmap

theorem any_canResume (h : Swapped r c place es es') (b : Bench) :
    es.any b.canResume = es'.any b.canResume := by
  have hmap := h.map_eq fun hm => Matches.canResume hm b
  simpa only [List.any_map, Function.comp_def, id] using congrArg (List.any · id) hmap

theorem nextDue? (h : Swapped r c place es es') (b : Bench) : b.nextDue? es = b.nextDue? es' := by
  have hmap := h.map_eq Matches.due?
  have hdue : es.filterMap due? = es'.filterMap due? := by
    simpa only [List.filterMap_map, Function.id_comp] using congrArg (List.filterMap id) hmap
  rw [Bench.nextDue?, hdue, ← Bench.nextDue?]

theorem roundsLeft (h : Swapped r c place es es') (b : Bench) :
    b.roundsLeft es = b.roundsLeft es' := by
  have hmap := h.map_eq Matches.remaining
  have hsum := congrArg (List.foldr (· + ·) 0) hmap
  rw [List.foldr_map, List.foldr_map] at hsum
  rw [Bench.roundsLeft, hsum, ← Bench.roundsLeft]

end Errand.Swapped

namespace Bench

/-- A round depends on the errands before only through the channels that they hold. -/
theorem round_congr (b : Bench) (before before' : List Errand)
    (same : ∀ serial, before.any (Errand.holds serial) = before'.any (Errand.holds serial))
    (es : List Errand) :
    ∃ b' after, b.round before es = (b', before.reverse ++ after) ∧
      b.round before' es = (b', before'.reverse ++ after) := by
  induction es generalizing b before before' with
  | nil => exact ⟨b, [], by simp [round], by simp [round]⟩
  | cons e es ih =>
    unfold round
    simp only [same]
    generalize b.poll _ e = x
    obtain ⟨b', after, h, h'⟩ := ih x.1 (x.2 :: before) (x.2 :: before')
      (by simp [same])
    exact ⟨b', x.2 :: after, by simpa using h, by simpa using h'⟩

/-- The errands that were taken up before stay as they are, and those that follow are taken up
alike. -/
theorem round_append (stands : r.StandsFor c) (here : Errand.Matches r c e e')
    (later earlier : List Errand) (b : Bench) (before : List Errand) :
    ∃ b' es es', b.round before (earlier ++ e :: later) = (b', es) ∧
      b.round before (earlier ++ e' :: later) = (b', es') ∧
      Errand.Swapped r c (before.length + earlier.length) es es' := by
  induction earlier generalizing b before with
  | nil =>
    simp only [List.nil_append]
    unfold round
    dsimp only
    obtain ⟨b₁, f, f', hf, hf', hmatch⟩ := here.poll stands b
      fun serial => before.any (Errand.holds serial) || later.any (Errand.holds serial)
    rw [hf, hf']
    obtain ⟨b', after, h, h'⟩ := b₁.round_congr (f :: before) (f' :: before)
      (fun serial => by rw [List.any_cons, List.any_cons, Errand.Matches.holds hmatch]) later
    refine ⟨b', _, _, h, h', ?_⟩
    rw [List.reverse_cons, List.reverse_cons, List.append_assoc, List.append_assoc]
    exact .intro (by simp) hmatch
  | cons d earlier ih =>
    have hheld : ∀ serial, (earlier ++ e :: later).any (Errand.holds serial) =
        (earlier ++ e' :: later).any (Errand.holds serial) := by
      intro serial
      simp only [List.any_append, List.any_cons, here.holds]
    simp only [List.cons_append]
    unfold round
    simp only [hheld]
    generalize b.poll _ d = x
    obtain ⟨b', es, es', h, h', hswap⟩ := ih x.1 (x.2 :: before)
    refine ⟨b', es, es', h, h', ?_⟩
    rw [List.length_cons, Nat.add_right_comm] at hswap
    exact hswap

variable {place : Nat} {es es' : List Errand}

/-- A round takes up errands alike. -/
theorem round_swapped (stands : r.StandsFor c) (h : Errand.Swapped r c place es es') (b : Bench) :
    ∃ b' fs fs', b.round [] es = (b', fs) ∧ b.round [] es' = (b', fs') ∧
      Errand.Swapped r c place fs fs' := by
  obtain ⟨hlength, here⟩ := h
  rename_i earlier later e e'
  have hround := round_append stands here later earlier b []
  rwa [hlength, List.length_nil, Nat.zero_add] at hround

/-- Rounds one after the other take up errands alike. -/
theorem rounds_swapped (stands : r.StandsFor c) (fuel : Nat) (b : Bench)
    (h : Errand.Swapped r c place es es') :
    ∃ b' fs fs' sent, b.rounds fuel es = (b', fs, sent) ∧ b.rounds fuel es' = (b', fs', sent) ∧
      Errand.Swapped r c place fs fs' := by
  induction fuel generalizing b es es' with
  | zero => exact ⟨b, es, es', [], rfl, rfl, h⟩
  | succ fuel ih =>
    unfold rounds
    rw [h.all_answered, h.any_canResume, h.nextDue?]
    split
    · exact ⟨b, es, es', [], rfl, rfl, h⟩
    · extract_lets now
      obtain ⟨b₁, fs, fs', hfs, hfs', hswap⟩ := round_swapped stands h { b with now }
      rw [hfs, hfs']
      obtain ⟨b', gs, gs', sent, hgs, hgs', hlast⟩ := ih b₁.deliver.1 hswap
      simp only [hgs, hgs']
      exact ⟨b', gs, gs', _, rfl, rfl, hlast⟩

/-- **A request in the place of a call**: a run in which a request is made that stands for a call,
and the run in which the call is made, end in the same bench and send the same deliveries. Every
other errand is the same in both, and the errand of the request matches that of the call. -/
theorem run_swapped (stands : r.StandsFor c) (b : Bench) (earlier later : List Step) :
    ∃ b' es es' sent, b.run (earlier ++ .http r :: later) = (b', es, sent) ∧
      b.run (earlier ++ .call c :: later) = (b', es', sent) ∧
      Errand.Swapped r c earlier.length es es' := by
  have hfresh : Errand.Swapped r c earlier.length ((earlier ++ .http r :: later).map .fresh)
      ((earlier ++ .call c :: later).map .fresh) := by
    rw [List.map_append, List.map_append, List.map_cons, List.map_cons]
    exact .intro (List.length_map _) .fresh
  unfold run
  obtain ⟨b₁, es, es', hes, hes', hswap⟩ := round_swapped stands hfresh b
  rw [hes, hes']
  simp only [hswap.roundsLeft]
  obtain ⟨b', fs, fs', sent, hfs, hfs', hlast⟩ :=
    rounds_swapped stands (b₁.deliver.1.roundsLeft es') b₁.deliver.1 hswap
  simp only [hfs, hfs']
  exact ⟨b', fs, fs', _, rfl, rfl, hlast⟩

end Bench

end

end ChannelGateway
