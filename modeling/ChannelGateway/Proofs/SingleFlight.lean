import ChannelGateway.Proofs.Orderly
import ChannelGateway.Proofs.Sought

/-!
# One open at a time for each name

Any number of requests may look for the same name at once. `SingleFlight` says of a state what the
next move can do to them: one channel at most is being opened for a name, a channel is created only
for a name that is not open, a request that is given a resource is given the one that is registered
at that moment, and a request whose predecessor failed tries for itself. Every reachable state has
it, since a request that creates a channel holds the gate of its name (`Orderly`) and whatever a
move does to a request is a case of `Turn`.

The moves include drains and shutdowns, events that no channel had, names forgotten at any time and
hubs put in place of the hub; what is said of the count of created channels excepts the last.

Results:
* `step_turn`: all that a move does to the requests that look for a name.
* `IsOrderly.resolve_run`: a name that stays open keeps its resource.
* **`single_flight`**: the property after every run.
-/

namespace ChannelGateway

open Progress

namespace Traffic

/-- A channel has been created for a name, and a task waits for it to open. -/
def Opening (t : Traffic) (name : String) (ticket : Nat) : Prop :=
  ∃ r f w, t.standing ticket = some (.opening r f w) ∧ r.name = name

/-- A move consumes no identity and creates no channel, except by putting another hub in place. -/
def Keeps (t : Traffic) (m : Move) : Prop :=
  (t.step m).gateway.registry.nextId = t.gateway.registry.nextId ∧
    ((∀ hub, m ≠ .meddle hub) → (t.step m).gateway.hub.created = t.gateway.hub.created)

/-- A move creates a channel for the request of a task: its name is not open, nobody waits for a
channel of that name, and the request knows the place. -/
structure Creates (t : Traffic) (m : Move) (ticket : Nat) (request : OpenRequest) : Prop where
  own : ∃ outside, m = .advance ticket outside
  asks : ∃ p, t.standing ticket = some p ∧ p.Asks request
  free : t.gateway.registry.resolve request.name = none
  alone : ∀ k, ¬ t.Opening request.name k
  known : request.address.isMissing = false
  nextId : (t.step m).gateway.registry.nextId = t.gateway.registry.nextId + 1
  created : (t.step m).gateway.hub.created = t.gateway.hub.created + 1

/-- What a move can do to the requests that look for a name. -/
inductive Turn (t : Traffic) (m : Move) : Prop
  /-- No request goes on; at most, one begins or is given up. -/
  | still (keeps : t.Keeps m)
    (loses : ∀ {name r}, (t.step m).gateway.registry.resolve name = some r →
      t.gateway.registry.resolve name = some r)
    (standing : ∀ {k q}, (t.step m).standing k = some q → t.standing k = some q ∨
      (∃ job, q = .ready job) ∧ ∀ {p}, t.standing k = some p → p.seeks? = none)
  /-- A request that looks for a name goes on. -/
  | seeks {ticket : Nat} {outside : Nat → Bool} {p p' : Progress}
    (own : m = .advance ticket outside)
    (stood : t.standing ticket = some p)
    (advance : t.gateway.advance t.now (t.held outside) ticket p = some ((t.step m).gateway, p'))
    (stands : (t.step m).standing = Function.update t.standing ticket (some p'))
    (sought : Gateway.Sought t.gateway ticket p (t.step m).gateway p')
  /-- Another request goes on. -/
  | elsewhere {ticket : Nat} {p p' : Progress} (stood : t.standing ticket = some p)
    (seeks : p.seeks? = none)
    (stands : (t.step m).standing = Function.update t.standing ticket (some p'))
    (elsewhere : Gateway.Elsewhere t.gateway (t.step m).gateway p')

/-- **All that a move does** to the requests that look for a name. -/
theorem step_turn (t : Traffic) (m : Move) : Turn t m := by
  cases t.step_change m with
  | removal taken gates standing frame =>
    have hloses := Registry.removal_loses taken
    exact .still ⟨hloses.1, fun hm => congrArg Prod.snd (frame hm)⟩ hloses.2
      fun hq => .inl (by rwa [standing] at hq)
  | @begins ticket job idle gateway standing =>
    refine .still ⟨by rw [gateway], fun _ => by rw [gateway]⟩ (by rw [gateway]; exact fun h => h) ?_
    intro k q hq
    rw [standing] at hq
    by_cases hk : k = ticket
    · subst hk
      rw [Function.update_self] at hq
      refine .inr ⟨⟨job, (Option.some.inj hq).symm⟩, fun hp => ?_⟩
      obtain ⟨outcome, rfl⟩ := idle hp
      rfl
    · rw [Function.update_of_ne hk] at hq
      exact .inl hq
  | @ends ticket p stood gateway standing =>
    refine .still ⟨?_, fun _ => ?_⟩ ?_ ?_
    · rw [gateway, Gateway.registry_cancel]
    · rw [gateway, Gateway.hub_cancel]
    · rw [gateway, Gateway.registry_cancel]
      exact fun h => h
    · intro k q hq
      rw [standing] at hq
      by_cases hk : k = ticket
      · subst hk
        rw [Function.update_self] at hq
        cases hq
      · rw [Function.update_of_ne hk] at hq
        exact .inl hq
  | @advances ticket outside p p' own stood advance standing =>
    cases hseeks : p.seeks? with
    | some name => exact .seeks own stood advance standing (Gateway.advance_sought hseeks advance)
    | none => exact .elsewhere stood hseeks standing (Gateway.advance_elsewhere hseeks advance)

/-- All that a move does to one task that stands somewhere afterwards. -/
theorem step_stands {t : Traffic} {m : Move} {ticket : Nat} {q : Progress}
    (hq : (t.step m).standing ticket = some q) :
    t.standing ticket = some q ∨
      ((∃ job, q = .ready job) ∧ ∀ {p}, t.standing ticket = some p → p.seeks? = none) ∨
      (∃ p outside, t.standing ticket = some p ∧ m = .advance ticket outside ∧
        t.gateway.advance t.now (t.held outside) ticket p = some ((t.step m).gateway, q) ∧
        Gateway.Sought t.gateway ticket p (t.step m).gateway q) ∨
      ∃ p, t.standing ticket = some p ∧ p.seeks? = none ∧
        Gateway.Elsewhere t.gateway (t.step m).gateway q := by
  cases t.step_turn m with
  | still keeps loses standing => exact (standing hq).imp_right .inl
  | @seeks other outside p p' own stood advance stands sought =>
    rw [stands] at hq
    by_cases hk : ticket = other
    · subst hk
      rw [Function.update_self] at hq
      cases hq
      exact .inr (.inr (.inl ⟨p, outside, stood, own, advance, sought⟩))
    · rw [Function.update_of_ne hk] at hq
      exact .inl hq
  | @elsewhere other p p' stood seeks stands elsewhere =>
    rw [stands] at hq
    by_cases hk : ticket = other
    · subst hk
      rw [Function.update_self] at hq
      cases hq
      exact .inr (.inr (.inr ⟨p, stood, seeks, elsewhere⟩))
    · rw [Function.update_of_ne hk] at hq
      exact .inl hq

/-- A request that looks for a name stays where it is, or goes on. -/
theorem sought_of_seeks {t : Traffic} {m : Move} {ticket : Nat} {p q : Progress} {name : String}
    (stood : t.standing ticket = some p) (hp : p.seeks? = some name)
    (hq : (t.step m).standing ticket = some q) :
    q = p ∨ Gateway.Sought t.gateway ticket p (t.step m).gateway q := by
  rcases step_stands hq with
    hsame | ⟨-, hnone⟩ | ⟨p₀, outside, hs, -, -, sought⟩ | ⟨p₀, hs, hnone, -⟩
  · rw [stood] at hsame
    exact .inl (Option.some.inj hsame).symm
  · rw [hnone stood] at hp
    cases hp
  · rw [stood] at hs
    cases hs
    exact .inr sought
  · rw [stood] at hs
    cases hs
    rw [hnone] at hp
    cases hp

/-- A request that has just been told that its name is not opened looked for it. -/
theorem sought_of_unopened {t : Traffic} {m : Move} {ticket : Nat} {q : Progress}
    (hq : (t.step m).standing ticket = some q) (told : q.isUnopened = true) :
    t.standing ticket = some q ∨ ∃ p outside, t.standing ticket = some p ∧
      m = .advance ticket outside ∧
      t.gateway.advance t.now (t.held outside) ticket p = some ((t.step m).gateway, q) ∧
      Gateway.Sought t.gateway ticket p (t.step m).gateway q := by
  rcases step_stands hq with hsame | ⟨⟨job, rfl⟩, -⟩ | hsought | ⟨p, -, -, elsewhere⟩
  · exact .inl hsame
  · cases told
  · exact .inr hsought
  · rw [elsewhere.quiet] at told
    cases told

/-! ## One channel for each name -/

section

variable {t : Traffic} {m : Move} {ticket : Nat} {name : String}

/-- A request that waits for its channel holds the gate of a name that is not open. -/
theorem IsOrderly.opening (h : t.IsOrderly) (ho : t.Opening name ticket) :
    t.gateway.gates.holds name ticket = true ∧ t.gateway.registry.resolve name = none := by
  obtain ⟨r, f, w, hs, rfl⟩ := ho
  have ha := Orderly.awaits h hs
  exact ⟨ha.turn, ha.free⟩

theorem IsOrderly.opening_unique (h : t.IsOrderly) {other : Nat} (ho : t.Opening name ticket)
    (ho' : t.Opening name other) : ticket = other :=
  Gates.holds_inj (h.opening ho).1 (h.opening ho').1

/-- Nobody waits for a channel of a name whose gate only a request can hold that has none. -/
theorem IsOrderly.not_opening (h : t.IsOrderly) {p : Progress} {request : OpenRequest}
    (stood : t.standing ticket = some p) (asks : p.Asks request)
    (alone : ∀ k, t.gateway.gates.holds request.name k = true → k = ticket) (k : Nat) :
    ¬ t.Opening request.name k := by
  intro ho
  obtain rfl := alone k (h.opening ho).1
  obtain ⟨r, f, w, hs, -⟩ := ho
  rw [stood] at hs
  cases hs
  obtain ⟨followup, hq | hq⟩ := asks <;> cases hq

/-- **A move creates no channel, or one** for a request whose name is not open and not being
opened. -/
theorem IsOrderly.keeps_or_creates (h : t.IsOrderly) (m : Move) :
    t.Keeps m ∨ ∃ ticket request, t.Creates m ticket request := by
  cases t.step_turn m with
  | still keeps loses standing => exact .inl keeps
  | @seeks ticket outside p p' own stood advance stands sought =>
    cases sought with
    | waits was place registry hub => exact .inl ⟨by rw [registry], fun _ => by rw [hub]⟩
    | found asks bound got registry frame =>
      exact .inl ⟨by rw [registry], fun _ => congrArg Prod.snd frame⟩
    | refused asks alone free missing told registry hub =>
      exact .inl ⟨by rw [registry], fun _ => by rw [hub]⟩
    | @created request asks alone free known nextId count others ends =>
      exact .inr ⟨ticket, request, ⟨outside, own⟩, ⟨p, stood, asks⟩, free,
        h.not_opening stood asks alone, known, nextId, count⟩
    | opened was got registered others nextId frame =>
      exact .inl ⟨nextId, fun _ => congrArg Prod.snd frame⟩
    | failed was told registry frame =>
      exact .inl ⟨by rw [registry], fun _ => congrArg Prod.snd frame⟩
  | elsewhere stood seeks stands elsewhere =>
    exact .inl ⟨elsewhere.nextId, fun _ => congrArg Prod.snd elsewhere.frame⟩

/-! ## What requests are told -/

/-- **What a request is told** that looks for a name: nothing yet, the resource that is registered
at that moment, or why there is none. -/
theorem returns {p q : Progress} (stood : t.standing ticket = some p) (hp : p.seeks? = some name)
    (hq : (t.step m).standing ticket = some q) :
    q.seeks? = some name ∨
      (∃ r, (t.step m).gateway.registry.resolve name = some r ∧ q.Got r) ∨
      q.Refused name ∨ q.Failed name := by
  rcases sought_of_seeks stood hp hq with rfl | sought
  · exact .inl hp
  have hname : ∀ {request}, p.Asks request → request.name = name := fun asks => by
    rw [asks.seeks] at hp
    exact Option.some.inj hp
  cases sought with
  | waits was place registry hub =>
    rw [was] at hp
    rw [place]
    exact .inl hp
  | @found request r asks bound got registry frame =>
    refine .inr (.inl ⟨r, ?_, got⟩)
    rw [registry, ← hname asks, bound]
  | refused asks alone free missing told registry hub =>
    exact .inr (.inr (.inl (hname asks ▸ told)))
  | @created request asks alone free known nextId count others ends =>
    rcases ends with ⟨followup, w, rfl⟩ | ⟨got, registered⟩ | failed
    · exact .inl (congrArg some (hname asks))
    · exact .inr (.inl ⟨_, hname asks ▸ registered, got⟩)
    · exact .inr (.inr (.inr (hname asks ▸ failed)))
  | @opened r f w was got registered others nextId frame =>
    rw [was] at hp
    cases hp
    exact .inr (.inl ⟨r, registered, got⟩)
  | failed was told registry frame =>
    rw [was] at hp
    cases hp
    exact .inr (.inr (.inr told))

/-- **A request is refused** for want of a place only if its name is not open and not being opened,
and then nothing is consumed. -/
theorem IsOrderly.refuses (h : t.IsOrderly) {q : Progress}
    (hq : (t.step m).standing ticket = some q) (told : q.Refused name) :
    t.standing ticket = some q ∨ ∃ p request, t.standing ticket = some p ∧ p.Asks request ∧
      request.name = name ∧ request.address.isMissing = true ∧
      t.gateway.registry.resolve name = none ∧ (∀ k, ¬ t.Opening name k) ∧
      (t.step m).gateway.registry = t.gateway.registry ∧
      (t.step m).gateway.hub = t.gateway.hub := by
  refine (sought_of_unopened hq told.isUnopened).imp_right ?_
  rintro ⟨p, outside, stood, -, -, sought⟩
  cases sought with
  | @refused request asks alone free missing told' registry hub =>
    obtain rfl : request.name = name := by
      have he : Progress.done (.error (.missingAddress request.name)) =
          .done (.error (.missingAddress name)) := told'.symm.trans told
      cases he
      rfl
    exact ⟨p, request, stood, asks, rfl, missing, free, h.not_opening stood asks alone, registry,
      hub⟩
  | waits was place registry hub =>
    rw [place] at told
    cases told
  | found asks bound got registry frame =>
    exact absurd told.isUnopened got.not_unopened
  | created asks alone free known nextId count others ends =>
    rcases ends with ⟨followup, w, rfl⟩ | ⟨got, -⟩ | ⟨e, rfl⟩
    · cases told
    · exact absurd told.isUnopened got.not_unopened
    · cases told
  | opened was got registered others nextId frame =>
    exact absurd told.isUnopened got.not_unopened
  | failed was told' registry frame =>
    obtain ⟨e, rfl⟩ := told'
    cases told

/-- **A request fails through its own channel**: it waited for it, or it has just been created. -/
theorem IsOrderly.fails (h : t.IsOrderly) {q : Progress}
    (hq : (t.step m).standing ticket = some q) (told : q.Failed name) :
    t.standing ticket = some q ∨ t.Opening name ticket ∨
      ∃ request, request.name = name ∧ t.Creates m ticket request := by
  refine (sought_of_unopened hq told.isUnopened).imp_right ?_
  rintro ⟨p, outside, stood, own, -, sought⟩
  cases sought with
  | @created request asks alone free known nextId count others ends =>
    refine .inr ⟨request, ?_, ⟨outside, own⟩, ⟨p, stood, asks⟩, free,
      h.not_opening stood asks alone, known, nextId, count⟩
    rcases ends with ⟨followup, w, rfl⟩ | ⟨got, -⟩ | failed
    · obtain ⟨e, he⟩ := told
      cases he
    · exact absurd told.isUnopened got.not_unopened
    · exact failed.name_inj told
  | @failed r f w was told' registry frame =>
    exact .inl ⟨r, f, w, by rw [stood, was], told'.name_inj told⟩
  | waits was place registry hub =>
    obtain ⟨e, he⟩ := told
    rw [place] at he
    cases he
  | found asks bound got registry frame =>
    exact absurd told.isUnopened got.not_unopened
  | refused asks alone free missing told' registry hub =>
    obtain ⟨e, rfl⟩ := told
    cases told'
  | opened was got registered others nextId frame =>
    exact absurd told.isUnopened got.not_unopened

/-! ## Waiting requests -/

/-- **A request that holds the gate** of a name that is not open creates a channel when it goes on,
if it knows the place. -/
theorem IsOrderly.tries (h : t.IsOrderly) {request : OpenRequest} {followup : Followup}
    (stood : t.standing ticket = some (.queued (.use request followup)))
    (turn : t.gateway.gates.holds request.name ticket = true)
    (free : t.gateway.registry.resolve request.name = none)
    (known : request.address.isMissing = false) (outside : Nat → Bool) :
    t.Creates (.advance ticket outside) ticket request := by
  have ha : t.gateway.advance t.now (t.held outside) ticket (.queued (.use request followup)) =
      some (t.gateway.pass t.now (t.held outside) ticket (.use request followup)) := if_pos turn
  obtain ⟨hg, -⟩ := advance_of_gateway stood ha
  have hasks : Asks (.queued (.use request followup)) request := ⟨followup, .inr rfl⟩
  cases Gateway.advance_sought hasks.seeks ha with
  | @created other asks alone _ _ nextId count others ends =>
    obtain rfl := asks.request_inj hasks
    rw [← hg] at nextId count
    exact ⟨⟨outside, rfl⟩, ⟨_, stood, hasks⟩, free, h.not_opening stood hasks alone, known, nextId,
      count⟩
  | found asks bound got registry frame =>
    rw [asks.request_inj hasks, free] at bound
    cases bound
  | refused asks alone _ missing told registry hub =>
    rw [asks.request_inj hasks, known] at missing
    cases missing
  | waits was place registry hub => cases was
  | opened was got registered others nextId frame => cases was
  | failed was told registry frame => cases was

/-- A waiting request is next when the one before it fails. -/
theorem IsOrderly.next_of_failed (h : t.IsOrderly) {next : Nat} {rest : List Nat} {q : Progress}
    (waiting : t.gateway.gates.tickets name = ticket :: next :: rest)
    (hq : (t.step m).standing ticket = some q) (told : q.Failed name) :
    (t.step m).gateway.gates.tickets name = next :: rest ∧
      (t.step m).gateway.registry.resolve name = none ∧
      (t.step m).standing next = t.standing next := by
  have hgate := (Orderly.mem_tickets h name ticket).mp (by rw [waiting]; exact List.mem_cons_self)
  have hfresh : t.standing ticket ≠ some q := by
    intro hsame
    rw [hsame, Option.bind_some, told.gate] at hgate
    cases hgate
  have hfree : t.gateway.registry.resolve name = none := by
    rcases h.fails hq told with hsame | hopening | ⟨request, rfl, creates⟩
    · exact absurd hsame hfresh
    · exact (h.opening hopening).2
    · exact creates.free
  rcases sought_of_unopened hq told.isUnopened with hsame | ⟨p, outside, stood, rfl, advance, -⟩
  · exact absurd hsame hfresh
  rw [stood, Option.bind_some] at hgate
  obtain ⟨hgates, hresolve⟩ := Gateway.advance_failed hgate advance told
  refine ⟨?_, ?_, ?_⟩
  · rw [hgates, Gates.tickets_leave, if_pos rfl, waiting, List.erase_cons_head]
  · rw [hresolve, hfree]
  · have hnodup := Orderly.nodup h name
    rw [waiting] at hnodup
    refine standing_advance_of_ne t outside ?_
    rintro rfl
    exact (List.nodup_cons.mp hnodup).1 List.mem_cons_self

/-! ## Names that stay open -/

/-- A name that is open before and after a move has the same resource. -/
theorem IsOrderly.resolve_step (h : t.IsOrderly) {r s : Resource}
    (hr : t.gateway.registry.resolve name = some r)
    (hs : (t.step m).gateway.registry.resolve name = some s) : s = r := by
  have hsame : t.gateway.registry.resolve name = some s → s = r := fun he => by
    rw [hr] at he
    exact (Option.some.inj he).symm
  cases t.step_turn m with
  | still keeps loses standing => exact hsame (loses hs)
  | elsewhere stood seeks stands elsewhere => exact hsame (elsewhere.loses hs)
  | @seeks ticket outside p p' own stood advance stands sought =>
    cases sought with
    | waits was place registry hub => exact hsame (registry ▸ hs)
    | found asks bound got registry frame => exact hsame (registry ▸ hs)
    | refused asks alone free missing told registry hub => exact hsame (registry ▸ hs)
    | failed was told registry frame => exact hsame (registry ▸ hs)
    | created asks alone free known nextId count others ends =>
      refine hsame ((others name ?_).symm.trans hs)
      rintro rfl
      rw [free] at hr
      cases hr
    | @opened r' f w was got registered others nextId frame =>
      refine hsame ((others name ?_).symm.trans hs)
      rintro rfl
      rw [(h.opening ⟨r', f, w, by rw [stood, was], rfl⟩).2] at hr
      cases hr

/-- **A name that stays open keeps its resource.** -/
theorem IsOrderly.resolve_run (h : t.IsOrderly) {r : Resource}
    (hr : t.gateway.registry.resolve name = some r) {moves : List Move}
    (stays : ∀ before, before <+: moves → (t.run before).gateway.registry.resolve name ≠ none) :
    (t.run moves).gateway.registry.resolve name = some r := by
  induction moves generalizing t with
  | nil => exact hr
  | cons m moves ih =>
    obtain ⟨s, hs⟩ := Option.ne_none_iff_exists'.mp
      (stays [m] (List.prefix_append [m] moves))
    have hkept : (t.step m).gateway.registry.resolve name = some r := by
      rw [← h.resolve_step hr hs]
      exact hs
    exact ih (h.step m) hkept fun before hb =>
      stays (m :: before) (List.cons_prefix_cons.mpr ⟨rfl, hb⟩)

/-- **A request for an open name** is given its resource, if it is told anything while the name
stays open. -/
theorem IsOrderly.shares (h : t.IsOrderly) {r : Resource}
    (hr : t.gateway.registry.resolve name = some r) {p q : Progress}
    (stood : t.standing ticket = some p) (hp : p.seeks? = some name)
    (hq : (t.step m).standing ticket = some q) : q.seeks? = some name ∨ q.Got r := by
  rcases sought_of_seeks stood hp hq with rfl | sought
  · exact .inl hp
  cases sought with
  | waits was place registry hub =>
    rw [was] at hp
    rw [place]
    exact .inl hp
  | found asks bound got registry frame =>
    rw [asks.seeks] at hp
    cases hp
    rw [hr] at bound
    cases bound
    exact .inr got
  | refused asks alone free missing told registry hub =>
    rw [asks.seeks] at hp
    cases hp
    rw [hr] at free
    cases free
  | created asks alone free known nextId count others ends =>
    rw [asks.seeks] at hp
    cases hp
    rw [hr] at free
    cases free
  | @opened r' f w was got registered others nextId frame =>
    rw [was] at hp
    cases hp
    rw [(h.opening ⟨r', f, w, by rw [stood, was], rfl⟩).2] at hr
    cases hr
  | @failed r' f w was told registry frame =>
    rw [was] at hp
    cases hp
    rw [(h.opening ⟨r', f, w, by rw [stood, was], rfl⟩).2] at hr
    cases hr

end

/-! ## Single flight -/

/-- What requests that look for a name can count on. -/
structure SingleFlight (t : Traffic) : Prop where
  /-- One channel at most is being opened for a name. -/
  single : ∀ name k k', t.Opening name k → t.Opening name k' → k = k'
  /-- It is being opened for a name that is not open. -/
  unregistered : ∀ name k, t.Opening name k → t.gateway.registry.resolve name = none
  /-- Channels are created one at a time, each for a name that is not open nor being opened. -/
  creates : ∀ m, t.Keeps m ∨ ∃ ticket request, t.Creates m ticket request
  /-- A request is given the resource that is registered at that moment, or told why there is
  none. -/
  returns : ∀ m ticket name p q, t.standing ticket = some p → p.seeks? = some name →
    (t.step m).standing ticket = some q → q.seeks? = some name ∨
      (∃ r, (t.step m).gateway.registry.resolve name = some r ∧ q.Got r) ∨
      q.Refused name ∨ q.Failed name
  /-- A request that is refused for want of a place consumes nothing, and nobody opens its name. -/
  refuses : ∀ m ticket name q, (t.step m).standing ticket = some q → q.Refused name →
    t.standing ticket = some q ∨ ∃ p request, t.standing ticket = some p ∧ p.Asks request ∧
      request.name = name ∧ request.address.isMissing = true ∧
      t.gateway.registry.resolve name = none ∧ (∀ k, ¬ t.Opening name k) ∧
      (t.step m).gateway.registry = t.gateway.registry ∧
      (t.step m).gateway.hub = t.gateway.hub
  /-- No request inherits a failure. -/
  fails : ∀ m ticket name q, (t.step m).standing ticket = some q → q.Failed name →
    t.standing ticket = some q ∨ t.Opening name ticket ∨
      ∃ request, request.name = name ∧ t.Creates m ticket request
  /-- When a request fails, the next one that waits for the gate tries for itself. -/
  retries : ∀ m ticket next rest name q,
    t.gateway.gates.tickets name = ticket :: next :: rest →
    (t.step m).standing ticket = some q → q.Failed name →
    (t.step m).gateway.gates.holds name next = true ∧
      (t.step m).gateway.registry.resolve name = none ∧
      (t.step m).standing next = t.standing next ∧
      ∀ request followup outside, t.standing next = some (.queued (.use request followup)) →
        request.address.isMissing = false →
        (t.step m).Creates (.advance next outside) next request
  /-- While a name stays open it keeps its resource: requests for it are given that one, and no
  channel is created for it. -/
  shares : ∀ name r moves m, t.gateway.registry.resolve name = some r →
    (∀ before, before <+: moves → (t.run before).gateway.registry.resolve name ≠ none) →
    (t.run moves).gateway.registry.resolve name = some r ∧
      (∀ ticket request, (t.run moves).Creates m ticket request → request.name ≠ name) ∧
      (∀ k, ¬ (t.run moves).Opening name k) ∧
      ∀ ticket p q, (t.run moves).standing ticket = some p → p.seeks? = some name →
        ((t.run moves).step m).standing ticket = some q → q.seeks? = some name ∨ q.Got r

theorem IsOrderly.retries {t : Traffic} (h : t.IsOrderly) {m : Move} {ticket next : Nat}
    {rest : List Nat} {name : String} {q : Progress}
    (waiting : t.gateway.gates.tickets name = ticket :: next :: rest)
    (hq : (t.step m).standing ticket = some q) (told : q.Failed name) :
    (t.step m).gateway.gates.holds name next = true ∧
      (t.step m).gateway.registry.resolve name = none ∧
      (t.step m).standing next = t.standing next ∧
      ∀ request followup outside, t.standing next = some (.queued (.use request followup)) →
        request.address.isMissing = false →
        (t.step m).Creates (.advance next outside) next request := by
  obtain ⟨htickets, hfree, hstands⟩ := h.next_of_failed waiting hq told
  have hturn : (t.step m).gateway.gates.holds name next = true := by
    rw [Gates.holds_iff, htickets]
    rfl
  refine ⟨hturn, hfree, hstands, fun request followup outside stood known => ?_⟩
  have hname : request.name = name := by
    have hgate := (Orderly.mem_tickets h name next).mp (by rw [waiting]; simp)
    rw [stood] at hgate
    exact Option.some.inj hgate
  subst hname
  exact (h.step m).tries (hstands.trans stood) hturn hfree known outside

theorem IsOrderly.singleFlight {t : Traffic} (h : t.IsOrderly) : t.SingleFlight where
  single _ _ _ ho ho' := h.opening_unique ho ho'
  unregistered _ _ ho := (h.opening ho).2
  creates := h.keeps_or_creates
  returns _ _ _ _ _ stood hp hq := Traffic.returns stood hp hq
  refuses _ _ _ _ hq told := h.refuses hq told
  fails _ _ _ _ hq told := h.fails hq told
  retries _ _ _ _ _ _ waiting hq told := h.retries waiting hq told
  shares name r moves m hr stays := by
    have hrun := h.run moves
    have hkept := h.resolve_run hr stays
    refine ⟨hkept, ?_, ?_, fun ticket p q stood hp hq => hrun.shares hkept stood hp hq⟩
    · rintro ticket request creates rfl
      rw [creates.free] at hkept
      cases hkept
    · intro k ho
      rw [(hrun.opening ho).2] at hkept
      cases hkept

/-- **Every run leaves a gateway where requests can count on single flight.** -/
theorem single_flight (config : GatewayConfig) (hub : Hub) (moves : List Move) :
    SingleFlight ((ofGateway (.ofConfig config hub)).run moves) :=
  (isOrderly_run config hub moves).singleFlight

end Traffic

end ChannelGateway
