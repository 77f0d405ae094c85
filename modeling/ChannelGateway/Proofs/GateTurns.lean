import ChannelGateway.Proofs.SharedLocks
import ChannelGateway.Proofs.Stages
import Mathlib.Data.Nat.Pairing

/-!
# Turns at the gates

Opening and closing a name is done by one call at a time, and every call has its turn. `Guarded`
says of a state what the gates promise at that moment, with the shared locks that the calls refer
to: a lock is entered for exactly the names that calls have tickets for, all of them are tickets for
that lock, and a call waits at it only while another one of the name is ahead. The call ahead waits
for no gate, so it is one that waits for its channel, or one that has been woken.

From this follows that nobody waits for ever, provided that time passes and that a call which could
go on is polled at some time (`Fair`). Tickets keep their order, so those ahead of a ticket only
become fewer (`behind_step`); the first of them goes on, comes nearer to its end each time, and
gives its ticket back. The proof is an induction on how many are ahead.

Results:
* `IsOrderly.guarded`: every state in order is guarded, with every table of locks that agrees.
* `leaves_gate`: whoever holds a gate leaves it.
* `has_turn`: whoever waits at a gate comes to hold it.
* **`gates_serve`**: every run is guarded, and in every fair one each call has its turn.
-/

namespace ChannelGateway

theorem Progress.gate_cases {p : Progress} {name : String} (h : p.gate? = some name) :
    (∃ job, p = .queued job ∧ job.name = name) ∨
      ∃ r f w, p = .opening r f w ∧ r.name = name := by
  cases p with
  | queued job => exact .inl ⟨job, rfl, Option.some.inj h⟩
  | opening r f w => exact .inr ⟨r, f, w, rfl, Option.some.inj h⟩
  | _ => cases h

theorem Table.eq_nil_of_get? {κ α : Type} [DecidableEq κ] {t : Table κ α}
    (h : ∀ k, t.get? k = none) : t = [] := by
  cases t with
  | nil => rfl
  | cons entry rest =>
    have hk := h entry.1
    rw [Table.get?_cons, if_pos rfl] at hk
    cases hk

namespace Gates

/-- A gate that is kept has tickets. -/
theorem isSome_get? {gates : Gates} (hkept : ∀ name, Table.get? gates name ≠ some [])
    (name : String) : (Table.get? gates name).isSome = true ↔ ∃ k, k ∈ gates.tickets name := by
  have hname := hkept name
  unfold tickets
  cases hg : Table.get? gates name with
  | none => simp
  | some tickets =>
    rw [hg] at hname
    have hne : tickets ≠ [] := fun he => hname (congrArg some he)
    simpa using List.exists_mem_of_ne_nil tickets hne

/-- Whose turn comes before that of a ticket, in order. -/
def Behind (gates : Gates) (name : String) (ticket : Nat) (ahead : List Nat) : Prop :=
  ∃ later, gates.tickets name = ahead ++ ticket :: later

theorem exists_behind {gates : Gates} {name : String} {ticket : Nat}
    (h : ticket ∈ gates.tickets name) : ∃ ahead, gates.Behind name ticket ahead :=
  List.append_of_mem h

theorem behind_nil_iff {gates : Gates} {name : String} {ticket : Nat} :
    gates.Behind name ticket [] ↔ gates.holds name ticket = true := by
  rw [holds_iff, List.head?_eq_some_iff]
  rfl

/-- **Those ahead of a ticket become fewer at most** by what happens to other tickets. -/
theorem Behind.perform {gates : Gates} {name : String} {ticket : Nat} {ahead : List Nat}
    (h : gates.Behind name ticket ahead) {e : GateEvent} (hne : e.ticket ≠ ticket) :
    ∃ fewer, List.Sublist fewer ahead ∧ (gates.perform e).Behind name ticket fewer := by
  obtain ⟨later, htickets⟩ := h
  cases e with
  | taken other k =>
    refine ⟨ahead, .refl _, ?_⟩
    unfold Behind Gates.perform
    rw [tickets_enter]
    split
    · rename_i hname
      exact ⟨later ++ [k], by rw [hname, htickets]; simp⟩
    · exact ⟨later, htickets⟩
  | returned other k =>
    have hk : k ≠ ticket := hne
    unfold Behind Gates.perform
    rw [tickets_leave]
    split
    · rename_i hname
      rw [hname, htickets, List.erase_append]
      split
      · exact ⟨ahead.erase k, List.erase_sublist, later, rfl⟩
      · exact ⟨ahead, .refl _, later.erase k,
          by rw [List.erase_cons_tail (by simpa using Ne.symm hk)]⟩
    · exact ⟨ahead, .refl _, later, htickets⟩

/-- Those ahead of a ticket after several events of other tickets. -/
theorem Behind.foldl {gates : Gates} {name : String} {ticket : Nat} {ahead : List Nat}
    (h : gates.Behind name ticket ahead) {events : List GateEvent}
    (hne : ∀ e ∈ events, e.ticket ≠ ticket) :
    ∃ fewer, List.Sublist fewer ahead ∧
      (events.foldl Gates.perform gates).Behind name ticket fewer := by
  induction events generalizing gates ahead with
  | nil => exact ⟨ahead, .refl _, h⟩
  | cons e events ih =>
    obtain ⟨fewer, hfewer, hbehind⟩ := h.perform (hne e List.mem_cons_self)
    obtain ⟨least, hleast, hlast⟩ := ih hbehind fun e' he' => hne e' (List.mem_cons_of_mem e he')
    exact ⟨least, hleast.trans hfewer, hlast⟩

end Gates

namespace Traffic

/-- What the gates promise at a moment, and the shared locks with them. -/
structure Guarded (t : Traffic) (locks : LockTable) : Prop where
  /-- A lock is entered for the names that calls have tickets for, and a gate is kept for them. -/
  entered : ∀ name, (locks.entries.get? name).isSome = true ↔
    ∃ k, (t.standing k).bind Progress.gate? = some name
  kept : ∀ name, (Table.get? t.gateway.gates name).isSome = true ↔
    ∃ k, (t.standing k).bind Progress.gate? = some name
  /-- The tickets that are out are those of the calls that stand at the gates. -/
  issued : ∀ name k, (∃ i ∈ locks.issued, i.name = name ∧ i.ticket = k) ↔
    (t.standing k).bind Progress.gate? = some name
  /-- All tickets of a name are for the lock that is entered for it, which is for no other name. -/
  shared : ∀ i ∈ locks.issued, locks.entries.get? i.name = some i.lock
  apart : ∀ i ∈ locks.issued, ∀ j ∈ locks.issued, i.lock = j.lock → i.name = j.name
  /-- There is one reference for each ticket at a lock, and one of the table. -/
  references : ∀ name lock, locks.entries.get? name = some lock →
    locks.references lock = (locks.queue lock).length + 1 ∧
      locks.queue lock = t.gateway.gates.tickets name ∧ (locks.queue lock).Nodup
  /-- Whoever has a channel on the way to a name holds the lock of the name. -/
  alone : ∀ k r f w, t.standing k = some (.opening r f w) →
    ∃ lock, locks.entries.get? r.name = some lock ∧ (locks.queue lock).head? = some k
  /-- Whoever holds a lock waits for nothing but its channel. -/
  holder : ∀ name lock k, locks.entries.get? name = some lock → (locks.queue lock).head? = some k →
    ∃ p, t.standing k = some p ∧ p.gate? = some name ∧
      ∀ outside, t.gateway.advance t.now (t.held outside) k p = none →
        ∃ r f w, p = .opening r f w ∧ t.now < w.due
  /-- A call that waits for a gate waits for another one of its name, which holds it. -/
  waits : ∀ k job outside, t.standing k = some (.queued job) →
    t.gateway.advance t.now (t.held outside) k (.queued job) = none →
      ∃ lock holder, locks.entries.get? job.name = some lock ∧
        (locks.queue lock).head? = some holder ∧ holder ≠ k
  /-- Without a call at a gate, there is no gate and no lock. -/
  idle : (∀ k, (t.standing k).bind Progress.gate? = none) →
    locks.entries = [] ∧ locks.issued = [] ∧ t.gateway.gates = []

/-- Whether a task goes on if it is polled. -/
def CanGoOn (t : Traffic) (k : Nat) : Prop :=
  ∃ u, t.task? k = some u ∧ u.canAdvance t.now t.gateway = true

/-- The traffic after so many moves of a schedule without end. -/
def after (t : Traffic) (schedule : Nat → Move) (n : Nat) : Traffic :=
  t.run ((List.range n).map schedule)

/-- Time passes without end, and a task that can go on from some moment on is polled. -/
structure Fair (t : Traffic) (schedule : Nat → Move) : Prop where
  passes : ∀ time, ∃ n, time ≤ (t.after schedule n).now
  polled : ∀ k n, (∀ m, n ≤ m → (t.after schedule m).CanGoOn k) →
    ∃ m, n ≤ m ∧ ∃ outside, schedule m = .advance k outside

/-! ## One moment -/

/-- A task that holds a gate goes on when its channel is due. -/
theorem goes_on {t : Traffic} {k : Nat} {p : Progress} {name : String}
    (hs : t.standing k = some p) (hgate : p.gate? = some name)
    (turn : t.gateway.gates.holds name k = true) (hdue : ∀ due, p.due? = some due → due ≤ t.now) :
    t.CanGoOn k ∧ ∀ outside, ∃ g' p',
      t.gateway.advance t.now (t.held outside) k p = some (g', p') ∧
        p'.remaining < p.remaining := by
  obtain ⟨u, hu, rfl⟩ := Option.map_eq_some_iff.mp hs
  have hticket := ticket_of_task? hu
  rcases Progress.gate_cases hgate with ⟨job, hp, rfl⟩ | ⟨r, f, w, hp, rfl⟩
  · refine ⟨⟨u, hu, ?_⟩, fun outside => ?_⟩
    · unfold Task.canAdvance
      rw [hp, hticket]
      exact turn
    · have hpass := Gateway.pass_piece t.now (t.held outside) turn
      exact ⟨_, _, by rw [hp]; exact if_pos turn, by
        rw [hp]; exact Gateway.piece_remaining hpass⟩
  · have hw : w.due ≤ t.now := hdue _ (by rw [hp]; rfl)
    refine ⟨⟨u, hu, ?_⟩, fun outside => ?_⟩
    · unfold Task.canAdvance
      rw [hp]
      simpa [Progress.due?] using hw
    · rw [hp]
      exact t.gateway.advance_due (t.held outside) k rfl hw

/-- A task that holds a gate and has to wait waits for its channel. -/
theorem IsOrderly.holder_waits {t : Traffic} (h : t.IsOrderly) {name : String} {k : Nat}
    (turn : t.gateway.gates.holds name k = true) :
    ∃ p, t.standing k = some p ∧ p.gate? = some name ∧
      ∀ outside, t.gateway.advance t.now (t.held outside) k p = none →
        ∃ r f w, p = .opening r f w ∧ t.now < w.due := by
  have hk : k ∈ t.gateway.gates.tickets name := List.mem_of_head? (Gates.holds_iff.mp turn)
  obtain ⟨p, hs, hgate⟩ := Option.bind_eq_some_iff.mp ((h.mem_tickets name k).mp hk)
  refine ⟨p, hs, hgate, fun outside hwait => ?_⟩
  have hstays : ¬ ∀ due, p.due? = some due → due ≤ t.now := by
    intro hdue
    obtain ⟨-, hgo⟩ := goes_on hs hgate turn hdue
    obtain ⟨g', p', ha, -⟩ := hgo outside
    rw [hwait] at ha
    cases ha
  rcases Progress.gate_cases hgate with ⟨job, rfl, rfl⟩ | ⟨r, f, w, rfl, rfl⟩
  · exact absurd nofun hstays
  · refine ⟨r, f, w, rfl, Nat.lt_of_not_le fun hdue => hstays fun due hd => ?_⟩
    cases hd
    exact hdue

/-- A task that waits for a gate does not hold it. -/
theorem ne_holder {t : Traffic} {k holder : Nat} {job : Job} {outside : Nat → Bool}
    (hwait : t.gateway.advance t.now (t.held outside) k (.queued job) = none)
    (turn : t.gateway.gates.holds job.name holder = true) : holder ≠ k := by
  rintro rfl
  simp only [Gateway.advance, turn, if_true] at hwait
  cases hwait

/-- Without a task at a gate no ticket is out. -/
theorem IsOrderly.tickets_eq_nil {t : Traffic} (h : t.IsOrderly)
    (hnone : ∀ k, (t.standing k).bind Progress.gate? = none) (name : String) :
    t.gateway.gates.tickets name = [] := by
  refine List.eq_nil_iff_forall_not_mem.mpr fun k hk => ?_
  rw [h.mem_tickets, hnone] at hk
  cases hk

/-- **Every state in order is guarded**, with every table of locks that agrees with its gates. -/
theorem IsOrderly.guarded {t : Traffic} (h : t.IsOrderly) {locks : LockTable}
    (hl : locks.Agrees t.gateway.gates) : t.Guarded locks := by
  have hmem : ∀ name k, k ∈ t.gateway.gates.tickets name ↔
      (t.standing k).bind Progress.gate? = some name := h.mem_tickets
  have hholds : ∀ {name lock k}, locks.entries.get? name = some lock →
      ((locks.queue lock).head? = some k ↔ t.gateway.gates.holds name k = true) := by
    intro name lock k he
    rw [hl.queue_eq he, Gates.holds_iff]
  have hentry : ∀ {name k}, k ∈ t.gateway.gates.tickets name →
      ∃ lock, locks.entries.get? name = some lock := fun hk =>
    Option.isSome_iff_exists.mp ((hl.isSome_iff _).mpr ⟨_, hk⟩)
  refine
    { entered := fun name => ?_
      kept := fun name => ?_
      issued := fun name k => ?_
      shared := fun i hi => hl.shared hi
      apart := fun i hi j hj hlock => hl.apart (hl.shared hi) (hlock ▸ hl.shared hj)
      references := fun name lock he => ?_
      alone := fun k r f w hs => ?_
      holder := fun name lock k he hhead => h.holder_waits ((hholds he).mp hhead)
      waits := fun k job outside hs hwait => ?_
      idle := fun hnone => ?_ }
  · simp only [hl.isSome_iff, hmem]
  · simp only [Gates.isSome_get? hl.kept, hmem]
  · rw [← hl.mem_tickets, hmem]
  · rw [hl.references_eq he, hl.queue_eq he]
    exact ⟨rfl, rfl, h.nodup name⟩
  · obtain ⟨lock, he⟩ := hentry (h.has_ticket hs rfl)
    exact ⟨lock, he, (hholds he).mpr (h.awaits hs).turn⟩
  · have hticket := h.has_ticket hs rfl
    obtain ⟨lock, he⟩ := hentry hticket
    obtain ⟨holder, hhead⟩ := Option.isSome_iff_exists.mp
      (List.isSome_head?.mpr (List.ne_nil_of_mem hticket))
    have turn := Gates.holds_iff.mpr hhead
    exact ⟨lock, holder, he, (hholds he).mpr turn, ne_holder hwait turn⟩
  · have htickets := h.tickets_eq_nil hnone
    refine ⟨hl.entries_eq_nil htickets, ?_, Table.eq_nil_of_get? fun name => ?_⟩
    · refine List.eq_nil_iff_forall_not_mem.mpr fun i hi => ?_
      have hk := hl.mem_tickets.mpr ⟨i, hi, rfl, rfl⟩
      rw [htickets] at hk
      cases hk
    · have hsome := Gates.isSome_get? hl.kept name
      rw [htickets] at hsome
      simpa using hsome

/-! ## Endless schedules -/

variable {t : Traffic} {schedule : Nat → Move}

theorem after_succ (t : Traffic) (schedule : Nat → Move) (n : Nat) :
    t.after schedule (n + 1) = (t.after schedule n).step (schedule n) := by
  unfold after
  rw [List.range_succ, List.map_append, run_append]
  rfl

theorem IsOrderly.after (h : t.IsOrderly) (schedule : Nat → Move) (n : Nat) :
    (t.after schedule n).IsOrderly :=
  h.run _

/-- Time does not go back. -/
theorem now_le_now_after (t : Traffic) (schedule : Nat → Move) {n m : Nat} (h : n ≤ m) :
    (t.after schedule n).now ≤ (t.after schedule m).now := by
  induction h with
  | refl => exact Nat.le_refl _
  | step _ ih =>
    rw [after_succ, now_step]
    exact Nat.le_trans ih (Nat.le_add_right _ _)

/-- A task at a gate goes on only when it is polled. -/
theorem step_at_gate {t : Traffic} {m : Move} {k : Nat} {p p' : Progress} {name : String}
    (hs : t.standing k = some p) (hgate : p.gate? = some name)
    (hs' : (t.step m).standing k = some p') :
    p' = p ∨ p'.remaining < p.remaining := by
  have hdone : ∀ outcome, p ≠ .done outcome := by
    rintro outcome rfl
    cases hgate
  cases t.step_change m with
  | removal taken gates standing frame =>
    rw [standing, hs] at hs'
    exact .inl (Option.some.inj hs').symm
  | @begins ticket job idle gateway standing =>
    rw [standing] at hs'
    by_cases hk : k = ticket
    · subst hk
      obtain ⟨outcome, rfl⟩ := idle hs
      exact absurd rfl (hdone outcome)
    · rw [Function.update_of_ne hk, hs] at hs'
      exact .inl (Option.some.inj hs').symm
  | @ends ticket q stood gateway standing =>
    rw [standing] at hs'
    by_cases hk : k = ticket
    · subst hk
      rw [Function.update_self] at hs'
      cases hs'
    · rw [Function.update_of_ne hk, hs] at hs'
      exact .inl (Option.some.inj hs').symm
  | @advances ticket outside q q' own stood advance standing =>
    rw [standing] at hs'
    by_cases hk : k = ticket
    · subst hk
      rw [hs] at stood
      cases stood
      rw [Function.update_self] at hs'
      cases hs'
      obtain hone | ⟨job, rfl, -⟩ := Gateway.advance_piece advance
      · exact .inr (Gateway.piece_remaining hone)
      · cases hgate
    · rw [Function.update_of_ne hk, hs] at hs'
      exact .inl (Option.some.inj hs').symm

theorem ticket_of_mem_gateEvents {g : Gateway} {ticket : Nat} {p p' : Progress} {e : GateEvent}
    (he : e ∈ g.gateEvents ticket p p') : e.ticket = ticket := by
  unfold Gateway.gateEvents at he
  split at he
  · cases he
  · rename_i name _
    have hcases : e = .taken name ticket ∨ e = .returned name ticket := by
      rcases List.mem_append.mp he with he | he <;> split at he <;> simp_all
    rcases hcases with rfl | rfl <;> rfl

theorem standing_cancel_self (t : Traffic) (ticket : Nat) :
    (t.cancel ticket).standing ticket = none := by
  unfold cancel
  cases hu : t.task? ticket with
  | none => simp [standing, hu]
  | some u =>
    dsimp only
    rw [standing_filter, Function.update_self]

/-- While a task stands at a gate, tickets are taken and given back by others. -/
theorem ticket_ne_of_at_gate {t : Traffic} {m : Move} {k : Nat} {p p' : Progress}
    (hs : t.standing k = some p) (hgate : p.gate?.isSome = true)
    (hs' : (t.step m).standing k = some p') (hgate' : p'.gate?.isSome = true)
    {e : GateEvent} (he : e ∈ t.gateEvents m) : e.ticket ≠ k := by
  rintro rfl
  cases m with
  | advance ticket outside =>
    simp only [gateEvents] at he
    split at he
    · cases he
    · split at he
      · cases he
      · rename_i q hq _ g' q' ha
        obtain rfl := ticket_of_mem_gateEvents he
        rw [hs] at hq
        cases hq
        have hstands := (advance_of_gateway hs ha).2
        simp only [step] at hs'
        rw [hstands, Function.update_self] at hs'
        cases hs'
        obtain ⟨name, hname⟩ := Option.isSome_iff_exists.mp hgate
        have hentrance : t.gateway.entrance? p = none := by
          cases hentrance : t.gateway.entrance? p with
          | none => rfl
          | some other =>
            rw [Gateway.gate?_of_entrance hentrance] at hname
            cases hname
        simp [Gateway.gateEvents, hentrance, hname, hgate'] at he
  | cancel ticket =>
    simp only [gateEvents] at he
    split at he
    · cases he
    · obtain rfl := List.mem_singleton.mp he
      simp only [step, GateEvent.ticket] at hs'
      rw [standing_cancel_self] at hs'
      cases hs'
  | _ => cases he

/-- **Those ahead of a task at a gate become fewer at most**, as long as it stands there. -/
theorem behind_step {t : Traffic} {m : Move} {k : Nat} {p p' : Progress} {name : String}
    (hs : t.standing k = some p) (hgate : p.gate?.isSome = true)
    (hs' : (t.step m).standing k = some p') (hgate' : p'.gate?.isSome = true) {ahead : List Nat}
    (h : t.gateway.gates.Behind name k ahead) :
    ∃ fewer, List.Sublist fewer ahead ∧ (t.step m).gateway.gates.Behind name k fewer := by
  have hne : ∀ e ∈ t.gateEvents m, e.ticket ≠ k := fun e he =>
    ticket_ne_of_at_gate hs hgate hs' hgate' he
  rw [gates_step]
  exact h.foldl hne

/-- A task that holds a gate holds it as long as it stands there. -/
theorem holds_step {t : Traffic} {m : Move} {k : Nat} {p p' : Progress} {name : String}
    (hs : t.standing k = some p) (hgate : p.gate?.isSome = true)
    (hs' : (t.step m).standing k = some p') (hgate' : p'.gate?.isSome = true)
    (turn : t.gateway.gates.holds name k = true) :
    (t.step m).gateway.gates.holds name k = true := by
  obtain ⟨fewer, hfewer, hbehind⟩ := behind_step hs hgate hs' hgate' (Gates.behind_nil_iff.mpr turn)
  rw [List.sublist_nil.mp hfewer] at hbehind
  exact Gates.behind_nil_iff.mp hbehind

/-- Where a task stands that does not leave the gate it holds: it still holds it, and has not moved
or come nearer to its end. -/
theorem holder_after (ht : t.IsOrderly) {k n : Nat} {p : Progress} {name : String}
    (hs : (t.after schedule n).standing k = some p)
    (turn : (t.after schedule n).gateway.gates.holds name k = true)
    (stays : ∀ m, n ≤ m → k ∈ (t.after schedule m).gateway.gates.tickets name) {m : Nat}
    (hm : n ≤ m) :
    (t.after schedule m).gateway.gates.holds name k = true ∧
      ∃ q, (t.after schedule m).standing k = some q ∧ q.gate? = some name ∧
        (q = p ∨ q.remaining < p.remaining) := by
  have stands : ∀ m, n ≤ m → ∃ q, (t.after schedule m).standing k = some q ∧ q.gate? = some name :=
    fun m hm =>
      Option.bind_eq_some_iff.mp (((ht.after schedule m).mem_tickets name k).mp (stays m hm))
  induction hm with
  | refl =>
    obtain ⟨q, hq, hgate⟩ := stands n (Nat.le_refl n)
    rw [hs] at hq
    cases hq
    exact ⟨turn, p, hs, hgate, .inl rfl⟩
  | @step m hm ih =>
    obtain ⟨hturn, q, hq, hgate, hnear⟩ := ih
    obtain ⟨q', hq', hgate'⟩ := stands (m + 1) (Nat.le_succ_of_le hm)
    rw [after_succ] at hq' ⊢
    refine ⟨holds_step hq (by rw [hgate]; rfl) hq' (by rw [hgate']; rfl) hturn, q', hq', hgate', ?_⟩
    rcases step_at_gate hq hgate hq' with rfl | hless
    · exact hnear
    · rcases hnear with rfl | hnear
      · exact .inr hless
      · exact .inr (Nat.lt_trans hless hnear)

/-- **A task that holds a gate moves**, if the schedule is fair. -/
theorem moves_on (fair : t.Fair schedule) {k n : Nat} {p : Progress} {name : String}
    (hgate : p.gate? = some name)
    (holds : ∀ m, n ≤ m → (t.after schedule m).gateway.gates.holds name k = true) :
    ∃ m, n ≤ m ∧ (t.after schedule m).standing k ≠ some p := by
  by_contra hstay
  have stays : ∀ m, n ≤ m → (t.after schedule m).standing k = some p := fun m hm =>
    Classical.byContradiction fun hne => hstay ⟨m, hm, hne⟩
  -- from some moment on its channel, if it waits for one, is due
  obtain ⟨start, hstart, hdue⟩ : ∃ start, n ≤ start ∧ ∀ m, start ≤ m → ∀ due, p.due? = some due →
      due ≤ (t.after schedule m).now := by
    cases hd : p.due? with
    | none => exact ⟨n, Nat.le_refl n, fun _ _ _ h => by cases h⟩
    | some due =>
      obtain ⟨i, hi⟩ := fair.passes due
      refine ⟨max n i, Nat.le_max_left n i, fun m hm _ h => ?_⟩
      cases h
      exact Nat.le_trans hi (t.now_le_now_after schedule (Nat.le_trans (Nat.le_max_right n i) hm))
  have hgo := fun m (hm : start ≤ m) =>
    goes_on (stays m (Nat.le_trans hstart hm)) hgate (holds m (Nat.le_trans hstart hm)) (hdue m hm)
  obtain ⟨m, hm, outside, hmove⟩ := fair.polled k start fun m hm => (hgo m hm).1
  obtain ⟨g', p', ha, hless⟩ := (hgo m hm).2 outside
  have hnm := Nat.le_trans hstart hm
  have hnext := stays (m + 1) (Nat.le_succ_of_le hnm)
  rw [after_succ, hmove] at hnext
  simp only [step] at hnext
  rw [(advance_of_gateway (stays m hnm) ha).2, Function.update_self] at hnext
  cases hnext
  exact Nat.lt_irrefl _ hless

/-- **Whoever holds a gate leaves it**, if the schedule is fair. -/
theorem leaves_gate (ht : t.IsOrderly) (fair : t.Fair schedule) {k n : Nat} {p : Progress}
    {name : String} (hs : (t.after schedule n).standing k = some p)
    (turn : (t.after schedule n).gateway.gates.holds name k = true) :
    ∃ m, n ≤ m ∧ k ∉ (t.after schedule m).gateway.gates.tickets name := by
  induction hd : p.remaining using Nat.strongRecOn generalizing n p with
  | _ d ih =>
    by_contra hnot
    have stays : ∀ m, n ≤ m → k ∈ (t.after schedule m).gateway.gates.tickets name := fun m hm =>
      Classical.byContradiction fun hout => hnot ⟨m, hm, hout⟩
    have hafter := fun m (hm : n ≤ m) => holder_after ht hs turn stays hm
    obtain ⟨-, q, hq, hgate, -⟩ := hafter n (Nat.le_refl n)
    rw [hs] at hq
    cases hq
    obtain ⟨m, hm, hmoved⟩ := moves_on fair hgate fun m hm => (hafter m hm).1
    obtain ⟨hturn, q, hq, -, hnear⟩ := hafter m hm
    rcases hnear with rfl | hless
    · exact hmoved hq
    · obtain ⟨m', hm', hout⟩ := ih q.remaining (hd ▸ hless) hq hturn rfl
      exact hout (stays m' (Nat.le_trans hm hm'))

/-- Where a call stands that never has its turn, and who is ahead of it. -/
theorem queued_after {k n : Nat} {job : Job} {ahead : List Nat}
    (hs : (t.after schedule n).standing k = some (.queued job))
    (hahead : (t.after schedule n).gateway.gates.Behind job.name k ahead)
    (stuck : ∀ m, n ≤ m → ∃ job', (t.after schedule m).standing k = some (.queued job')) {m : Nat}
    (hm : n ≤ m) :
    (t.after schedule m).standing k = some (.queued job) ∧
      ∃ fewer, List.Sublist fewer ahead ∧
        (t.after schedule m).gateway.gates.Behind job.name k fewer := by
  induction hm with
  | refl => exact ⟨hs, ahead, .refl _, hahead⟩
  | @step m hm ih =>
    obtain ⟨hq, fewer, hfewer, hbehind⟩ := ih
    obtain ⟨job', hq'⟩ := stuck (m + 1) (Nat.le_succ_of_le hm)
    rw [after_succ] at hq' ⊢
    obtain ⟨least, hleast, hlast⟩ := behind_step hq rfl hq' rfl hbehind
    refine ⟨?_, least, hleast.trans hfewer, hlast⟩
    rcases step_at_gate hq rfl hq' with he | hless
    · rw [hq', he]
    · exact absurd hless (Nat.lt_irrefl _)

/-- **A call that waits for a gate has its turn**, if the schedule is fair. -/
theorem has_turn (ht : t.IsOrderly) (fair : t.Fair schedule) {k n : Nat} {job : Job}
    {ahead : List Nat} (hs : (t.after schedule n).standing k = some (.queued job))
    (hahead : (t.after schedule n).gateway.gates.Behind job.name k ahead) :
    ∃ m, n ≤ m ∧ ∀ job', (t.after schedule m).standing k ≠ some (.queued job') := by
  induction hd : ahead.length using Nat.strongRecOn generalizing n ahead with
  | _ d ih =>
    by_contra hnot
    have stuck : ∀ m, n ≤ m → ∃ job', (t.after schedule m).standing k = some (.queued job') := by
      intro m hm
      by_contra hleft
      exact hnot ⟨m, hm, fun job' hq => hleft ⟨job', hq⟩⟩
    have hafter := fun m (hm : n ≤ m) => queued_after hs hahead stuck hm
    cases ahead with
    | nil =>
      -- it is its turn already
      have holds : ∀ m, n ≤ m → (t.after schedule m).gateway.gates.holds job.name k = true := by
        intro m hm
        obtain ⟨-, fewer, hfewer, hbehind⟩ := hafter m hm
        rw [List.sublist_nil.mp hfewer] at hbehind
        exact Gates.behind_nil_iff.mp hbehind
      obtain ⟨m, hm, hmoved⟩ := moves_on fair (p := .queued job) rfl holds
      exact hmoved (hafter m hm).1
    | cons first rest =>
      obtain ⟨later, htickets⟩ := hahead
      have turn : (t.after schedule n).gateway.gates.holds job.name first = true := by
        rw [Gates.holds_iff, htickets]
        rfl
      have hmem : first ∈ (t.after schedule n).gateway.gates.tickets job.name :=
        List.mem_of_head? (Gates.holds_iff.mp turn)
      obtain ⟨p, hp, -⟩ := Option.bind_eq_some_iff.mp
        (((ht.after schedule n).mem_tickets job.name first).mp hmem)
      obtain ⟨m, hm, hout⟩ := leaves_gate ht fair hp turn
      obtain ⟨hq, fewer, hfewer, hbehind⟩ := hafter m hm
      have hfirst : first ∉ fewer := by
        obtain ⟨later, htickets⟩ := hbehind
        intro hin
        rw [htickets] at hout
        exact hout (List.mem_append_left _ hin)
      have hrest : List.Sublist fewer rest := by
        cases hfewer with
        | cons _ h => exact h
        | cons_cons _ h => exact absurd List.mem_cons_self hfirst
      have hless : fewer.length < d := by
        rw [← hd]
        exact Nat.lt_succ_of_le hrest.length_le
      obtain ⟨m', hm', hleft⟩ := ih fewer.length hless hq hbehind rfl
      obtain ⟨job', hstill⟩ := stuck m' (Nat.le_trans hm hm')
      exact hleft job' hstill

/-- **The gates serve every call.** After every run from the beginning, with calls given up
anywhere, the gates keep their promises, and the shared locks that the run has taken and given back
agree with them; and in every endless schedule in which time passes and whoever can go on is polled,
a call that waits for a gate does not wait for ever. -/
theorem gates_serve (config : GatewayConfig) (hub : Hub) :
    (∀ moves, ((ofGateway (.ofConfig config hub)).run moves).Guarded
      (((ofGateway (.ofConfig config hub)).collect gateEvents moves).foldl LockTable.perform
        .empty)) ∧
    ∀ schedule, (ofGateway (.ofConfig config hub)).Fair schedule → ∀ n k job,
      ((ofGateway (.ofConfig config hub)).after schedule n).standing k = some (.queued job) →
        ∃ m, n ≤ m ∧ ∀ job',
          ((ofGateway (.ofConfig config hub)).after schedule m).standing k ≠
            some (.queued job') := by
  have ht : (ofGateway (.ofConfig config hub)).IsOrderly := isOrderly_ofGateway rfl .empty
  refine ⟨fun moves => (ht.run moves).guarded (locks_run ht .empty moves), ?_⟩
  intro schedule fair n k job hs
  obtain ⟨ahead, hahead⟩ := Gates.exists_behind ((ht.after schedule n).has_ticket hs rfl)
  exact has_turn ht fair hs hahead

/-- Two calls open a lamp. Time passes, and every task is polled again and again. The second call is
queued behind the first one, and has its turn. -/
theorem gates_serve_lamp :
    let lamp : Job := .use ⟨"lamp", .digitalOutput, ⟨0, 0⟩, 5000⟩ .nothing
    let schedule : Nat → Move := fun n =>
      match n with
      | 0 => .arrive 0 [lamp]
      | 1 => .arrive 1 [lamp]
      | n + 2 => if n % 2 = 0 then .wait 1 else .advance (Nat.unpair (n / 2)).1 fun _ => false
    let start := ofGateway (.ofConfig {} (.ofConfig { mode := .realistic } 0))
    start.Fair schedule ∧ ∃ job, (start.after schedule 8).standing 1 = some (.queued job) ∧
      ∃ m, 8 ≤ m ∧ ∀ job', (start.after schedule m).standing 1 ≠ some (.queued job') := by
  intro lamp schedule start
  have fair : start.Fair schedule := by
    refine ⟨fun time => ⟨2 * time + 2, ?_⟩, fun k n _ => ?_⟩
    · induction time with
      | zero => exact Nat.zero_le _
      | succ time ih =>
        have hwait : schedule (2 * time + 2) = .wait 1 := if_pos (by omega)
        have hnext := start.after_succ schedule (2 * time + 2)
        have hnow : (start.after schedule (2 * time + 3)).now =
            (start.after schedule (2 * time + 2)).now + 1 := by
          rw [hnext, hwait]
          rfl
        have hlater := start.now_le_now_after schedule (n := 2 * time + 3) (m := 2 * (time + 1) + 2)
          (by omega)
        omega
    · have hle := Nat.right_le_pair k n
      refine ⟨2 * Nat.pair k n + 3, by omega, fun _ => false, ?_⟩
      have hodd : ¬ (2 * Nat.pair k n + 1) % 2 = 0 := by omega
      have hhalf : (2 * Nat.pair k n + 1) / 2 = Nat.pair k n := by omega
      have hpoll : schedule (2 * Nat.pair k n + 3) =
          .advance (Nat.unpair ((2 * Nat.pair k n + 1) / 2)).1 fun _ => false := if_neg hodd
      rw [hpoll, hhalf, Nat.unpair_pair]
  have hqueued : ((start.after schedule 8).standing 1).any (fun p =>
      match p with
      | .queued _ => true
      | _ => false) = true := by decide +kernel
  obtain ⟨p, hp, hmatch⟩ := (Option.any_eq_true _ _).mp hqueued
  obtain ⟨job, rfl⟩ : ∃ job, p = .queued job := by
    cases p with
    | queued job => exact ⟨job, rfl⟩
    | _ => cases hmatch
  obtain ⟨-, serve⟩ := gates_serve {} (.ofConfig { mode := .realistic } 0)
  exact ⟨fair, job, hp, serve schedule fair 8 1 job hp⟩

end Traffic

end ChannelGateway
