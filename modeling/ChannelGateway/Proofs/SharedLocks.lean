import ChannelGateway.Proofs.Dispatch
import ChannelGateway.Proofs.Orderly
import Mathlib.Data.List.Nodup

/-!
# Gates as shared locks

`Gates` keeps the tickets of a name under the name. A `LockTable` keeps locks that are shared by
reference instead: it enters one lock for each name, every ticket refers to the lock that it was
issued for, and a ticket that is given back takes the entry away if it finds exactly two references
to its lock, the one of the table and its own. Nothing in `LockTable` asks whether another ticket of
the name is out, so what has to be shown is that counting references amounts to the same.

A run is read as the tickets it takes and gives back, in order (`Traffic.gateEvents`), and the same
events are performed on both tables.

Results:
* `Agrees.references_eq`: the references to the lock of a name are one more than its tickets.
* `Agrees.take`, `Agrees.giveBack`: both operations keep the two tables in agreement.
* `Gateway.gates_advance`: the tickets that a request takes and gives back make its gates.
* **`Traffic.locks_run`**: the shared locks agree with the gates after every run.
-/

namespace ChannelGateway

/-- A ticket that has been issued. -/
structure IssuedTicket where
  ticket : Nat
  name : String
  /-- The lock that the ticket refers to. -/
  lock : Nat
  deriving DecidableEq, Repr

/-- Locks that are shared by reference. -/
structure LockTable where
  /-- The lock that is entered for each name. -/
  entries : Table String Nat
  /-- The tickets that have been issued and not given back, in order of arrival. -/
  issued : List IssuedTicket
  /-- How many locks have been made. -/
  made : Nat
  deriving Repr

namespace LockTable

/-- No lock, and no ticket. -/
def empty : LockTable := ⟨[], [], 0⟩

/-- How many references there are to a lock. -/
def references (t : LockTable) (lock : Nat) : Nat :=
  t.entries.values.count lock + t.issued.countP (·.lock = lock)

/-- The tickets at a lock in order of arrival; the first one holds it. -/
def queue (t : LockTable) (lock : Nat) : List Nat :=
  (t.issued.filter (·.lock = lock)).map IssuedTicket.ticket

/-- The tickets for a name in order of arrival. -/
def tickets (t : LockTable) (name : String) : List Nat :=
  (t.issued.filter (·.name = name)).map IssuedTicket.ticket

/-- Issue a ticket for the lock of a name, which is made if the name has none. -/
def take (t : LockTable) (name : String) (ticket : Nat) : LockTable :=
  match t.entries.get? name with
  | some lock => { t with issued := t.issued ++ [⟨ticket, name, lock⟩] }
  | none =>
    { entries := t.entries.insert name t.made
      issued := t.issued ++ [⟨ticket, name, t.made⟩]
      made := t.made + 1 }

/-- Give a ticket back. With two references to its lock, nobody else has a ticket for it. -/
def giveBack (t : LockTable) (ticket : Nat) : LockTable :=
  match t.issued.find? (·.ticket = ticket) with
  | none => t
  | some i =>
    { t with
      entries := if t.references i.lock = 2 then t.entries.erase i.name else t.entries
      issued := t.issued.filter (·.ticket ≠ ticket) }

/-- The locks and the gates tell the same of every name. -/
structure Agrees (t : LockTable) (gates : Gates) : Prop where
  distinct : t.entries.Distinct
  apart : ∀ {name other lock}, t.entries.get? name = some lock →
    t.entries.get? other = some lock → name = other
  made : ∀ {name lock}, t.entries.get? name = some lock → lock < t.made
  single : (t.issued.map IssuedTicket.ticket).Nodup
  shared : ∀ {i}, i ∈ t.issued → t.entries.get? i.name = some i.lock
  used : ∀ {name lock}, t.entries.get? name = some lock → ∃ i ∈ t.issued, i.name = name
  tickets_eq : ∀ name, gates.tickets name = t.tickets name
  kept : ∀ name, Table.get? gates name ≠ some []

namespace Agrees

variable {t : LockTable} {gates : Gates} {name : String} {ticket lock : Nat}

theorem empty : Agrees .empty [] where
  distinct := .nil
  apart h := by cases h
  made h := by cases h
  single := List.nodup_nil
  shared h := by cases h
  used h := by cases h
  tickets_eq _ := rfl
  kept _ h := by cases h

theorem mem_tickets (h : t.Agrees gates) :
    ticket ∈ gates.tickets name ↔ ∃ i ∈ t.issued, i.name = name ∧ i.ticket = ticket := by
  simp [h.tickets_eq, LockTable.tickets, and_assoc]

theorem nodup_tickets (h : t.Agrees gates) (name : String) : (gates.tickets name).Nodup := by
  rw [h.tickets_eq]
  exact h.single.sublist (List.filter_sublist.map _)

/-- A ticket is out once. -/
theorem eq_of_ticket (h : t.Agrees gates) {i j : IssuedTicket} (hi : i ∈ t.issued)
    (hj : j ∈ t.issued) (hticket : i.ticket = j.ticket) : i = j :=
  List.inj_on_of_nodup_map h.single hi hj hticket

/-- A ticket refers to the lock of a name if it is a ticket of the name. -/
theorem lock_iff (h : t.Agrees gates) (he : t.entries.get? name = some lock) {i : IssuedTicket}
    (hi : i ∈ t.issued) : i.lock = lock ↔ i.name = name := by
  have hshared := h.shared hi
  constructor
  · rintro rfl
    exact h.apart hshared he
  · rintro rfl
    rw [hshared] at he
    exact Option.some.inj he

/-- **Everybody at the gate of a name is at the lock that is entered for it**, in the same order. -/
theorem queue_eq (h : t.Agrees gates) (he : t.entries.get? name = some lock) :
    t.queue lock = gates.tickets name := by
  rw [h.tickets_eq, queue, LockTable.tickets]
  congr 1
  refine List.filter_congr fun i hi => ?_
  simp [h.lock_iff he hi]

/-- A lock is entered once. -/
theorem count_values (h : t.Agrees gates) (he : t.entries.get? name = some lock) :
    t.entries.values.count lock = 1 := by
  have hentries : t.entries.Nodup := List.Nodup.of_map Prod.fst h.distinct
  have hvalues : t.entries.values.Nodup := by
    refine hentries.map_on fun a ha b hb hlock => ?_
    have hname := h.apart (Table.get?_of_mem h.distinct ha)
      (hlock ▸ Table.get?_of_mem h.distinct hb)
    exact Prod.ext hname hlock
  exact List.count_eq_one_of_mem hvalues
    (List.mem_map.mpr ⟨(name, lock), Table.mem_of_get? he, rfl⟩)

/-- **The references to the lock of a name are one more than its tickets.** -/
theorem references_eq (h : t.Agrees gates) (he : t.entries.get? name = some lock) :
    t.references lock = (gates.tickets name).length + 1 := by
  have hqueue : (t.queue lock).length = t.issued.countP (·.lock = lock) := by
    rw [queue, List.length_map, List.countP_eq_length_filter]
  rw [references, h.count_values he, ← hqueue, h.queue_eq he, Nat.add_comm]

/-- A lock is entered for the names that have tickets. -/
theorem isSome_iff (h : t.Agrees gates) (name : String) :
    (t.entries.get? name).isSome = true ↔ ∃ ticket, ticket ∈ gates.tickets name := by
  constructor
  · intro hsome
    obtain ⟨lock, he⟩ := Option.isSome_iff_exists.mp hsome
    obtain ⟨i, hi, hname⟩ := h.used he
    exact ⟨i.ticket, h.mem_tickets.mpr ⟨i, hi, hname, rfl⟩⟩
  · rintro ⟨ticket, hticket⟩
    obtain ⟨i, hi, rfl, -⟩ := h.mem_tickets.mp hticket
    rw [h.shared hi]
    rfl

/-- No lock is entered while nobody has a ticket. -/
theorem entries_eq_nil (h : t.Agrees gates) (hnone : ∀ name, gates.tickets name = []) :
    t.entries = [] := by
  refine List.eq_nil_iff_forall_not_mem.mpr fun ⟨name, lock⟩ hmem => ?_
  have hsome : (t.entries.get? name).isSome = true := by
    rw [Table.get?_of_mem h.distinct hmem]
    rfl
  obtain ⟨ticket, hticket⟩ := (h.isSome_iff name).mp hsome
  rw [hnone] at hticket
  cases hticket

/-! ## Taking and giving back -/

/-- Tickets stay single when one is issued that is not out. -/
theorem single_append (h : t.Agrees gates) (fresh : ∀ other, ticket ∉ gates.tickets other) :
    ((t.issued ++ [(⟨ticket, name, lock⟩ : IssuedTicket)]).map IssuedTicket.ticket).Nodup := by
  rw [List.map_append, List.nodup_append]
  refine ⟨h.single, by simp, ?_⟩
  rintro a ha b hb rfl
  obtain ⟨i, hi, rfl⟩ := List.mem_map.mp ha
  obtain rfl : i.ticket = ticket := by simpa using hb
  exact fresh i.name (h.mem_tickets.mpr ⟨i, hi, rfl, rfl⟩)

/-- The tickets of each name when one is issued. -/
theorem tickets_append (h : t.Agrees gates) (entries : Table String Nat) (made : Nat)
    (other : String) :
    (gates.enter name ticket).tickets other =
      LockTable.tickets ⟨entries, t.issued ++ [⟨ticket, name, lock⟩], made⟩ other := by
  rw [Gates.tickets_enter, LockTable.tickets, List.filter_append, List.map_append]
  have htickets := h.tickets_eq
  unfold LockTable.tickets at htickets
  rw [← htickets]
  by_cases hname : name = other <;> simp [hname]

/-- A ticket for the lock that is entered for its name. -/
theorem issue_old (h : t.Agrees gates) (he : t.entries.get? name = some lock)
    (fresh : ∀ other, ticket ∉ gates.tickets other) :
    Agrees { t with issued := t.issued ++ [⟨ticket, name, lock⟩] } (gates.enter name ticket) where
  distinct := h.distinct
  apart := h.apart
  made := h.made
  single := h.single_append fresh
  shared {i} hi := by
    rcases List.mem_append.mp hi with hi | hi
    · exact h.shared hi
    · obtain rfl := List.mem_singleton.mp hi
      exact he
  used hother := by
    obtain ⟨i, hi, hname⟩ := h.used hother
    exact ⟨i, List.mem_append_left _ hi, hname⟩
  tickets_eq := h.tickets_append _ _
  kept := Gates.kept_enter h.kept name ticket

/-- A ticket for a lock that is made for it. -/
theorem issue_new (h : t.Agrees gates) (he : t.entries.get? name = none)
    (fresh : ∀ other, ticket ∉ gates.tickets other) :
    Agrees ⟨t.entries.insert name t.made, t.issued ++ [⟨ticket, name, t.made⟩], t.made + 1⟩
      (gates.enter name ticket) where
  distinct := h.distinct.insert name t.made
  apart {a b lock} ha hb := by
    -- the new lock is none of the old ones
    rw [Table.get?_insert] at ha hb
    split at ha <;> split at hb
    · rename_i hna hnb
      exact hna.symm.trans hnb
    · cases ha
      exact absurd (h.made hb) (Nat.lt_irrefl _)
    · cases hb
      exact absurd (h.made ha) (Nat.lt_irrefl _)
    · exact h.apart ha hb
  made {other lock} hother := by
    rw [Table.get?_insert] at hother
    split at hother
    · cases hother
      exact Nat.lt_succ_self _
    · exact Nat.lt_succ_of_lt (h.made hother)
  single := h.single_append fresh
  shared {i} hi := by
    rw [Table.get?_insert]
    rcases List.mem_append.mp hi with hi | hi
    · have hshared := h.shared hi
      rw [if_neg, hshared]
      intro hname
      rw [← hname, he] at hshared
      cases hshared
    · obtain rfl := List.mem_singleton.mp hi
      exact if_pos rfl
  used {other lock} hother := by
    rw [Table.get?_insert] at hother
    split at hother
    · rename_i hname
      exact ⟨_, List.mem_append_right _ (List.mem_singleton_self _), hname⟩
    · obtain ⟨i, hi, hname⟩ := h.used hother
      exact ⟨i, List.mem_append_left _ hi, hname⟩
  tickets_eq := h.tickets_append _ _
  kept := Gates.kept_enter h.kept name ticket

/-- **Taking a ticket keeps the agreement**, if the ticket is not out. -/
theorem take (h : t.Agrees gates) (fresh : ∀ other, ticket ∉ gates.tickets other) :
    (t.take name ticket).Agrees (gates.enter name ticket) := by
  unfold LockTable.take
  cases he : t.entries.get? name with
  | some lock => exact h.issue_old he fresh
  | none => exact h.issue_new he fresh

/-- The tickets of each name when one is given back. -/
theorem tickets_filter (h : t.Agrees gates) (hmem : ticket ∈ gates.tickets name)
    (entries : Table String Nat) (other : String) :
    (gates.leave name ticket).tickets other =
      LockTable.tickets ⟨entries, t.issued.filter (·.ticket ≠ ticket), t.made⟩ other := by
  obtain ⟨i, hi, rfl, rfl⟩ := h.mem_tickets.mp hmem
  rw [Gates.tickets_leave]
  split
  · rename_i hname
    subst hname
    rw [(h.nodup_tickets i.name).erase_eq_filter, h.tickets_eq, LockTable.tickets,
      LockTable.tickets, List.filter_map, List.filter_filter, List.filter_filter]
    congr 1
    refine List.filter_congr fun j _ => ?_
    simp [Bool.and_comm, bne, beq_eq_decide]
  · rename_i hname
    rw [h.tickets_eq, LockTable.tickets, LockTable.tickets, List.filter_filter]
    congr 1
    refine List.filter_congr fun j hj => ?_
    by_cases hother : j.name = other
    · have hne : j.ticket ≠ i.ticket := fun he => hname (h.eq_of_ticket hj hi he ▸ hother)
      simp [hother, hne]
    · simp [hother]

/-- The entries that are left when a ticket has been given back are those of the names that still
have tickets. -/
theorem get?_giveBack (h : t.Agrees gates) {i : IssuedTicket} (hi : i ∈ t.issued)
    (other : String) :
    (if t.references i.lock = 2 then t.entries.erase i.name else t.entries).get? other =
      if (gates.leave i.name i.ticket).tickets other = [] then none
      else t.entries.get? other := by
  have hmem := h.mem_tickets.mpr ⟨i, hi, rfl, rfl⟩
  have hlength := List.length_erase_of_mem hmem
  rw [Gates.tickets_leave]
  by_cases hname : i.name = other
  · subst hname
    have hpos := List.length_pos_of_mem hmem
    have hcount := h.references_eq (h.shared hi)
    have hiff : (gates.tickets i.name).erase i.ticket = [] ↔ t.references i.lock = 2 := by
      rw [← List.length_eq_zero_iff]
      omega
    by_cases hlast : t.references i.lock = 2
    · simp [hlast, hiff, Table.get?_erase]
    · simp [hlast, hiff]
  · have hsame :
        (if t.references i.lock = 2 then t.entries.erase i.name else t.entries).get? other =
        t.entries.get? other := by
      split
      · rw [Table.get?_erase, if_neg hname]
      · rfl
    rw [if_neg hname, hsame]
    split
    · rename_i hempty
      have hnone := h.isSome_iff other
      rw [hempty] at hnone
      simpa using hnone
    · rfl

/-- A ticket is found under its number. -/
theorem find?_issued (h : t.Agrees gates) {i : IssuedTicket} (hi : i ∈ t.issued) :
    t.issued.find? (·.ticket = i.ticket) = some i := by
  cases hf : t.issued.find? (·.ticket = i.ticket) with
  | none => exact absurd (List.find?_eq_none.mp hf i hi) (by simp)
  | some j =>
    have hticket : j.ticket = i.ticket := by simpa using List.find?_some hf
    rw [h.eq_of_ticket (List.mem_of_find?_eq_some hf) hi hticket]

/-- **Giving a ticket back keeps the agreement.** -/
theorem giveBack (h : t.Agrees gates) (hmem : ticket ∈ gates.tickets name) :
    (t.giveBack ticket).Agrees (gates.leave name ticket) := by
  obtain ⟨i, hi, rfl, rfl⟩ := h.mem_tickets.mp hmem
  have hget := h.get?_giveBack hi
  have htickets := h.tickets_filter hmem
    (if t.references i.lock = 2 then t.entries.erase i.name else t.entries)
  unfold LockTable.giveBack
  rw [h.find?_issued hi]
  dsimp only
  generalize hentries : (if t.references i.lock = 2 then t.entries.erase i.name else t.entries) =
    entries at hget htickets ⊢
  have hold : ∀ {other lock}, entries.get? other = some lock →
      (gates.leave i.name i.ticket).tickets other ≠ [] ∧ t.entries.get? other = some lock := by
    intro other lock hother
    rw [hget] at hother
    split at hother
    · cases hother
    · rename_i hsome
      exact ⟨hsome, hother⟩
  refine
    { distinct := ?_
      apart := fun ha hb => h.apart (hold ha).2 (hold hb).2
      made := fun hother => h.made (hold hother).2
      single := h.single.sublist (List.filter_sublist.map _)
      shared := ?_
      used := ?_
      tickets_eq := htickets
      kept := Gates.kept_leave h.kept i.name i.ticket }
  · rw [← hentries]
    split
    · exact h.distinct.erase _
    · exact h.distinct
  · intro j hj
    have hmem' : j.ticket ∈ (gates.leave i.name i.ticket).tickets j.name := by
      rw [htickets]
      exact List.mem_map_of_mem (List.mem_filter.mpr ⟨hj, by simp⟩)
    rw [hget, if_neg (List.ne_nil_of_mem hmem')]
    exact h.shared (List.mem_filter.mp hj).1
  · intro other lock hother
    obtain ⟨k, hk⟩ := List.exists_mem_of_ne_nil _ (hold hother).1
    rw [htickets] at hk
    obtain ⟨j, hj, -⟩ := List.mem_map.mp hk
    obtain ⟨hj, hname⟩ := List.mem_filter.mp hj
    exact ⟨j, hj, by simpa using hname⟩

end Agrees

end LockTable

/-! ## What a run does to the gates -/

/-- A ticket is taken for the gate of a name, or given back. -/
inductive GateEvent where
  | taken (name : String) (ticket : Nat)
  | returned (name : String) (ticket : Nat)
  deriving DecidableEq, Repr

/-- The ticket of an event. -/
def GateEvent.ticket : GateEvent → Nat
  | taken _ ticket => ticket
  | returned _ ticket => ticket

/-- What an event does to the gates. -/
def Gates.perform (gates : Gates) : GateEvent → Gates
  | .taken name ticket => gates.enter name ticket
  | .returned name ticket => gates.leave name ticket

/-- What an event does to the shared locks. -/
def LockTable.perform (t : LockTable) : GateEvent → LockTable
  | .taken name ticket => t.take name ticket
  | .returned _ ticket => t.giveBack ticket

namespace Gateway

/-- The name for whose gate a request takes a ticket when it begins; none when it uses a name that
is open. -/
def entrance? (g : Gateway) : Progress → Option String
  | .ready (.use request _) =>
    if (g.registry.resolve request.name).isSome then none else some request.name
  | .ready (.close name) => some name
  | _ => none

/-- What a request does to the gates when it goes from one place to another. -/
def gateEvents (g : Gateway) (ticket : Nat) (p p' : Progress) : List GateEvent :=
  match (g.entrance? p).or p.gate? with
  | none => []
  | some name =>
    (if (g.entrance? p).isSome then [.taken name ticket] else []) ++
      if p'.gate?.isSome then [] else [.returned name ticket]

variable {g g' : Gateway} {now ticket : Nat} {held : Nat → Bool} {p p' : Progress}

/-- A request that stands at a gate stays at it, or gives its ticket back. -/
theorem piece_gates {name : String} (hgate : p.gate? = some name)
    (hp : g.Piece now held ticket p g' p') :
    g'.gates = if p'.gate?.isSome then g.gates else g.gates.leave name ticket := by
  cases hp with
  | enter job => cases hgate
  | reuse found => cases hgate
  | written due result => cases hgate
  | unwritten due result => cases hgate
  | join turn found =>
    cases hgate
    rw [gates_follow, gate?_follow]
    rfl
  | createOpen turn free known attempt =>
    cases hgate
    rw [gates_register, gate?_register]
    rfl
  | attached due result =>
    cases hgate
    rw [gates_register, gate?_register]
    rfl
  | _ =>
    cases hgate
    rfl

/-- A request that takes a ticket keeps it, or gives it back at once. -/
theorem gates_queue (g : Gateway) (now : Nat) (held : Nat → Bool) (ticket : Nat) (job : Job) :
    (g.queue now held ticket job).1.gates =
      if (g.queue now held ticket job).2.gate?.isSome then g.gates.enter job.name ticket
      else (g.gates.enter job.name ticket).leave job.name ticket := by
  unfold queue
  dsimp only
  split
  · rename_i turn
    exact piece_gates (p := .queued job) rfl (pass_piece now held turn)
  · rfl

/-- A request that stands at no gate and takes no ticket leaves the gates alone. -/
theorem gates_of_outside (hentrance : g.entrance? p = none) (hgate : p.gate? = none)
    (ha : g.advance now held ticket p = some (g', p')) :
    g'.gates = g.gates := by
  cases p with
  | ready job =>
    cases job with
    | close name => cases hentrance
    | use request followup =>
      cases hr : g.registry.resolve request.name with
      | none => simp [entrance?, hr] at hentrance
      | some r =>
        simp only [advance, begin, hr, Option.some.injEq] at ha
        have hgates := g.gates_follow now r followup
        rwa [ha] at hgates
  | writing r w =>
    obtain hone | ⟨job, hjob, -⟩ := advance_piece ha
    · cases hone <;> rfl
    · cases hjob
  | done outcome => cases ha
  | _ => cases hgate

/-- A request that takes a ticket when it begins does so before anything else. -/
theorem advance_entrance {name : String} (hentrance : g.entrance? p = some name)
    (ha : g.advance now held ticket p = some (g', p')) :
    ∃ job, job.name = name ∧ g.queue now held ticket job = (g', p') := by
  cases p with
  | ready job =>
    cases job with
    | close other =>
      cases hentrance
      exact ⟨.close name, rfl, Option.some.inj ha⟩
    | use request followup =>
      cases hr : g.registry.resolve request.name with
      | some r => simp [entrance?, hr] at hentrance
      | none =>
        have hname : request.name = name := by simpa [entrance?, hr] using hentrance
        refine ⟨.use request followup, hname, ?_⟩
        simpa [advance, begin, hr] using ha
  | _ => cases hentrance

theorem gate?_of_entrance {name : String} (h : g.entrance? p = some name) : p.gate? = none := by
  cases p with
  | ready job => rfl
  | _ => cases h

/-- **The tickets that a request takes and gives back make its gates.** -/
theorem gates_advance (ha : g.advance now held ticket p = some (g', p')) :
    g'.gates = (g.gateEvents ticket p p').foldl Gates.perform g.gates := by
  unfold gateEvents
  cases hentrance : g.entrance? p with
  | some name =>
    obtain ⟨job, rfl, hq⟩ := advance_entrance hentrance ha
    have hgates := g.gates_queue now held ticket job
    rw [hq] at hgates
    rw [hgates]
    cases p'.gate? <;> rfl
  | none =>
    cases hgate : p.gate? with
    | none => exact gates_of_outside hentrance hgate ha
    | some name =>
      obtain hone | ⟨job, rfl, -⟩ := advance_piece ha
      · rw [piece_gates hgate hone]
        cases p'.gate? <;> rfl
      · cases hgate

end Gateway

namespace Traffic

/-- What a move does to the gates: the request of a task goes on, or is given up at a gate. -/
def gateEvents (t : Traffic) : Move → List GateEvent
  | .advance ticket outside =>
    match t.standing ticket with
    | none => []
    | some p =>
      match t.gateway.advance t.now (t.held outside) ticket p with
      | none => []
      | some (_, p') => t.gateway.gateEvents ticket p p'
  | .cancel ticket =>
    match (t.standing ticket).bind Progress.gate? with
    | none => []
    | some name => [.returned name ticket]
  | _ => []

/-- A ticket is taken by a task that has none. -/
theorem IsOrderly.fresh {t : Traffic} (h : t.IsOrderly) {ticket : Nat} {p : Progress}
    (hs : t.standing ticket = some p) (hp : p.gate? = none) (name : String) :
    ticket ∉ t.gateway.gates.tickets name := by
  rw [h.mem_tickets, hs, Option.bind_some, hp]
  exact nofun

/-- A task that stands at a gate has a ticket for it. -/
theorem IsOrderly.has_ticket {t : Traffic} (h : t.IsOrderly) {ticket : Nat} {p : Progress}
    {name : String} (hs : t.standing ticket = some p) (hp : p.gate? = some name) :
    ticket ∈ t.gateway.gates.tickets name := by
  rw [h.mem_tickets, hs, Option.bind_some, hp]

/-- What a request does to the gates keeps the agreement. -/
theorem IsOrderly.agrees_gateEvents {t : Traffic} (h : t.IsOrderly) {ticket : Nat}
    {p : Progress} (hs : t.standing ticket = some p) (p' : Progress) {locks : LockTable}
    (hl : locks.Agrees t.gateway.gates) :
    ((t.gateway.gateEvents ticket p p').foldl LockTable.perform locks).Agrees
      ((t.gateway.gateEvents ticket p p').foldl Gates.perform t.gateway.gates) := by
  unfold Gateway.gateEvents
  cases hentrance : t.gateway.entrance? p with
  | some name =>
    have htaken : (locks.take name ticket).Agrees (t.gateway.gates.enter name ticket) :=
      hl.take (h.fresh hs (Gateway.gate?_of_entrance hentrance))
    have hmem : ticket ∈ (t.gateway.gates.enter name ticket).tickets name := by
      rw [Gates.tickets_enter, if_pos rfl]
      exact List.mem_append_right _ (List.mem_singleton_self ticket)
    cases p'.gate? with
    | some at_gate => exact htaken
    | none => exact htaken.giveBack hmem
  | none =>
    cases hgate : p.gate? with
    | none => exact hl
    | some name =>
      cases p'.gate? with
      | some at_gate => exact hl
      | none => exact hl.giveBack (h.has_ticket hs hgate)

/-- A task that cannot go on leaves the gateway alone. -/
theorem gateway_advance_of_waits {t : Traffic} {ticket : Nat} {outside : Nat → Bool}
    (waits : ∀ p, t.standing ticket = some p →
      t.gateway.advance t.now (t.held outside) ticket p = none) :
    (t.advance ticket outside).gateway = t.gateway := by
  rcases t.advance_cases ticket outside with
    he | ⟨outcome, job, hs, hg, -⟩ | ⟨p, g, p', hs, ha, hg, -⟩
  · rw [he]
  · exact hg
  · rw [waits p hs] at ha
    cases ha

theorem gateway_cancel (t : Traffic) (ticket : Nat) :
    (t.cancel ticket).gateway =
      match t.standing ticket with
      | none => t.gateway
      | some p => t.gateway.cancel ticket p := by
  unfold cancel standing
  cases t.task? ticket <;> rfl

/-- All that a task does to the gates when it goes on. -/
theorem gates_advance (t : Traffic) (ticket : Nat) (outside : Nat → Bool) :
    (t.advance ticket outside).gateway.gates =
      (t.gateEvents (.advance ticket outside)).foldl Gates.perform t.gateway.gates := by
  simp only [gateEvents]
  cases hs : t.standing ticket with
  | none =>
    rw [gateway_advance_of_waits (by simp [hs])]
    rfl
  | some p =>
    dsimp only
    cases ha : t.gateway.advance t.now (t.held outside) ticket p with
    | none =>
      rw [gateway_advance_of_waits (by simp [hs, ha])]
      rfl
    | some result =>
      obtain ⟨g, p'⟩ := result
      rw [(advance_of_gateway hs ha).1, Gateway.gates_advance ha]

/-- **All that a move does to the gates.** -/
theorem gates_step (t : Traffic) (m : Move) :
    (t.step m).gateway.gates = (t.gateEvents m).foldl Gates.perform t.gateway.gates := by
  cases m with
  | advance ticket outside => exact t.gates_advance ticket outside
  | cancel ticket =>
    simp only [gateEvents, step]
    rw [gateway_cancel]
    cases hs : t.standing ticket with
    | none => rfl
    | some p =>
      rw [Option.bind_some]
      dsimp only
      unfold Gateway.cancel
      cases p.gate? <;> rfl
  | arrive ticket jobs =>
    simp only [step]
    rcases t.arrive_cases ticket jobs with he | ⟨job, hs, hg, -⟩
    · rw [he]
      rfl
    · rw [hg]
      rfl
  | intervene serial what =>
    simp only [step]
    rcases t.intervene_cases serial what with he | ⟨c, hub, events, effect, _, hi, he⟩
    · rw [he]
      rfl
    · rw [he, Gateway.gates_observeAll]
      rfl
  | tell event =>
    simp only [step]
    rw [Gateway.gates_observe]
    rfl
  | shutdown =>
    simp only [step]
    rw [Gateway.shutdown_eq]
    rfl
  | snapshot =>
    obtain ⟨i, hi⟩ := t.gateway.snapshot_snd
    simp only [step, hi]
    rfl
  | _ => rfl

/-- **All that a move does to the gates**, done to the shared locks. -/
theorem locks_step {t : Traffic} (h : t.IsOrderly) (m : Move) {locks : LockTable}
    (hl : locks.Agrees t.gateway.gates) :
    ((t.gateEvents m).foldl LockTable.perform locks).Agrees (t.step m).gateway.gates := by
  rw [gates_step]
  cases m with
  | advance ticket outside =>
    simp only [gateEvents]
    split
    · exact hl
    · rename_i p hs
      split
      · exact hl
      · exact h.agrees_gateEvents hs _ hl
  | cancel ticket =>
    simp only [gateEvents]
    split
    · exact hl
    · rename_i name hgate
      exact hl.giveBack ((h.mem_tickets name ticket).mpr hgate)
  | _ => exact hl

/-- **The shared locks agree with the gates after every run** that begins with no task: they are
what becomes of no lock when the tickets that the run takes and gives back are taken and given back
there. -/
theorem locks_run {t : Traffic} (h : t.IsOrderly) {locks : LockTable}
    (hl : locks.Agrees t.gateway.gates) (moves : List Move) :
    ((t.collect gateEvents moves).foldl LockTable.perform locks).Agrees
      (t.run moves).gateway.gates := by
  induction moves generalizing t locks with
  | nil => exact hl
  | cons m moves ih =>
    rw [collect, List.foldl_append]
    exact ih (h.step m) (locks_step h m hl)

end Traffic

end ChannelGateway
