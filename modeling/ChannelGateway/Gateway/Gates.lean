import ChannelGateway.Table

/-!
# Gates: one request at a time for each name

Model of `OpenGates` and its `GateTicket`. Opening and closing a name passes through the gate of
that name. A request takes a ticket; the first ticket of a gate holds it, the others wait in order
of arrival. A gate exists while it has tickets.

Results:
* `tickets_enter`, `tickets_leave`: both operations through the view `tickets`.
* `kept_enter`, `kept_leave`: no gate is kept without a ticket.
* `holds_inj`, `holds_enter`, `holds_leave`: at most one ticket holds a gate, and it keeps the gate
  until it is given back.
-/

namespace ChannelGateway

/-- The tickets of each gate in order of arrival. -/
abbrev Gates := Table String (List Nat)

namespace Gates

/-- The tickets of a gate. -/
def tickets (g : Gates) (name : String) : List Nat :=
  (Table.get? g name).getD []

/-- Take a ticket. -/
def enter (g : Gates) (name : String) (ticket : Nat) : Gates :=
  Table.insert g name (g.tickets name ++ [ticket])

/-- Whether a ticket holds its gate. -/
def holds (g : Gates) (name : String) (ticket : Nat) : Bool :=
  (g.tickets name).head? = some ticket

/-- Give a ticket back. The gate goes to the next ticket, or away with the last one. -/
def leave (g : Gates) (name : String) (ticket : Nat) : Gates :=
  match (g.tickets name).erase ticket with
  | [] => Table.erase g name
  | rest => Table.insert g name rest

theorem holds_iff {g : Gates} {name : String} {ticket : Nat} :
    g.holds name ticket = true ↔ (g.tickets name).head? = some ticket := by
  simp [holds]

theorem tickets_enter (g : Gates) (name other : String) (ticket : Nat) :
    (g.enter name ticket).tickets other =
      if name = other then g.tickets name ++ [ticket] else g.tickets other := by
  unfold enter tickets
  rw [Table.get?_insert]
  split <;> rfl

theorem tickets_leave (g : Gates) (name other : String) (ticket : Nat) :
    (g.leave name ticket).tickets other =
      if name = other then (g.tickets name).erase ticket else g.tickets other := by
  unfold leave
  split
  · rename_i h
    rw [h]
    unfold tickets
    rw [Table.get?_erase]
    split <;> rfl
  · unfold tickets
    rw [Table.get?_insert]
    split <;> rfl

/-- No gate is kept without a ticket when one is taken. -/
theorem kept_enter {g : Gates} (h : ∀ name, Table.get? g name ≠ some []) (name : String)
    (ticket : Nat) (other : String) : Table.get? (g.enter name ticket) other ≠ some [] := by
  unfold enter
  rw [Table.get?_insert]
  split
  · simp
  · exact h other

/-- No gate is kept without a ticket when one is given back. -/
theorem kept_leave {g : Gates} (h : ∀ name, Table.get? g name ≠ some []) (name : String)
    (ticket : Nat) (other : String) : Table.get? (g.leave name ticket) other ≠ some [] := by
  unfold leave
  split
  · rw [Table.get?_erase]
    split
    · simp
    · exact h other
  · rename_i hrest
    rw [Table.get?_insert]
    split
    · simpa using hrest
    · exact h other

theorem holds_inj {g : Gates} {name : String} {ticket other : Nat}
    (h : g.holds name ticket = true) (h' : g.holds name other = true) : ticket = other := by
  rw [holds_iff] at h h'
  rw [h] at h'
  exact Option.some.inj h'

/-- Taking a ticket takes the gate from nobody. -/
theorem holds_enter {g : Gates} {name : String} {k : Nat} (h : g.holds name k = true)
    (other : String) (ticket : Nat) : (g.enter other ticket).holds name k = true := by
  rw [holds_iff] at h ⊢
  rw [tickets_enter]
  split
  · rename_i hn
    rw [List.head?_append, hn, h, Option.some_or]
  · exact h

/-- A ticket that is given back does not take the gate from the one that holds it. -/
theorem holds_leave {g : Gates} {name other : String} {ticket k : Nat}
    (h : g.holds other k = true) (hk : k ≠ ticket) :
    (g.leave name ticket).holds other k = true := by
  rw [holds_iff] at h ⊢
  rw [tickets_leave]
  split
  · rename_i hn
    subst hn
    cases ht : g.tickets name with
    | nil => rw [ht] at h; cases h
    | cons first rest =>
      rw [ht] at h
      obtain rfl := Option.some.inj h
      rw [List.erase_cons_tail (by simpa using hk)]
      rfl
  · exact h

end Gates

end ChannelGateway
