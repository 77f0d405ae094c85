/-!
# Tables: finite maps kept in order of first entry

A table is a list of key and value pairs. `insert` overwrites the value of a key that is present
and otherwise appends, so a table that starts empty keeps its keys distinct and in the order in
which they were first entered; `erase` drops a key.

Results: each operation through the view `get?` (`get?_insert`, `get?_erase`), and `Table.Distinct`
is kept by both (`Distinct.insert`, `Distinct.erase`).
-/

namespace ChannelGateway

/-- A finite map from keys to values, in order of first entry. -/
abbrev Table (κ : Type) (α : Type) := List (κ × α)

namespace Table

variable {κ α : Type} [DecidableEq κ]

/-- The value entered under a key. -/
def get? (t : Table κ α) (k : κ) : Option α :=
  match t with
  | [] => none
  | (k', v) :: rest => if k' = k then some v else get? rest k

/-- Enter a value under a key, in place of an earlier one. -/
def insert (t : Table κ α) (k : κ) (v : α) : Table κ α :=
  match t with
  | [] => [(k, v)]
  | (k', v') :: rest => if k' = k then (k, v) :: rest else (k', v') :: insert rest k v

/-- Drop a key. -/
def erase (t : Table κ α) (k : κ) : Table κ α :=
  t.filter fun entry => entry.1 ≠ k

/-- Whether a key is present. -/
def contains (t : Table κ α) (k : κ) : Bool :=
  (t.get? k).isSome

/-- The keys in order of first entry. -/
def keys (t : Table κ α) : List κ :=
  t.map Prod.fst

/-- The values in order of their keys' first entry. -/
def values (t : Table κ α) : List α :=
  t.map Prod.snd

/-- No key is present twice. -/
def Distinct (t : Table κ α) : Prop :=
  t.keys.Nodup

@[simp]
theorem get?_nil (k : κ) : get? ([] : Table κ α) k = none := rfl

theorem get?_cons (k' k : κ) (v : α) (t : Table κ α) :
    get? ((k', v) :: t) k = if k' = k then some v else get? t k := rfl

theorem get?_insert (t : Table κ α) (k k' : κ) (v : α) :
    (t.insert k v).get? k' = if k = k' then some v else t.get? k' := by
  induction t with
  | nil => rfl
  | cons entry rest ih =>
    obtain ⟨j, w⟩ := entry
    unfold insert
    by_cases hj : j = k
    · subst hj
      rw [if_pos rfl, get?_cons, get?_cons]
      by_cases h : j = k' <;> simp [h]
    · rw [if_neg hj, get?_cons, ih, get?_cons]
      by_cases h : j = k'
      · subst h
        simp [Ne.symm hj]
      · simp [h]

theorem get?_erase (t : Table κ α) (k k' : κ) :
    (t.erase k).get? k' = if k = k' then none else t.get? k' := by
  induction t with
  | nil => simp [erase]
  | cons entry rest ih =>
    obtain ⟨j, w⟩ := entry
    unfold erase at ih ⊢
    by_cases hj : j = k
    · subst hj
      simp only [ne_eq, not_true_eq_false, decide_false, Bool.false_eq_true, not_false_eq_true,
        List.filter_cons_of_neg]
      rw [ih, get?_cons]
      by_cases h : j = k' <;> simp [h]
    · rw [List.filter_cons_of_pos (by simpa using hj), get?_cons, ih, get?_cons]
      by_cases h : j = k'
      · subst h
        simp [Ne.symm hj]
      · simp [h]

theorem mem_of_get? {t : Table κ α} {k : κ} {v : α} (h : t.get? k = some v) : (k, v) ∈ t := by
  induction t with
  | nil => simp at h
  | cons entry rest ih =>
    obtain ⟨j, w⟩ := entry
    rw [get?_cons] at h
    by_cases hj : j = k
    · rw [if_pos hj] at h
      cases h
      subst hj
      exact List.mem_cons_self
    · rw [if_neg hj] at h
      exact List.mem_cons_of_mem _ (ih h)

theorem get?_of_mem {t : Table κ α} (h : t.Distinct) {k : κ} {v : α} (hm : (k, v) ∈ t) :
    t.get? k = some v := by
  induction t with
  | nil => simp at hm
  | cons entry rest ih =>
    obtain ⟨j, w⟩ := entry
    obtain ⟨hj, hrest⟩ := List.nodup_cons.mp h
    rw [get?_cons]
    rcases List.mem_cons.mp hm with he | hm
    · cases he
      exact if_pos rfl
    · rw [if_neg]
      · exact ih hrest hm
      · rintro rfl
        exact hj (List.mem_map.mpr ⟨(j, v), hm, rfl⟩)

/-- What is in a table after an insertion was in it, or is what has been entered. -/
theorem mem_values_insert {t : Table κ α} {k : κ} {v v' : α} (h : v' ∈ (t.insert k v).values) :
    v' = v ∨ v' ∈ t.values := by
  induction t with
  | nil => exact .inl (List.mem_singleton.mp h)
  | cons entry rest ih =>
    obtain ⟨k₀, v₀⟩ := entry
    unfold insert at h
    by_cases hk : k₀ = k
    · rw [if_pos hk] at h
      exact (List.mem_cons.mp h).imp_right (List.mem_cons_of_mem _)
    · rw [if_neg hk] at h
      rcases List.mem_cons.mp h with rfl | h
      · exact .inr List.mem_cons_self
      · exact (ih h).imp_right (List.mem_cons_of_mem _)

omit [DecidableEq κ] in
theorem Distinct.nil : Distinct ([] : Table κ α) := List.nodup_nil

theorem keys_insert_of_mem {t : Table κ α} {k : κ} (v : α) (h : k ∈ t.keys) :
    (t.insert k v).keys = t.keys := by
  induction t with
  | nil => simp [keys] at h
  | cons entry rest ih =>
    obtain ⟨j, w⟩ := entry
    unfold insert
    by_cases hj : j = k
    · simp [hj, keys]
    · have hk : k ∈ keys rest := by
        simp only [keys, List.map_cons, List.mem_cons] at h
        exact h.resolve_left (Ne.symm hj)
      rw [if_neg hj]
      unfold keys at ih hk ⊢
      rw [List.map_cons, List.map_cons, ih hk]

theorem keys_insert_of_not_mem {t : Table κ α} {k : κ} (v : α) (h : k ∉ t.keys) :
    (t.insert k v).keys = t.keys ++ [k] := by
  induction t with
  | nil => rfl
  | cons entry rest ih =>
    obtain ⟨j, w⟩ := entry
    simp only [keys, List.map_cons, List.mem_cons, not_or] at h
    unfold insert
    rw [if_neg (Ne.symm h.1)]
    unfold keys at ih ⊢
    rw [List.map_cons, List.map_cons, ih h.2, List.cons_append]

theorem Distinct.insert {t : Table κ α} (h : t.Distinct) (k : κ) (v : α) :
    (t.insert k v).Distinct := by
  unfold Distinct at h ⊢
  by_cases hk : k ∈ t.keys
  · rwa [keys_insert_of_mem v hk]
  · rw [keys_insert_of_not_mem v hk, List.nodup_append]
    refine ⟨h, by simp, ?_⟩
    intro a ha b hb
    rw [List.mem_singleton] at hb
    subst hb
    rintro rfl
    exact hk ha

theorem Distinct.erase {t : Table κ α} (h : t.Distinct) (k : κ) : (t.erase k).Distinct := by
  unfold Distinct keys Table.erase at *
  exact h.sublist (List.Sublist.map _ List.filter_sublist)

end Table

/-- What is looked up in a list of records, after a change that keeps what the lookup asks for. -/
theorem find?_map_of_keeps {α : Type} {p : α → Bool} {f : α → α} (h : ∀ a, p (f a) = p a)
    (l : List α) : (l.map f).find? p = (l.find? p).map f := by
  have hp : p ∘ f = p := funext h
  rw [List.find?_map, hp]

end ChannelGateway
