import ChannelGateway.Proofs.Settings

/-!
# Trees without repeated keys

A table is merged with another one key by key, and it is read by the last value under a key. Both
come to the same only if no key is there twice. `Tree.IsTidy` says this of all tables in a tree; it
is kept by laying one tree over another. It also says whether there may be nulls, which decide what
a table can be read as: the defaults have one, where there is no seed, and nothing else has any.

Results:
* `Tree.lookup_eq_get?`, `Tree.get?_overlayFields`: what is under a key, alone and after merging.
* `Tree.IsTidy.overlay`: tidy trees over each other.
* `Tree.IsTidy.at?`: what a path leads to in a tidy tree.
-/

namespace ChannelGateway

/-! ## Tables -/

namespace Table

variable {κ α : Type} [DecidableEq κ] {P : α → Prop} {t : Table κ α} {k : κ} {v : α}

/-- No key of a table is there twice, and its values are of a kind. -/
structure IsTidy (P : α → Prop) (t : Table κ α) : Prop where
  distinct : t.Distinct
  inner : ∀ entry ∈ t, P entry.2

omit [DecidableEq κ] in
theorem IsTidy.nil : IsTidy P ([] : Table κ α) :=
  ⟨.nil, by simp⟩

theorem IsTidy.get? (h : t.IsTidy P) (hv : t.get? k = some v) : P v :=
  h.inner (k, v) (mem_of_get? hv)

theorem IsTidy.insert (h : t.IsTidy P) (k : κ) (hv : P v) : (t.insert k v).IsTidy P := by
  have hdistinct := h.distinct.insert k v
  refine ⟨hdistinct, fun ⟨j, w⟩ hmem => ?_⟩
  have hw := get?_of_mem hdistinct hmem
  rw [get?_insert] at hw
  by_cases hj : k = j
  · rw [if_pos hj] at hw
    exact Option.some.inj hw ▸ hv
  · rw [if_neg hj] at hw
    exact h.get? hw

omit [DecidableEq κ] in
/-- Values that are changed one by one. -/
theorem IsTidy.map {β : Type} {f : α → β} {Q : β → Prop} (h : t.IsTidy fun v => Q (f v)) :
    IsTidy Q (List.map (fun entry => (entry.1, f entry.2)) t) := by
  refine ⟨?_, fun entry hentry => ?_⟩
  · have hdistinct := h.distinct
    unfold Distinct keys at hdistinct ⊢
    rwa [List.map_map]
  · obtain ⟨inner, hinner, rfl⟩ := List.mem_map.mp hentry
    exact h.inner inner hinner

/-- The first key of a table is not among the others. -/
theorem get?_eq_none_of_distinct {rest : Table κ α} (h : Distinct ((k, v) :: rest)) :
    rest.get? k = none := by
  refine Option.eq_none_iff_forall_ne_some.mpr fun w hw => ?_
  have hmem : k ∈ rest.keys := List.mem_map_of_mem (mem_of_get? hw)
  exact (List.nodup_cons.mp h).1 hmem

end Table

/-! ## Trees -/

namespace Tree

/-- No table in a tree has a key twice. Nothing in it is null, unless nulls are allowed. -/
inductive IsTidy (nulls : Bool) : Tree → Prop
  | null (allowed : nulls = true) : IsTidy nulls .null
  | bool (b : Bool) : IsTidy nulls (.bool b)
  | natural (n : Nat) : IsTidy nulls (.natural n)
  | int (n : Int) : IsTidy nulls (.int n)
  | float (x : Float) : IsTidy nulls (.float x)
  | char (c : Char) : IsTidy nulls (.char c)
  | text (s : String) : IsTidy nulls (.text s)
  | array {items : List Tree} (inner : ∀ v ∈ items, IsTidy nulls v) : IsTidy nulls (.array items)
  | object {fields : List (String × Tree)} (distinct : Table.Distinct fields)
    (inner : ∀ field ∈ fields, IsTidy nulls field.2) : IsTidy nulls (.object fields)

variable {nulls : Bool} {v base : Tree} {fields under : List (String × Tree)} {key : String}

theorem IsTidy.ofTable (h : Table.IsTidy (IsTidy nulls) fields) : IsTidy nulls (.object fields) :=
  .object h.distinct h.inner

theorem IsTidy.toTable (h : IsTidy nulls (.object fields)) :
    Table.IsTidy (IsTidy nulls) fields := by
  cases h with
  | object distinct inner => exact ⟨distinct, inner⟩

theorem IsTidy.ne_null (h : v.IsTidy false) : v ≠ .null := by
  rintro rfl
  cases h with
  | null allowed => cases allowed

/-- Trees without nulls are also trees where they are allowed. -/
theorem IsTidy.mono (h : v.IsTidy false) : v.IsTidy nulls := by
  induction h with
  | null allowed => cases allowed
  | array _ ih => exact .array ih
  | object distinct _ ih => exact .object distinct ih
  | _ => constructor

/-- Where no key is there twice, the last value of a key is the only one. -/
theorem lookup_eq_get? (h : Table.Distinct fields) : lookup fields key = Table.get? fields key := by
  -- the value found so far stays unless the key is still to come
  have hfold : ∀ found : Option Tree,
      fields.foldl (fun found field => if field.1 = key then some field.2 else found) found =
        (Table.get? fields key).or found := by
    induction fields with
    | nil => exact fun found => (Option.none_or).symm
    | cons field rest ih =>
      intro found
      have hrest := ih (List.nodup_cons.mp h).2
      rw [List.foldl_cons, hrest, Table.get?_cons]
      by_cases hkey : field.1 = key
      · subst hkey
        rw [if_pos rfl, if_pos rfl, Table.get?_eq_none_of_distinct h]
        rfl
      · rw [if_neg hkey, if_neg hkey]
  exact (hfold none).trans Option.or_none

/-- **What is under a key after merging.** -/
theorem get?_overlayFields (h : Table.Distinct fields) :
    Table.get? (overlayFields under fields) key =
      match Table.get? fields key with
      | none => Table.get? under key
      | some v =>
        match Table.get? under key with
        | none => some v
        | some old => some (old.overlay v) := by
  induction fields generalizing under with
  | nil => rfl
  | cons field rest ih =>
    obtain ⟨k, v⟩ := field
    rw [overlayFields, ih (List.nodup_cons.mp h).2, Table.get?_insert, Table.get?_cons]
    by_cases hkey : k = key
    · subst hkey
      rw [Table.get?_eq_none_of_distinct h, if_pos rfl, if_pos rfl]
      cases Table.get? under k <;> rfl
    · rw [if_neg hkey, if_neg hkey]

/-- Fields over others, if the trees that meet stay tidy. -/
theorem isTidy_overlayFields (hunder : Table.IsTidy (IsTidy nulls) under)
    (hfields : ∀ field ∈ fields, field.2.IsTidy nulls)
    (meet : ∀ field ∈ fields, ∀ old : Tree, old.IsTidy nulls → (old.overlay field.2).IsTidy nulls) :
    Table.IsTidy (IsTidy nulls) (overlayFields under fields) := by
  induction fields generalizing under with
  | nil => exact hunder
  | cons field rest ih =>
    obtain ⟨k, v⟩ := field
    rw [List.forall_mem_cons] at hfields meet
    rw [overlayFields]
    refine ih (hunder.insert k ?_) hfields.2 meet.2
    cases hold : Table.get? under k with
    | none => exact hfields.1
    | some old => exact meet.1 old (hunder.get? hold)

/-- **Tidy trees over each other.** -/
theorem IsTidy.overlay (hv : v.IsTidy nulls) (hbase : base.IsTidy nulls) :
    (base.overlay v).IsTidy nulls := by
  induction hv generalizing base with
  | object _ inner ih =>
    have meet : ∀ under : List (String × Tree), Table.IsTidy (IsTidy nulls) under →
        IsTidy nulls (.object (overlayFields under _)) := fun under hunder =>
      .ofTable (isTidy_overlayFields hunder inner fun field hfield old hold => ih field hfield hold)
    cases hbase with
    | object distinct inner => exact meet _ ⟨distinct, inner⟩
    | _ => exact meet [] .nil
  | array inner => exact .array inner
  | null allowed => exact .null allowed
  | _ => constructor

/-- What a tidy tree has at a place is tidy. -/
theorem IsTidy.field? (h : v.IsTidy nulls) {p : Place} {w : Tree} (hw : v.field? p = some w) :
    w.IsTidy nulls := by
  cases h with
  | array inner => exact inner w (List.mem_of_getElem? hw)
  | object _ inner => exact inner _ (mem_of_lookup hw)
  | _ => cases hw

theorem IsTidy.at? (h : v.IsTidy nulls) {path : List Place} {w : Tree} (hw : v.at? path = some w) :
    w.IsTidy nulls := by
  induction path generalizing v with
  | nil =>
    rw [at?_nil] at hw
    exact Option.some.inj hw ▸ h
  | cons p path ih =>
    rw [at?_cons] at hw
    obtain ⟨inner, hinner, hw⟩ := Option.bind_eq_some_iff.mp hw
    exact ih (h.field? hinner) hw

/-! ### Trees of JSON values -/

theorem isTidy_array {items : List Json} (h : ∀ v ∈ items, (ofJson v).IsTidy nulls) :
    (ofJson (.array items)).IsTidy nulls := by
  refine .array fun v hv => ?_
  rw [ofItems_eq] at hv
  obtain ⟨w, hw, rfl⟩ := List.mem_map.mp hv
  exact h w hw

theorem isTidy_object {fields : List (String × Json)}
    (h : Table.IsTidy (fun v => (ofJson v).IsTidy nulls) fields) :
    (ofJson (.object fields)).IsTidy nulls := by
  rw [ofJson, ofFields_eq]
  exact .ofTable h.map

end Tree

end ChannelGateway
