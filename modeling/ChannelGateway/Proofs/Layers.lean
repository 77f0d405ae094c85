import ChannelGateway.Proofs.Tidy
import Mathlib.Data.List.TakeWhile

/-!
# Layers over each other

Of several layers, the highest first, the tables are merged, and any other layer hides all that is
below it; below a table it is hidden itself, together with the layers below it. So what the layers
have under a key together is made of what those layers have there that can be seen (`Tree.visible`):
all tables down to the first layer that is none, or the highest layer alone. Going down a path in
this way finds, layer by layer, what its end is made of (`Tree.found`). Where all layers are tables
as far as the path leads, nothing is hidden, and the first of what is found is what the highest
layer has there that has anything.

Results:
* `Tree.at?_stack`: what a path leads to in the layers together.
* `Tree.mem_found`: what is found is what one of the layers has.
* `Tree.head?_found_of_at?`, `Tree.head?_found_of_hasTables`: the highest layer decides.
-/

namespace ChannelGateway

namespace Tree

/-! ## Tables and what is none -/

/-- Whether a tree is a table. -/
def isTable : Tree → Bool
  | .object _ => true
  | _ => false

variable {v base : Tree}

theorem exists_of_isTable (h : v.isTable = true) : ∃ fields, v = .object fields := by
  cases v with
  | object fields => exact ⟨fields, rfl⟩
  | _ => cases h

/-- What is no table hides what is below it. -/
theorem overlay_of_not_isTable (h : v.isTable = false) : base.overlay v = v := by
  cases v with
  | object fields => cases h
  | _ => rfl

/-- What is no table leaves nothing to a table above it. -/
theorem overlay_over_not_isTable (h : base.isTable = false) :
    base.overlay v = (object []).overlay v := by
  cases v with
  | object fields =>
    cases base with
    | object under => cases h
    | _ => rfl
  | _ => rfl

theorem isTable_overlay : (base.overlay v).isTable = v.isTable := by
  cases v with
  | object fields => cases base <;> rfl
  | _ => rfl

/-! ## Layers -/

/-- Layers over each other, the highest first. -/
def stack : List Tree → Option Tree
  | [] => none
  | v :: rest =>
    match stack rest with
    | none => some v
    | some base => some (base.overlay v)

/-- The layers that can be seen, the highest first. -/
def visible : List Tree → List Tree
  | [] => []
  | v :: rest => if v.isTable then v :: rest.takeWhile isTable else [v]

/-- What the layers that can be seen have at the end of a path, the highest first. -/
def found : List Place → List Tree → List Tree
  | [], layers => layers
  | p :: path, layers => found path ((visible layers).filterMap fun v => v.field? p)

variable {layers rest : List Tree} {p : Place} {path : List Place} {w : Tree}

theorem exists_stack (v : Tree) (rest : List Tree) : ∃ w, stack (v :: rest) = some w := by
  unfold stack
  split
  · exact ⟨_, rfl⟩
  · exact ⟨_, rfl⟩

theorem isTable_of_stack (h : stack (v :: rest) = some w) : w.isTable = v.isTable := by
  unfold stack at h
  split at h
  · cases h
    rfl
  · cases h
    exact isTable_overlay

theorem stack_of_not_isTable (h : v.isTable = false) : stack (v :: rest) = some v := by
  unfold stack
  split
  · rfl
  · rw [overlay_of_not_isTable h]

theorem isTidy_stack {nulls : Bool} (h : ∀ v ∈ layers, v.IsTidy nulls)
    (hw : stack layers = some w) :
    w.IsTidy nulls := by
  induction layers generalizing w with
  | nil => cases hw
  | cons v rest ih =>
    rw [List.forall_mem_cons] at h
    unfold stack at hw
    split at hw
    · cases hw
      exact h.1
    · next base hbase =>
      cases hw
      exact h.1.overlay (ih h.2 hbase)

/-- Layers make a table without nulls if the tables among them are without nulls. -/
theorem isTidy_stack_of_isTable (h : ∀ v ∈ layers, v.isTable = true → v.IsTidy false)
    (hw : stack layers = some w) (table : w.isTable = true) : w.IsTidy false := by
  induction layers generalizing w with
  | nil => cases hw
  | cons v rest ih =>
    rw [List.forall_mem_cons] at h
    have hv := h.1 (isTable_of_stack hw ▸ table)
    unfold stack at hw
    split at hw
    · cases hw
      exact hv
    · next base hbase =>
      cases hw
      cases hkind : base.isTable with
      | true => exact hv.overlay (ih h.2 hbase hkind)
      | false =>
        rw [overlay_over_not_isTable hkind]
        exact hv.overlay (.ofTable .nil)

theorem mem_of_mem_visible (h : v ∈ visible layers) : v ∈ layers := by
  cases layers with
  | nil => cases h
  | cons first rest =>
    rw [visible] at h
    split at h
    · rcases List.mem_cons.mp h with rfl | hmem
      · exact List.mem_cons_self
      · exact List.mem_cons_of_mem first (List.takeWhile_subset _ hmem)
    · exact List.mem_singleton.mp h ▸ List.mem_cons_self

/-- The highest layer can be seen. -/
theorem visible_cons (v : Tree) (rest : List Tree) :
    ∃ others, visible (v :: rest) = v :: others := by
  rw [visible]
  split
  · exact ⟨_, rfl⟩
  · exact ⟨[], rfl⟩

/-- Below a table the layers that can be seen are those that could be seen without it, if they begin
with a table. -/
theorem visible_of_isTable {u : Tree} (hv : v.isTable = true) (hu : u.isTable = true) :
    visible (v :: u :: rest) = v :: visible (u :: rest) := by
  simp [visible, hv, hu]

/-- A layer is alone if it or the next one is no table. -/
theorem visible_of_not_isTable {u : Tree} (h : v.isTable = false ∨ u.isTable = false) :
    visible (v :: u :: rest) = [v] := by
  rcases h with hv | hu
  · simp [visible, hv]
  · simp [visible, hu]

section

variable {nulls : Bool}

/-- **What two tables have at a place together.** -/
theorem field?_overlay (hv : v.IsTidy nulls) (hbase : base.IsTidy nulls) (table : v.isTable = true)
    (below : base.isTable = true) :
    (base.overlay v).field? p =
      match v.field? p with
      | none => base.field? p
      | some w =>
        match base.field? p with
        | none => some w
        | some old => some (old.overlay w) := by
  have hlaid := hv.overlay hbase
  obtain ⟨fields, rfl⟩ := exists_of_isTable table
  obtain ⟨under, rfl⟩ := exists_of_isTable below
  simp only [overlay, field?, lookup_eq_get? hv.toTable.distinct,
    lookup_eq_get? hbase.toTable.distinct, lookup_eq_get? hlaid.toTable.distinct]
  exact get?_overlayFields hv.toTable.distinct

/-- Over what is no table a tree has what it has by itself. -/
theorem field?_overlay_of_not_isTable (hv : v.IsTidy nulls)
    (h : v.isTable = false ∨ base.isTable = false) : (base.overlay v).field? p = v.field? p := by
  cases table : v.isTable with
  | false => rw [overlay_of_not_isTable table]
  | true =>
    have below : base.isTable = false := h.resolve_left (by simp [table])
    rw [overlay_over_not_isTable below, field?_overlay hv (.ofTable .nil) table rfl]
    cases v.field? p <;> rfl

end

theorem field?_eq_stack (v : Tree) (p : Place) :
    v.field? p = stack ([v].filterMap fun v => v.field? p) := by
  cases hfield : v.field? p <;> simp [hfield, stack]

/-- **What the layers have at a place together.** -/
theorem field?_stack (h : ∀ v ∈ layers, v.IsTidy true) :
    (stack layers).bind (fun v => v.field? p) =
      stack ((visible layers).filterMap fun v => v.field? p) := by
  induction layers with
  | nil => rfl
  | cons v rest ih =>
    rw [List.forall_mem_cons] at h
    cases rest with
    | nil =>
      have hvisible : visible [v] = [v] := by simp [visible]
      rw [hvisible]
      exact field?_eq_stack v p
    | cons u rest =>
      obtain ⟨base, hbase⟩ := exists_stack u rest
      have hkind := isTable_of_stack hbase
      have hbelow := ih h.2
      rw [hbase, Option.bind_some] at hbelow
      rw [stack, hbase, Option.bind_some]
      by_cases hboth : v.isTable = true ∧ u.isTable = true
      · rw [visible_of_isTable hboth.1 hboth.2,
          field?_overlay h.1 (isTidy_stack h.2 hbase) hboth.1 (hkind.trans hboth.2), hbelow]
        cases hfield : v.field? p with
        | none => simp [hfield]
        | some w => simp only [List.filterMap_cons, hfield, stack]
      · -- one of the two is no table, so the layer is alone
        have hone : v.isTable = false ∨ u.isTable = false := by
          simpa only [not_and_or, Bool.not_eq_true] using hboth
        rw [visible_of_not_isTable hone, field?_overlay_of_not_isTable h.1 (hkind ▸ hone)]
        exact field?_eq_stack v p

/-- **What a path leads to in the layers together** is what it leads to in those that can be
seen. -/
theorem at?_stack (h : ∀ v ∈ layers, v.IsTidy true) (path : List Place) :
    (stack layers).bind (fun v => v.at? path) = stack (found path layers) := by
  induction path generalizing layers with
  | nil => simp [found]
  | cons p path ih =>
    have hinner : ∀ w ∈ (visible layers).filterMap fun v => v.field? p, w.IsTidy true := by
      intro w hw
      obtain ⟨v, hv, hfield⟩ := List.mem_filterMap.mp hw
      exact (h v (mem_of_mem_visible hv)).field? hfield
    rw [found, ← ih hinner, ← field?_stack h, Option.bind_assoc]
    simp

/-! ## What is found -/

/-- What is found is what one of the layers has. -/
theorem mem_found (h : w ∈ found path layers) : ∃ v ∈ layers, v.at? path = some w := by
  induction path generalizing layers with
  | nil => exact ⟨w, h, at?_nil w⟩
  | cons p path ih =>
    obtain ⟨inner, hinner, hw⟩ := ih h
    obtain ⟨v, hv, hfield⟩ := List.mem_filterMap.mp hinner
    refine ⟨v, mem_of_mem_visible hv, ?_⟩
    rw [at?_cons, hfield]
    exact hw

/-- What the highest layer has comes first. -/
theorem head?_found_of_at? (h : v.at? path = some w) : (found path (v :: rest)).head? = some w := by
  induction path generalizing v rest with
  | nil =>
    rw [at?_nil] at h
    exact h
  | cons p path ih =>
    rw [at?_cons] at h
    obtain ⟨inner, hinner, hw⟩ := Option.bind_eq_some_iff.mp h
    obtain ⟨others, hvisible⟩ := visible_cons v rest
    simp only [found, hvisible, List.filterMap_cons, hinner]
    exact ih hw

/-- Whether a tree has only tables on the way of a path, as far as the path leads in it. -/
def hasTables : List Place → Tree → Bool
  | [], _ => true
  | p :: path, v => v.isTable && (v.field? p).all (hasTables path)

theorem hasTables_cons : hasTables (p :: path) v = true ↔
    v.isTable = true ∧ ∀ w, v.field? p = some w → hasTables path w = true := by
  simp [hasTables, Option.all_eq_true]

/-- Layers with tables on the way hide nothing at its end. -/
theorem found_of_hasTables (h : ∀ v ∈ layers, hasTables path v = true) :
    found path layers = layers.filterMap fun v => v.at? path := by
  induction path generalizing layers with
  | nil => simp [found]
  | cons p path ih =>
    simp only [hasTables_cons] at h
    have hvisible : visible layers = layers := by
      cases layers with
      | nil => rfl
      | cons v rest =>
        rw [List.forall_mem_cons] at h
        rw [visible, if_pos h.1.1, List.takeWhile_eq_self_iff.mpr fun u hu => (h.2 u hu).1]
    have hinner : ∀ w ∈ layers.filterMap fun v => v.field? p, hasTables path w = true := by
      intro w hw
      obtain ⟨v, hv, hfield⟩ := List.mem_filterMap.mp hw
      exact (h v hv).2 w hfield
    rw [found, hvisible, ih hinner, List.filterMap_filterMap]
    simp

/-- **The highest layer that has anything at the end of a path decides**, if no layer has anything
but tables on the way. -/
theorem head?_found_of_hasTables (h : ∀ v ∈ layers, hasTables path v = true) :
    (found path layers).head? = layers.findSome? fun v => v.at? path := by
  rw [found_of_hasTables h, List.head?_filterMap]

end Tree

end ChannelGateway
