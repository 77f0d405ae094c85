import ChannelGateway.Proofs.Layers
import ChannelGateway.Proofs.Sources

/-!
# What variables say of settings

The tree of the environment is made of the variables one after the other, each laid over those
before. A variable for one place leaves all others as they are, unless one of the two places is
inside the other: a value for a section replaces what stands in it, and a value for a part makes the
whole a table. So a setting is not in the tree if no variable concerns it, and is as the last one
says that concerns it, if that is for the setting itself.

Results:
* `Tree.Has.beside`, `Tree.Has.laid`: a value laid beside a place, and at it.
* **`Env.has_tree`**, **`Env.has_tree_of_last`**: settings that no variable concerns, and those for
  which the last one is that does.
-/

namespace ChannelGateway

namespace Tree

/-- What a tree has at the end of a path, with nothing but tables on the way. -/
structure Has (v : Tree) (path : List Place) (w : Option Tree) : Prop where
  tidy : v.IsTidy false
  tables : hasTables path v = true
  found : v.at? path = w

variable {v w old : Tree} {o : Option Tree} {p : Place} {path : List Place} {key : String}
  {keys : List String}

theorem field?_nested (p : Place) (key : String) (keys : List String) (w : Tree) :
    (nested (key :: keys) w).field? p = if key = p.key then some (nested keys w) else none := by
  simp [nested, field?, lookup]

/-- What stands at a place once a value has been laid over a table. -/
theorem field?_overlay_nested (hv : v.IsTidy false) (table : v.isTable = true) (hw : w.IsTidy false)
    (p : Place) (key : String) (keys : List String) :
    (v.overlay (nested (key :: keys) w)).field? p =
      if key = p.key then
        match v.field? p with
        | some old => some (old.overlay (nested keys w))
        | none => some (nested keys w)
      else v.field? p := by
  rw [field?_overlay (Env.isTidy_nested _ hw) hv rfl table, field?_nested]
  by_cases hkey : key = p.key
  · rw [if_pos hkey, if_pos hkey]
    cases v.field? p <;> rfl
  · rw [if_neg hkey, if_neg hkey]

theorem has_empty (h : path ≠ []) : Has (.object []) path none := by
  cases path with
  | nil => exact absurd rfl h
  | cons p path =>
    have hnone : field? (.object []) p = none := rfl
    refine ⟨.ofTable .nil, hasTables_cons.mpr ⟨rfl, fun w hw => ?_⟩, ?_⟩
    · rw [hnone] at hw
      cases hw
    · rw [at?_cons, hnone]
      rfl

namespace Has

theorem tail (h : Has v (p :: path) o) (hold : v.field? p = some old) : Has old path o := by
  refine ⟨h.tidy.field? hold, (hasTables_cons.mp h.tables).2 old hold, ?_⟩
  have hfound := h.found
  rwa [at?_cons, hold] at hfound

/-- What is at the end of a path is what is at the end of its tail. -/
theorem cons (hv : v.IsTidy false) (table : v.isTable = true) (hold : v.field? p = some old)
    (h : Has old path o) : Has v (p :: path) o := by
  refine ⟨hv, hasTables_cons.mpr ⟨table, fun w hw => ?_⟩, ?_⟩
  · rw [hold] at hw
    exact Option.some.inj hw ▸ h.tables
  · rw [at?_cons, hold]
    exact h.found

/-- Places with the same under the first key have the same at their ends. -/
theorem congr (h : Has v (p :: path) o) {v' : Tree} (hv : v'.IsTidy false)
    (table : v'.isTable = true) (hfield : v'.field? p = v.field? p) : Has v' (p :: path) o := by
  have htables := (hasTables_cons.mp h.tables).2
  refine ⟨hv, hasTables_cons.mpr ⟨table, fun w hw => htables w (hfield ▸ hw)⟩, ?_⟩
  have hfound := h.found
  rw [at?_cons] at hfound ⊢
  rwa [hfield]

/-- **A value laid beside a place** leaves what is there. -/
theorem beside (h : Has v path o) (hw : w.IsTidy false) (hdown : ¬ keys <+: path.map Place.key)
    (hup : ¬ path.map Place.key <+: keys) : Has (v.overlay (nested keys w)) path o := by
  induction path generalizing v keys with
  | nil => exact absurd List.nil_prefix hup
  | cons p path ih =>
    cases keys with
    | nil => exact absurd List.nil_prefix hdown
    | cons key keys =>
      have htidy := (Env.isTidy_nested (key :: keys) hw).overlay h.tidy
      have htable : (v.overlay (nested (key :: keys) w)).isTable = true := isTable_overlay
      have hfield := field?_overlay_nested h.tidy (hasTables_cons.mp h.tables).1 hw p key keys
      rw [List.map_cons, List.cons_prefix_cons] at hdown hup
      by_cases hkey : key = p.key
      · have hdown' := fun hprefix => hdown ⟨hkey, hprefix⟩
        have hup' := fun hprefix => hup ⟨hkey.symm, hprefix⟩
        rw [if_pos hkey] at hfield
        cases hold : v.field? p with
        | some old =>
          rw [hold] at hfield
          exact cons htidy htable hfield (ih (h.tail hold) hdown' hup')
        | none =>
          -- a table is put in the place, which is as if it had been there without entries
          rw [hold] at hfield
          have hpath : path ≠ [] := fun hpath => hup' (by simp [hpath])
          obtain rfl : none = o := by
            have hfound := h.found
            rwa [at?_cons, hold] at hfound
          obtain ⟨first, rest, rfl⟩ : ∃ first rest, keys = first :: rest :=
            List.exists_cons_of_ne_nil fun hkeys => hdown' (by simp [hkeys])
          exact cons htidy htable hfield (ih (has_empty hpath) hdown' hup')
      · rw [if_neg hkey] at hfield
        exact h.congr htidy htable hfield

/-- A value on its own stands at the end of its path. -/
theorem nested (path : List Place) (hw : w.IsTidy false) :
    Has (nested (path.map Place.key) w) path (some w) := by
  induction path with
  | nil => exact ⟨hw, rfl, at?_nil w⟩
  | cons p path ih =>
    exact cons (Env.isTidy_nested _ hw) rfl ((field?_nested ..).trans (if_pos rfl)) ih

/-- **A value laid at a place** stands there, whatever was there before; only a table goes into a
table that was there. -/
theorem laid (hv : v.IsTidy false) (hw : w.IsTidy false) (path : List Place) :
    ∃ x, Has (v.overlay (Tree.nested (path.map Place.key) w)) path (some x) ∧
      (x = w ∨ x.isTable = true) := by
  induction path generalizing v with
  | nil =>
    refine ⟨v.overlay w, ⟨hw.overlay hv, rfl, at?_nil _⟩, ?_⟩
    cases table : w.isTable with
    | true => exact .inr (isTable_overlay.trans table)
    | false => exact .inl (overlay_of_not_isTable table)
  | cons p path ih =>
    have hnested := Env.isTidy_nested ((p :: path).map Place.key) hw
    have htable : (v.overlay (Tree.nested ((p :: path).map Place.key) w)).isTable = true :=
      isTable_overlay
    by_cases table : v.isTable = true
    · have hfield := field?_overlay_nested hv table hw p p.key (path.map Place.key)
      rw [if_pos rfl] at hfield
      cases hold : v.field? p with
      | some old =>
        rw [hold] at hfield
        obtain ⟨x, hx, hshows⟩ := ih (hv.field? hold)
        exact ⟨x, cons (hnested.overlay hv) htable hfield hx, hshows⟩
      | none =>
        rw [hold] at hfield
        exact ⟨w, cons (hnested.overlay hv) htable hfield (nested path hw), .inl rfl⟩
    · -- what is no table is replaced as a whole
      have hfield : (v.overlay (Tree.nested ((p :: path).map Place.key) w)).field? p =
          some (Tree.nested (path.map Place.key) w) := by
        rw [field?_overlay_of_not_isTable hnested (.inr (Bool.eq_false_iff.mpr table))]
        exact (field?_nested ..).trans (if_pos rfl)
      exact ⟨w, cons (hnested.overlay hv) htable hfield (nested path hw), .inl rfl⟩

end Has

end Tree

/-- The keys of a setting's place. -/
def Setting.keys (s : Setting) : List String :=
  s.path.map Place.key

namespace Env

/-- Whether a variable concerns a setting: it is for the setting, for a section that the setting
stands in, or for a part of the setting. -/
def concerns (s : Setting) (entry : String × String) : Bool :=
  match path? entry.1 with
  | some keys => keys.isPrefixOf s.keys || s.keys.isPrefixOf keys
  | none => false

variable {s : Setting} {t : Tree} {o : Option Tree} {environment : List (String × String)}

theorem has_lay {entry : String × String} (h : t.Has s.path o) (hentry : concerns s entry = false) :
    (lay t entry).Has s.path o := by
  unfold concerns at hentry
  unfold lay
  cases hkeys : path? entry.1 with
  | none => exact h
  | some keys =>
    simp only [hkeys, ← Bool.not_eq_true, Bool.or_eq_true, List.isPrefixOf_iff_prefix, not_or]
      at hentry
    exact h.beside (isTidy_read _) hentry.1 hentry.2

theorem has_foldl_lay (h : t.Has s.path o)
    (hnone : ∀ entry ∈ environment, concerns s entry = false) :
    (environment.foldl lay t).Has s.path o := by
  induction environment generalizing t with
  | nil => exact h
  | cons entry rest ih =>
    rw [List.forall_mem_cons] at hnone
    exact ih (has_lay h hnone.1) hnone.2

theorem has_start (s : Setting) : (Tree.object []).Has s.path none :=
  Tree.has_empty (by cases s <;> simp [Setting.path, Setting.hubSection])

/-- **A setting that no variable concerns** is not in the tree of the environment. -/
theorem has_tree (h : environment.filter (concerns s) = []) :
    (tree environment).Has s.path none := by
  refine has_foldl_lay (has_start s) fun entry hentry => ?_
  have hnot := List.filter_eq_nil_iff.mp h entry hentry
  exact Bool.not_eq_true _ ▸ hnot

/-- **The last variable that concerns a setting** says what is in the tree of the environment, if it
is for the setting itself: what it says, unless a table is there. -/
theorem has_tree_of_last {name value : String}
    (h : (environment.filter (concerns s)).getLast? = some (name, value))
    (hname : path? name = some s.keys) :
    ∃ v, (tree environment).Has s.path (some v) ∧ (v = read value ∨ v.isTable = true) := by
  obtain ⟨others, hfilter⟩ := List.getLast?_eq_some_iff.mp h
  obtain ⟨earlier, later, rfl, -, hlater⟩ := List.filter_eq_append_iff.mp hfilter
  obtain ⟨before, after, rfl, -, -, hafter⟩ := List.filter_eq_cons_iff.mp hlater
  have hnone : ∀ entry ∈ after, concerns s entry = false := fun entry hentry => by
    simpa using List.filter_eq_nil_iff.mp hafter entry hentry
  have htree : tree (earlier ++ (before ++ (name, value) :: after)) =
      after.foldl lay ((tree (earlier ++ before)).overlay (Tree.nested s.keys (read value))) := by
    simp only [tree, List.foldl_append, List.foldl_cons, lay, hname]
  obtain ⟨v, hv, hshows⟩ :=
    Tree.Has.laid (isTidy_tree (earlier ++ before)) (isTidy_read value) s.path
  rw [htree]
  exact ⟨v, has_foldl_lay hv hnone, hshows⟩

end Env

end ChannelGateway
