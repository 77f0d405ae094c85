import ChannelGateway.Config.Start
import ChannelGateway.Proofs.Tidy

/-!
# The trees of files and of the environment

Values of variables and documents of files are built by entering keys into tables, so in none of
them a key is there twice, and there is no way to write a null. What is said of the trees that a
text is read as is said of each scan that the reading is made of (`Scan.Yields`), so a reader has
one lemma for each of its parts, and a container one that supposes what it says of the values in it.

Results:
* `Scan.Yields.bind`, `Scan.yields_items`: scans in sequence, and items of a container.
* **`Toml.isTidy_of_read?`**: the document of a file.
* **`Env.isTidy_tree`**: the tree of the environment.
-/

namespace ChannelGateway

/-! ## What scans yield -/

namespace Scan

variable {α β : Type} {P : α → Prop} {Q : β → Prop} {s : Scan α}

/-- Whatever a scan takes from the front of a text is of a kind. -/
def Yields (s : Scan α) (P : α → Prop) : Prop :=
  ∀ cs a rest, s cs = some (a, rest) → P a

theorem yields_true : s.Yields fun _ => True :=
  fun _ _ _ _ => trivial

theorem yields_pure {a : α} (h : P a) : Yields (pure a) P := by
  intro cs b rest hrun
  cases hrun
  exact h

theorem yields_failure : Yields (failure : Scan α) P := by
  intro cs a rest hrun
  cases hrun

theorem Yields.bind (h : s.Yields P) {f : α → Scan β} (hf : ∀ a, P a → (f a).Yields Q) :
    Yields (s >>= f) Q := by
  intro cs b rest hrun
  obtain ⟨⟨a, mid⟩, ha, hb⟩ := Option.bind_eq_some_iff.mp hrun
  exact hf a (h cs a mid ha) mid b rest hb

/-- A scan that needs nothing from the one before it. -/
theorem yields_bind {f : α → Scan β} (hf : ∀ a, (f a).Yields Q) : Yields (s >>= f) Q :=
  yields_true.bind fun a _ => hf a

theorem Yields.map (h : s.Yields P) {f : α → β} (hf : ∀ a, P a → Q (f a)) : Yields (f <$> s) Q := by
  rw [map_eq_pure_bind]
  exact h.bind fun a ha => yields_pure (hf a ha)

theorem Yields.orElse (h : s.Yields P) {s' : Scan α} (h' : s'.Yields P) : Yields (s <|> s') P := by
  intro cs a rest hrun
  have hcases : (s cs <|> s' cs) = some (a, rest) := hrun
  rcases hs : s cs with _ | r
  · rw [hs] at hcases
    exact h' cs a rest hcases
  · rw [hs] at hcases
    cases hcases
    exact h cs a rest hs

theorem yields_lift {o : Option α} (h : ∀ a, o = some a → P a) :
    Yields (liftM o : Scan α) P := by
  intro cs a rest hrun
  obtain ⟨b, hb, he⟩ := Option.bind_eq_some_iff.mp hrun
  cases he
  exact h a hb

/-- The items of a container. -/
theorem yields_items (h : s.Yields P) (blank : Scan Unit) (close : Char) (fuel : Nat) :
    (items s blank close fuel).Yields fun l => ∀ a ∈ l, P a := by
  induction fuel with
  | zero => exact yields_failure
  | succ fuel ih =>
    unfold items
    refine yields_bind fun _ => yields_bind fun closed => ?_
    split
    · exact yields_pure (by simp)
    refine h.bind fun a ha => yields_bind fun _ => yields_bind fun more => ?_
    split
    · exact ih.bind fun l hl => yields_pure (List.forall_mem_cons.mpr ⟨ha, hl⟩)
    · exact yields_bind fun _ => yields_pure (by simpa using ha)

theorem yields_bracketed (h : s.Yields P) (openChar : Char) (blank : Scan Unit) (close : Char) :
    (bracketed openChar s blank close).Yields fun l => ∀ a ∈ l, P a :=
  yields_bind fun _ cs => yields_items h blank close (cs.length + 1) cs

/-- Steps one after the other, each from what the one before it has yielded. -/
theorem yields_foldlM {f : β → α → Scan β} {l : List α} (hf : ∀ b, ∀ a ∈ l, Q b → (f b a).Yields Q)
    {b : β} (hb : Q b) : (l.foldlM f b).Yields Q := by
  induction l generalizing b with
  | nil => exact yields_pure hb
  | cons a rest ih =>
    rw [List.foldlM_cons]
    refine Yields.bind (hf b a List.mem_cons_self hb) fun b' hb' => ih (fun b a ha => ?_) hb'
    exact hf b a (List.mem_cons_of_mem _ ha)

theorem Yields.whole? (h : s.Yields P) {cs : List Char} {a : α} (ha : s.whole? cs = some a) :
    P a := by
  unfold Scan.whole? at ha
  split at ha
  · next b hrun =>
    cases ha
    exact h cs a [] hrun
  · cases ha

end Scan

/-! ## Documents -/

namespace Toml

open Scan

/-- A JSON value without nulls whose objects have no key twice. -/
abbrev IsTidy (v : Json) : Prop :=
  (Tree.ofJson v).IsTidy false

/-! ### Tables that are built -/

/-- What stands under a key is tidy. -/
inductive Node.IsTidy : Node → Prop
  | value {v : Json} (tidy : Toml.IsTidy v) : IsTidy (.value v)
  | table {origin : Origin} {entries : Entries} (distinct : entries.Distinct)
    (inner : ∀ entry ∈ entries, IsTidy entry.2) : IsTidy (.table origin entries)
  | tables {items : List Entries} (distinct : ∀ entries ∈ items, entries.Distinct)
    (inner : ∀ entries ∈ items, ∀ entry ∈ entries, IsTidy entry.2) : IsTidy (.tables items)

/-- A table that is built is tidy. -/
abbrev Entries.IsTidy (entries : Entries) : Prop :=
  Table.IsTidy Node.IsTidy entries

theorem Node.entriesToFields_eq (entries : Entries) :
    entriesToFields entries = entries.map fun entry => (entry.1, entry.2.toJson) := by
  induction entries with
  | nil => rfl
  | cons entry rest ih => rw [entriesToFields, ih, List.map_cons]

theorem Node.itemsToJson_eq (items : List Entries) :
    itemsToJson items = items.map entriesToJson := by
  induction items with
  | nil => rfl
  | cons entries rest ih => rw [itemsToJson, ih, List.map_cons, entriesToJson]

theorem Node.isTidy_entriesToJson {entries : Entries} (distinct : entries.Distinct)
    (inner : ∀ entry ∈ entries, Toml.IsTidy entry.2.toJson) :
    Toml.IsTidy (entriesToJson entries) := by
  rw [entriesToJson, entriesToFields_eq]
  exact Tree.isTidy_object (Table.IsTidy.map ⟨distinct, inner⟩)

theorem Node.IsTidy.toJson {node : Node} (h : node.IsTidy) : Toml.IsTidy node.toJson := by
  induction h with
  | value tidy => exact tidy
  | table distinct _ ih => exact isTidy_entriesToJson distinct ih
  | tables distinct _ ih =>
    refine Tree.isTidy_array fun v hv => ?_
    rw [itemsToJson_eq, List.mem_reverse] at hv
    obtain ⟨entries, hentries, rfl⟩ := List.mem_map.mp hv
    exact isTidy_entriesToJson (distinct entries hentries) (ih entries hentries)

theorem Entries.IsTidy.toJson {entries : Entries} (h : entries.IsTidy) :
    Toml.IsTidy (Node.entriesToJson entries) :=
  Node.isTidy_entriesToJson h.distinct fun entry hentry => (h.inner entry hentry).toJson

section

variable {entries out : Entries} {key : String} {path : List String} {v : Json}

theorem isTidy_give (h : entries.IsTidy) (hv : IsTidy v) (hout : give key v entries = some out) :
    out.IsTidy := by
  unfold give at hout
  split at hout
  · cases hout
  · cases hout
    exact h.insert key (.value hv)

/-- A change inside a table, if it leaves the inner table tidy. -/
theorem isTidy_descend {origin : Origin} {change : Origin → Entries → Option Entries}
    (hchange : ∀ reached entries out, Entries.IsTidy entries → change reached entries = some out →
      out.IsTidy)
    {reached : Origin} (h : entries.IsTidy)
    (hout : descend origin change path reached entries = some out) : out.IsTidy := by
  induction path generalizing reached entries out with
  | nil => exact hchange _ _ _ h hout
  | cons key path ih =>
    unfold descend at hout
    split at hout
    · obtain ⟨inner, hinner, hout⟩ := Option.bind_eq_some_iff.mp hout
      cases hout
      have htable := ih .nil hinner
      exact h.insert key (.table htable.distinct htable.inner)
    · cases hout
    · next o inner hget =>
      split at hout
      · cases hout
      · obtain ⟨inner', hinner, hout⟩ := Option.bind_eq_some_iff.mp hout
        cases hout
        cases h.get? hget with
        | table distinct tidy =>
          have htable := ih ⟨distinct, tidy⟩ hinner
          exact h.insert key (.table htable.distinct htable.inner)
    · cases hout
    · next last others hget =>
      obtain ⟨last', hlast, hout⟩ := Option.bind_eq_some_iff.mp hout
      cases hout
      cases h.get? hget with
      | tables distinct tidy =>
        rw [List.forall_mem_cons] at distinct tidy
        have htable := ih ⟨distinct.1, tidy.1⟩ hlast
        exact h.insert key (.tables (List.forall_mem_cons.mpr ⟨htable.distinct, distinct.2⟩)
          (List.forall_mem_cons.mpr ⟨htable.inner, tidy.2⟩))

theorem isTidy_assign (h : entries.IsTidy) (hv : IsTidy v)
    (hout : assign path v entries = some out) :
    out.IsTidy := by
  unfold assign at hout
  split at hout
  · cases hout
  · exact isTidy_give h hv hout
  · refine isTidy_descend (fun reached entries out h hout => ?_) h hout
    split at hout
    · exact isTidy_give h hv hout
    · cases hout

theorem isTidy_openTable (h : entries.IsTidy) (hout : openTable path entries = some out) :
    out.IsTidy := by
  unfold openTable at hout
  split at hout
  · cases hout
  · refine isTidy_descend (fun reached entries out h hout => ?_) h hout
    split at hout
    · cases hout
      exact h.insert _ (.table .nil (by simp))
    · next inner hget =>
      cases hout
      cases h.get? hget with
      | table distinct tidy => exact h.insert _ (.table distinct tidy)
    · cases hout

theorem isTidy_openItem (h : entries.IsTidy) (hout : openItem path entries = some out) :
    out.IsTidy := by
  unfold openItem at hout
  split at hout
  · cases hout
  · refine isTidy_descend (fun reached entries out h hout => ?_) h hout
    split at hout
    · cases hout
      exact h.insert _ (.tables (by simp [Table.Distinct.nil]) (by simp))
    · next items hget =>
      cases hout
      cases h.get? hget with
      | tables distinct tidy =>
        exact h.insert _ (.tables (List.forall_mem_cons.mpr ⟨.nil, distinct⟩)
          (List.forall_mem_cons.mpr ⟨by simp, tidy⟩))
    · cases hout

theorem isTidy_assignUnder {header : List String} (h : entries.IsTidy) (hv : IsTidy v)
    (hout : assignUnder header path v entries = some out) : out.IsTidy :=
  isTidy_descend (fun _ _ _ h hout => isTidy_assign h hv hout) h hout

end

/-! ### Values that are read -/

theorem isTidy_of_integer? {negative : Bool} {magnitude : Nat} {v : Json}
    (h : integer? negative magnitude = some v) : IsTidy v := by
  unfold integer? at h
  dsimp only at h
  generalize (if negative then -Int.ofNat magnitude else Int.ofNat magnitude) = n at h
  split at h
  · cases h
    exact .int n
  · cases h

theorem yields_based (letter : Char) (base : Nat) : (based letter base).Yields IsTidy :=
  yields_bind fun _ => yields_bind fun _ => yields_lift fun _ => isTidy_of_integer?

theorem yields_decimal : decimal.Yields IsTidy := by
  have hfloat : ∀ negative x, IsTidy (signed negative x) := fun _ _ => .float _
  unfold decimal
  refine yields_bind fun negative => yields_bind fun next => ?_
  split
  · exact yields_bind fun _ => yields_pure (hfloat _ _)
  refine yields_bind fun next => ?_
  split
  · exact yields_bind fun _ => yields_pure (hfloat _ _)
  refine yields_bind fun _ => yields_bind fun _ => yields_bind fun _ => ?_
  split
  · exact yields_lift fun _ => isTidy_of_integer?
  dsimp only
  split
  · exact yields_bind fun _ => yields_pure (hfloat _ _)
  · exact yields_pure (hfloat _ _)

theorem yields_date : date.Yields IsTidy := by
  refine yields_bind fun before => yields_bind fun _ => yields_bind fun after => yields_pure ?_
  exact Tree.isTidy_object (Table.IsTidy.nil.insert dateKey (.text _))

theorem yields_number : number.Yields IsTidy :=
  yields_date.orElse ((yields_based 'x' 16).orElse ((yields_based 'o' 8).orElse
    ((yields_based 'b' 2).orElse yields_decimal)))

section

variable {value : Scan Json} (h : value.Yields IsTidy)
include h

theorem yields_pair : (pair value).Yields fun p => IsTidy p.2 :=
  yields_bind fun _ => yields_bind fun _ => yields_bind fun _ => yields_bind fun _ =>
    h.bind fun _ hv => yields_pure hv

theorem yields_morePairs (fuel : Nat) :
    (morePairs value fuel).Yields fun pairs => ∀ p ∈ pairs, IsTidy p.2 := by
  induction fuel with
  | zero => exact yields_failure
  | succ fuel ih =>
    unfold morePairs
    refine yields_bind fun _ => yields_bind fun more => ?_
    split
    · exact yields_bind fun _ => (yields_pair h).bind fun p hp => ih.bind fun rest hrest =>
        yields_pure (List.forall_mem_cons.mpr ⟨hp, hrest⟩)
    · exact yields_bind fun _ => yields_pure (by simp)

theorem yields_inlineTable : (inlineTable value).Yields IsTidy := by
  unfold inlineTable
  refine yields_bind fun _ => yields_bind fun _ => yields_bind fun closed => ?_
  split
  · exact yields_pure (Tree.isTidy_object .nil)
  have hmore : Yields (fun cs => morePairs value (cs.length + 1) cs) fun pairs =>
      ∀ p ∈ pairs, IsTidy p.2 := fun cs => yields_morePairs h (cs.length + 1) cs
  refine (yields_pair h).bind fun first hfirst => hmore.bind fun rest hrest => ?_
  have hpairs : ∀ p ∈ first :: rest, IsTidy p.2 := List.forall_mem_cons.mpr ⟨hfirst, hrest⟩
  refine Yields.bind (P := Entries.IsTidy) (yields_foldlM (fun entries p hp hentries => ?_) .nil)
    fun entries hentries => yields_pure hentries.toJson
  exact yields_lift fun out hout => isTidy_assign hentries (hpairs p hp) hout

end

theorem yields_value (depth : Nat) : (value depth).Yields IsTidy := by
  induction depth with
  | zero => exact yields_failure
  | succ depth ih =>
    unfold value
    refine yields_bind fun next => ?_
    split
    · exact yields_bind fun _ => yields_pure (.text _)
    · exact yields_bind fun _ => yields_pure (.text _)
    · split
      · exact yields_failure
      · exact (yields_bracketed ih _ _ _).bind fun items hitems =>
          yields_pure (Tree.isTidy_array hitems)
    · split
      · exact yields_failure
      · exact yields_inlineTable ih
    · exact yields_bind fun _ => yields_pure (.bool _)
    · exact yields_bind fun _ => yields_pure (.bool _)
    · exact yields_number

/-! ### Documents that are read -/

/-- The value that a statement gives is tidy. -/
def Statement.IsTidy : Statement → Prop
  | pair _ v => Toml.IsTidy v
  | _ => True

theorem yields_statement : statement.Yields Statement.IsTidy := by
  unfold statement
  refine yields_bind fun next => ?_
  split
  · unfold header
    refine yields_bind fun _ => yields_bind fun item => ?_
    split
    · exact yields_bind fun _ => yields_bind fun _ => yields_pure trivial
    · exact yields_bind fun _ => yields_bind fun _ => yields_pure trivial
  · exact (yields_pair (yields_value _)).bind fun p hp => yields_pure hp

theorem yields_statements (fuel : Nat) :
    (statements fuel).Yields fun list => ∀ s ∈ list, s.IsTidy := by
  induction fuel with
  | zero => exact yields_pure (by simp)
  | succ fuel ih =>
    unfold statements
    refine yields_bind fun _ => yields_bind fun next => ?_
    split
    · exact yields_pure (by simp)
    · exact yields_statement.bind fun s hs => yields_bind fun _ => ih.bind fun rest hrest =>
        yields_pure (List.forall_mem_cons.mpr ⟨hs, hrest⟩)

theorem Draft.isTidy_take {d d' : Draft} {s : Statement} (h : d.root.IsTidy) (hs : s.IsTidy)
    (htake : d.take s = some d') : d'.root.IsTidy := by
  cases s with
  | table path =>
    obtain ⟨root, hroot, htake⟩ := Option.bind_eq_some_iff.mp htake
    cases htake
    exact isTidy_openTable h hroot
  | item path =>
    obtain ⟨root, hroot, htake⟩ := Option.bind_eq_some_iff.mp htake
    cases htake
    exact isTidy_openItem h hroot
  | pair path v =>
    obtain ⟨root, hroot, htake⟩ := Option.bind_eq_some_iff.mp htake
    cases htake
    exact isTidy_assignUnder h hs hroot

theorem Draft.isTidy_foldlM {list : List Statement} (hlist : ∀ s ∈ list, s.IsTidy) {d d' : Draft}
    (h : d.root.IsTidy) (hfold : list.foldlM take d = some d') : d'.root.IsTidy := by
  induction list generalizing d with
  | nil =>
    cases hfold
    exact h
  | cons s rest ih =>
    rw [List.forall_mem_cons] at hlist
    rw [List.foldlM_cons] at hfold
    obtain ⟨mid, hmid, hfold⟩ := Option.bind_eq_some_iff.mp hfold
    exact ih hlist.2 (isTidy_take h hlist.1 hmid) hfold

/-- **The document of a file** has no key twice in a table, and no nulls. -/
theorem isTidy_of_read? {text : String} {v : Json} (h : read? text = some v) : IsTidy v := by
  obtain ⟨list, hlist, h⟩ := Option.bind_eq_some_iff.mp h
  obtain ⟨draft, hdraft, h⟩ := Option.bind_eq_some_iff.mp h
  cases h
  have hstatements := (yields_statements _).whole? hlist
  have hroot : draft.root.IsTidy := Draft.isTidy_foldlM hstatements .nil hdraft
  exact hroot.toJson

end Toml

/-! ## The environment -/

namespace Env

open Scan

theorem isTidy_of_integer {cs : List Char} {v : Tree} (h : integer.whole? cs = some v) :
    v.IsTidy false := by
  have hyields : integer.Yields (Tree.IsTidy false) := by
    unfold integer
    refine yields_bind fun negative => yields_bind fun _ => ?_
    dsimp only
    split
    · split
      · exact yields_pure (.int _)
      · exact yields_failure
    · split
      · exact yields_pure (.natural _)
      · exact yields_failure
  exact hyields.whole? h

theorem isTidy_plain (cs : List Char) : (plain cs).IsTidy false := by
  unfold plain
  split
  · exact .float _
  · next hinteger => exact isTidy_of_integer hinteger
  · exact .text _

theorem isTidy_table {fields : List (String × Tree)} (h : ∀ field ∈ fields, field.2.IsTidy false) :
    (table fields).IsTidy false := by
  have hfold : ∀ t : List (String × Tree), Table.IsTidy (Tree.IsTidy false) t →
      Table.IsTidy (Tree.IsTidy false) (fields.foldl (fun t f => Table.insert t f.1 f.2) t) := by
    induction fields with
    | nil => exact fun t ht => ht
    | cons field rest ih =>
      rw [List.forall_mem_cons] at h
      exact fun t ht => ih h.2 _ (ht.insert field.1 h.1)
  exact .ofTable (hfold [] .nil)

theorem yields_pair {value : Scan Tree} (h : value.Yields (Tree.IsTidy false)) :
    (pair value).Yields fun p => p.2.IsTidy false :=
  yields_bind fun _ => yields_bind fun _ => h.bind fun _ hv => yields_pure hv

theorem yields_bareValue {inner : Scan Tree} (h : inner.Yields (Tree.IsTidy false)) :
    (bareValue inner).Yields (Tree.IsTidy false) := by
  unfold bareValue
  refine yields_bind fun truth => ?_
  split
  · exact yields_pure (.bool _)
  refine yields_bind fun next => ?_
  split
  · exact yields_true.map fun s _ => .text s
  · exact yields_true.map fun c _ => .char c
  · exact (yields_bracketed h _ _ _).map fun items hitems => .array hitems
  · exact (yields_bracketed (yields_pair h) _ _ _).map fun fields hfields => isTidy_table hfields
  · exact yields_true.map fun cs _ => isTidy_plain _

theorem yields_value (depth : Nat) : (value depth).Yields (Tree.IsTidy false) := by
  induction depth with
  | zero => exact yields_failure
  | succ depth ih =>
    exact yields_bind fun _ => (yields_bareValue ih).bind fun v hv => yields_bind fun _ =>
      yields_pure hv

theorem isTidy_read (s : String) : (read s).IsTidy false := by
  unfold read
  dsimp only
  cases hvalue : (value (s.toList.length + 1)).whole? s.toList with
  | none => exact .text s
  | some v => exact (yields_value _).whole? hvalue

theorem isTidy_nested (path : List String) {v : Tree} (h : v.IsTidy false) :
    (Tree.nested path v).IsTidy false := by
  induction path with
  | nil => exact h
  | cons key path ih => exact .ofTable (Table.IsTidy.nil.insert key ih)

theorem isTidy_lay {t : Tree} (h : t.IsTidy false) (entry : String × String) :
    (lay t entry).IsTidy false := by
  unfold lay
  split
  · exact (isTidy_nested _ (isTidy_read _)).overlay h
  · exact h

/-- **The tree of the environment** has no key twice in a table, and no nulls. -/
theorem isTidy_tree (environment : List (String × String)) : (tree environment).IsTidy false := by
  have hroot : (Tree.object []).IsTidy false := .ofTable .nil
  unfold tree
  generalize Tree.object [] = t at hroot
  induction environment generalizing t with
  | nil => exact hroot
  | cons entry rest ih =>
    rw [List.foldl_cons]
    exact ih _ (isTidy_lay hroot entry)

end Env

end ChannelGateway
