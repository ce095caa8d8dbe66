import FormLine.Field.Report
import FormLine.Proofs.Gathering
import Mathlib.Algebra.GroupWithZero.Nat
/-!
# Grouping diagnostics

Diagnostics are grouped by putting one message after another under its title. What the groups are in
the end is said here without the putting: the titles stand in the order in which they first occur, and
under each title are the messages of its diagnostics (`get?_grouped`). Nothing is lost or repeated: as
many messages are grouped as there are diagnostics (`total_grouped`), and the diagnostics can be had back
by taking one message after another from the front of its group (`Merges`, `merges_grouped`).

Diagnostics of some titles only, grouped, are the groups of these titles (`grouped_filter`).
-/

namespace FormLine

/-! ## Maps of groups -/

namespace OrderedMap

variable {α : Type u}

theorem get?_of_mem {m : OrderedMap α} (hnodup : m.keys.Nodup) {e : String × α} (he : e ∈ m) :
    m.get? e.1 = some e.2 := by
  induction m with
  | nil => cases he
  | cons d rest ih =>
    obtain ⟨hfresh, hrest⟩ := List.nodup_cons.mp hnodup
    obtain rfl | he := List.mem_cons.mp he
    · rw [get?, if_pos rfl]
    · -- an entry further behind has another name
      have hne : d.1 ≠ e.1 := by
        intro heq
        exact hfresh (heq ▸ List.mem_map_of_mem he)
      rw [get?, if_neg hne]
      exact ih hrest he

/-- The entries of some names, after one has been put. -/
theorem filter_put (p : String → Bool) (m : OrderedMap α) (name : String) (value : α) :
    ((m.put name value).filter fun e => p e.1) =
      if p name then OrderedMap.put (m.filter fun e => p e.1) name value
      else m.filter fun e => p e.1 := by
  induction m with
  | nil => cases hp : p name <;> simp [put, hp]
  | cons e rest ih =>
    obtain ⟨k, v⟩ := e
    by_cases hk : k = name
    · subst hk
      cases hp : p k <;> simp [put, hp]
    · cases hkeep : p k <;> cases hp : p name <;> simp [put, hk, hkeep, hp, ih]

theorem get?_filter {p : String → Bool} {name : String} (h : p name = true) (m : OrderedMap α) :
    OrderedMap.get? (m.filter fun e => p e.1) name = m.get? name := by
  induction m with
  | nil => rfl
  | cons e rest ih =>
    obtain ⟨k, v⟩ := e
    by_cases hk : k = name
    · subst hk
      simp [get?, h]
    · cases hkeep : p k <;> simp [get?, hk, hkeep, ih]

/-- How many items a map of lists holds. -/
def total (m : OrderedMap (List α)) : Nat := (m.map fun e => e.2.length).sum

/-- Putting a list under a name takes the place of the list that is there. -/
theorem total_put (m : OrderedMap (List α)) (name : String) (items : List α) :
    (m.put name items).total + ((m.get? name).getD []).length = m.total + items.length := by
  induction m with
  | nil => simp [put, get?, total]
  | cons e rest ih =>
    obtain ⟨k, v⟩ := e
    by_cases hk : k = name
    · simp [put, get?, total, hk]
      omega
    · simp only [total] at ih
      simp only [put, get?, total, hk, if_false, List.map_cons, List.sum_cons]
      omega

end OrderedMap

namespace Diagnostic

/-! ## The statement -/

/-- These are the diagnostics of the title, in the order that they have among all. -/
def AreTitled (title : String) (ds titled : List Diagnostic) : Prop :=
  titled.Sublist ds ∧ ∀ d, titled.count d = if d.title = title then ds.count d else 0

/-- The diagnostics are a merge of the groups: each has the first message that is left under its title,
and none is left at the end. -/
inductive Merges : List Diagnostic → OrderedMap (List String) → Prop
  | nil {groups : OrderedMap (List String)} (h : ∀ e ∈ groups, e.2 = []) : Merges [] groups
  | cons {d : Diagnostic} {ds : List Diagnostic} {groups : OrderedMap (List String)}
    {messages : List String} (hfirst : groups.get? d.title = some (d.message :: messages))
    (hrest : Merges ds (groups.put d.title messages)) : Merges (d :: ds) groups

/-! ## One message more -/

theorem keys_addTo (groups : OrderedMap (List String)) (d : Diagnostic) : (addTo groups d).keys =
    if d.title ∈ groups.keys then groups.keys else groups.keys ++ [d.title] :=
  groups.keys_put d.title _

theorem getD_addTo (groups : OrderedMap (List String)) (d : Diagnostic) (title : String) :
    ((addTo groups d).get? title).getD [] =
      (groups.get? title).getD [] ++ (titled title [d]).map message := by
  rw [addTo, OrderedMap.get?_put]
  by_cases h : d.title = title
  · subst h
    simp [titled]
  · simp [titled, h]

theorem total_addTo (groups : OrderedMap (List String)) (d : Diagnostic) :
    (addTo groups d).total = groups.total + 1 := by
  have hput := groups.total_put d.title ((groups.get? d.title).getD [] ++ [d.message])
  rw [List.length_append, List.length_singleton] at hput
  rw [addTo]
  omega

theorem ne_nil_addTo {groups : OrderedMap (List String)} (h : ∀ e ∈ groups, e.2 ≠ []) (d : Diagnostic) :
    ∀ e ∈ addTo groups d, e.2 ≠ [] := by
  intro e he
  obtain he | rfl := OrderedMap.mem_put he
  · exact h e he
  · simp

theorem addTo_filter (p : String → Bool) (groups : OrderedMap (List String)) (d : Diagnostic) :
    ((addTo groups d).filter fun e => p e.1) =
      if p d.title then addTo (groups.filter fun e => p e.1) d else groups.filter fun e => p e.1 := by
  rw [addTo, OrderedMap.filter_put]
  cases hp : p d.title with
  | false => rfl
  | true => rw [addTo, OrderedMap.get?_filter hp]

/-! ## All messages -/

theorem keys_grouped (ds : List Diagnostic) : (grouped ds).keys = (ds.map title).eraseDups :=
  OrderedMap.keys_foldl_write_nil keys_addTo ds

theorem nodup_keys_grouped (ds : List Diagnostic) : (grouped ds).keys.Nodup :=
  List.foldlRecOn (motive := fun groups => (OrderedMap.keys groups).Nodup) ds addTo List.nodup_nil
    fun _ h d _ => OrderedMap.nodup_keys_put h d.title _

theorem titled_cons (title : String) (d : Diagnostic) (ds : List Diagnostic) :
    titled title (d :: ds) = titled title [d] ++ titled title ds := by
  rw [titled, ← List.singleton_append, List.filter_append]
  rfl

/-- Under a title are the messages of its diagnostics. -/
theorem get?_grouped (ds : List Diagnostic) (title : String) :
    ((grouped ds).get? title).getD [] = (titled title ds).map message := by
  -- For every map at the start: what it holds stands in front.
  have hfold : ∀ groups : OrderedMap (List String), ((ds.foldl addTo groups).get? title).getD [] =
      (groups.get? title).getD [] ++ (titled title ds).map message := by
    induction ds with
    | nil => intro groups; simp [titled]
    | cons d rest ih =>
      intro groups
      rw [List.foldl_cons, ih, getD_addTo, titled_cons title d rest, List.map_append, List.append_assoc]
  exact hfold []

theorem total_grouped (ds : List Diagnostic) : (grouped ds).total = ds.length := by
  have hfold : ∀ groups : OrderedMap (List String),
      OrderedMap.total (ds.foldl addTo groups) = groups.total + ds.length := by
    induction ds with
    | nil => intro groups; rfl
    | cons d rest ih =>
      intro groups
      rw [List.foldl_cons, ih, total_addTo, List.length_cons]
      omega
  have hempty : OrderedMap.total ([] : OrderedMap (List String)) = 0 := rfl
  rw [grouped, hfold, hempty, Nat.zero_add]

theorem ne_nil_grouped (ds : List Diagnostic) : ∀ e ∈ grouped ds, e.2 ≠ [] := by
  have hempty : ∀ e ∈ ([] : OrderedMap (List String)), e.2 ≠ [] := by simp
  exact List.foldlRecOn (motive := fun groups => ∀ e ∈ groups, e.2 ≠ []) ds addTo hempty
    fun _ h d _ => ne_nil_addTo h d

/-- Diagnostics of some titles only, grouped, are the groups of these titles. -/
theorem grouped_filter (p : String → Bool) (ds : List Diagnostic) :
    grouped (ds.filter fun d => p d.title) = (grouped ds).filter fun e => p e.1 := by
  have hfold : ∀ groups : OrderedMap (List String),
      (ds.filter fun d => p d.title).foldl addTo (groups.filter fun e => p e.1) =
        (ds.foldl addTo groups).filter fun e => p e.1 := by
    induction ds with
    | nil => intro groups; rfl
    | cons d rest ih =>
      intro groups
      rw [List.foldl_cons, ← ih, addTo_filter]
      cases hp : p d.title <;> simp [hp]
  exact hfold []

theorem areTitled_titled (title : String) (ds : List Diagnostic) :
    AreTitled title ds (titled title ds) := by
  refine ⟨List.filter_sublist, ?_⟩
  intro d
  by_cases h : d.title = title
  · rw [if_pos h, titled, List.count_filter (by simpa using h)]
  · rw [if_neg h, List.count_eq_zero, titled]
    intro hmem
    exact h (by simpa using (List.mem_filter.mp hmem).2)

theorem merges_of_messages {ds : List Diagnostic} {groups : OrderedMap (List String)}
    (hnodup : groups.keys.Nodup)
    (h : ∀ title, (groups.get? title).getD [] = (titled title ds).map message) : Merges ds groups := by
  -- The groups shrink from the front as the diagnostics do.
  induction ds generalizing groups with
  | nil =>
    refine .nil fun e he => ?_
    have hempty := h e.1
    rwa [OrderedMap.get?_of_mem hnodup he] at hempty
  | cons d rest ih =>
    have hmine := h d.title
    have hself : titled d.title [d] = [d] := by simp [titled]
    rw [titled_cons, hself, List.singleton_append, List.map_cons] at hmine
    cases hget : groups.get? d.title with
    | none => rw [hget] at hmine; cases hmine
    | some messages =>
      rw [hget, Option.getD_some] at hmine
      subst hmine
      refine .cons hget (ih (OrderedMap.nodup_keys_put hnodup _ _) ?_)
      intro title
      rw [OrderedMap.get?_put]
      by_cases htitle : d.title = title
      · subst htitle
        simp
      · have hother : titled title [d] = [] := by simp [titled, htitle]
        rw [if_neg htitle, h title, titled_cons, hother, List.nil_append]

theorem merges_grouped (ds : List Diagnostic) : Merges ds (grouped ds) :=
  merges_of_messages (nodup_keys_grouped ds) (get?_grouped ds)

end Diagnostic

/-- **Grouping loses, repeats and reorders nothing.** The titles stand in the order in which they first
come up, each with the messages of its diagnostics in the order of the specification, so the diagnostics
are a merge of the groups. There are as many messages as diagnostics, no group is empty, and grouping is
done title by title: what is left out by title before is left out afterwards. -/
theorem Report.grouped_merges (r : Report) :
    r.grouped.keys = (r.diagnostics.map Diagnostic.title).eraseDups ∧
      (∀ title, Diagnostic.AreTitled title r.diagnostics (r.titled title) ∧
        (r.grouped.get? title).getD [] = (r.titled title).map Diagnostic.message) ∧
      (r.grouped.map fun e => e.2.length).sum = r.errorCount ∧
      (∀ e ∈ r.grouped, e.2 ≠ []) ∧
      (r.isValid = true ↔ r.grouped = []) ∧
      Diagnostic.Merges r.diagnostics r.grouped ∧
      ∀ p : String → Bool, Diagnostic.grouped (r.diagnostics.filter fun d => p d.title) =
        r.grouped.filter fun e => p e.1 := by
  have htotal := Diagnostic.total_grouped r.diagnostics
  refine ⟨Diagnostic.keys_grouped _, ?_, htotal, Diagnostic.ne_nil_grouped _, ?_,
    Diagnostic.merges_grouped _, fun p => Diagnostic.grouped_filter p _⟩
  · intro title
    exact ⟨Diagnostic.areTitled_titled title _, Diagnostic.get?_grouped _ title⟩
  · rw [isValid, List.isEmpty_iff]
    constructor
    · intro h
      rw [grouped, h]
      rfl
    · intro h
      rw [grouped] at h
      rw [h] at htotal
      exact List.eq_nil_of_length_eq_zero htotal.symm

/-- A title that comes up again keeps its place. -/
example : Diagnostic.grouped [⟨"a", "1"⟩, ⟨"b", "2"⟩, ⟨"a", "3"⟩] =
    [("a", ["1", "3"]), ("b", ["2"])] := by decide

end FormLine
