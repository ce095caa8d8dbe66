import FormLine.Proofs.Lookup
/-!
# Maps gathered from entries

What a map holds after entries were put into it one after another, said without the putting: its names
are those of the entries, each once and in the order in which they first occur, and the value of a name
is that of its last entry (`Gathers`). There is exactly one such map (`gathers_iff`), so whatever is
proved of a map that gathers the entries is proved of the one that was built.
-/

namespace FormLine.OrderedMap

variable {α : Type u}

/-- The value is that of the last entry of the name. -/
def LastValue (entries : List (String × α)) (name : String) (value : α) : Prop :=
  ∃ before after, entries = before ++ (name, value) :: after ∧ ∀ e ∈ after, e.1 ≠ name

/-- The map holds the names of the entries in the order of their first occurrence, each with the value
of its last entry. -/
structure Gathers (entries : List (String × α)) (m : OrderedMap α) : Prop where
  names : m.keys = (entries.map Prod.fst).eraseDups
  value : ∀ name value, m.get? name = some value ↔ LastValue entries name value

/-! ## Names -/

/-- Writing under names, whatever is written: the names that are new stand behind the known ones, in the
order in which they first occur. -/
theorem keys_foldl_write {β : Type v} {write : OrderedMap α → β → OrderedMap α} {name : β → String}
    (hwrite : ∀ m b, (write m b).keys = if name b ∈ m.keys then m.keys else m.keys ++ [name b])
    (bs : List β) (m : OrderedMap α) :
    (bs.foldl write m).keys = m.keys ++ ((bs.map name).removeAll m.keys).eraseDups := by
  induction bs generalizing m with
  | nil => simp [List.removeAll]
  | cons b rest ih =>
    rw [List.foldl_cons, ih, hwrite]
    by_cases h : name b ∈ m.keys
    · -- a known name adds nothing
      simp [List.removeAll, h]
    · -- a new name stands behind the known ones, and writing under it again adds nothing
      have hrest : ((rest.map name).removeAll (m.keys ++ [name b])) =
          ((rest.map name).removeAll m.keys).filter fun n => !n == name b := by
        simp only [List.removeAll, List.filter_filter]
        refine List.filter_congr fun n _ => ?_
        by_cases hn : n = name b <;> simp [hn]
      rw [if_neg h, hrest, List.map_cons, List.append_assoc]
      simp [List.removeAll, h, List.eraseDups_cons]

/-- Writing under names into the empty map gives the names once each. -/
theorem keys_foldl_write_nil {β : Type v} {write : OrderedMap α → β → OrderedMap α} {name : β → String}
    (hwrite : ∀ m b, (write m b).keys = if name b ∈ m.keys then m.keys else m.keys ++ [name b])
    (bs : List β) : (bs.foldl write []).keys = (bs.map name).eraseDups := by
  have hnames : (bs.map name).removeAll [] = bs.map name := by simp [List.removeAll]
  have h := keys_foldl_write hwrite bs []
  rwa [show (keys [] : List String) = [] from rfl, List.nil_append, hnames] at h

theorem keys_ofEntries (entries : List (String × α)) :
    (ofEntries entries).keys = (entries.map Prod.fst).eraseDups :=
  keys_foldl_write_nil (fun m e => keys_put m e.1 e.2) entries

theorem nodup_keys_put {m : OrderedMap α} (h : m.keys.Nodup) (name : String) (value : α) :
    (m.put name value).keys.Nodup := by
  rw [keys_put]
  split
  · exact h
  · rename_i hname
    rw [List.nodup_append]
    refine ⟨h, by simp, ?_⟩
    intro k hk n hn heq
    rw [List.mem_singleton.mp hn] at heq
    exact hname (heq ▸ hk)

theorem nodup_keys_ofEntries (entries : List (String × α)) : (ofEntries entries).keys.Nodup :=
  List.foldlRecOn (motive := fun m : OrderedMap α => m.keys.Nodup) entries
    (fun m e => put m e.1 e.2) List.nodup_nil fun _ h e _ => nodup_keys_put h e.1 e.2

/-! ## Entries -/

theorem mem_put {m : OrderedMap α} {name : String} {value : α} {e : String × α}
    (he : e ∈ m.put name value) : e ∈ m ∨ e = (name, value) := by
  induction m with
  | nil => exact .inr (List.mem_singleton.mp he)
  | cons d rest ih =>
    obtain ⟨k, v⟩ := d
    rw [put] at he
    split at he
    · rename_i hk
      subst hk
      obtain h | h := List.mem_cons.mp he
      · exact .inr h
      · exact .inl (List.mem_cons_of_mem _ h)
    · obtain rfl | h := List.mem_cons.mp he
      · exact .inl List.mem_cons_self
      · exact (ih h).imp (List.mem_cons_of_mem _) id

/-- What a map holds was put into it. -/
theorem mem_ofEntries {entries : List (String × α)} {e : String × α}
    (he : e ∈ ofEntries entries) : e ∈ entries := by
  have hall : ∀ e ∈ ofEntries entries, e ∈ entries := by
    refine List.foldlRecOn (motive := fun m : OrderedMap α => ∀ e ∈ m, e ∈ entries) entries
      (fun m e => put m e.1 e.2) (fun e he => absurd he List.not_mem_nil) ?_
    intro m hm d hd e he
    obtain he | rfl := mem_put he
    · exact hm e he
    · exact hd
  exact hall e he

/-! ## Values -/

theorem get?_eq_none {m : OrderedMap α} {name : String} (h : name ∉ m.keys) : m.get? name = none := by
  have hhas : m.has name = false := by
    rw [has, List.any_eq_false]
    intro e he heq
    have heq : e.1 = name := by simpa using heq
    exact h (List.mem_map.mpr ⟨e, he, heq⟩)
  rw [has_eq_isSome] at hhas
  simpa using hhas

theorem lastValue_iff {entries : List (String × α)} {name : String} {value : α} :
    LastValue entries name value ↔ (ofEntries entries).get? name = some value := by
  rw [get?_ofEntries, Option.map_eq_some_iff]
  constructor
  · rintro ⟨before, after, rfl, hafter⟩
    refine ⟨(name, value), find?_reverse_eq_some.mpr ?_, rfl⟩
    exact ⟨by simp, before, after, rfl, by simpa using hafter⟩
  · rintro ⟨⟨name', value'⟩, hfind, rfl⟩
    obtain ⟨hname, before, after, rfl, hafter⟩ := find?_reverse_eq_some.mp hfind
    have hname : name' = name := by simpa using hname
    subst hname
    exact ⟨before, after, rfl, by simpa using hafter⟩

/-- Two maps without repeated names that agree on the names and on every value are the same. -/
theorem eq_of_get? {m m' : OrderedMap α} (hnodup : m.keys.Nodup) (hkeys : m.keys = m'.keys)
    (hget : ∀ name, m.get? name = m'.get? name) : m = m' := by
  induction m generalizing m' with
  | nil => exact (List.map_eq_nil_iff.mp hkeys.symm).symm
  | cons e rest ih =>
    cases m' with
    | nil => simp [keys] at hkeys
    | cons e' rest' =>
      obtain ⟨k, v⟩ := e
      obtain ⟨k', v'⟩ := e'
      obtain ⟨hk, hrest⟩ := List.cons.inj hkeys
      obtain ⟨hfresh, hnodup⟩ := List.nodup_cons.mp hnodup
      have hk : k = k' := hk
      subst hk
      have hv : v = v' := by
        have := hget k
        simpa [get?] using this
      have htail : rest = rest' := by
        refine ih hnodup hrest fun name => ?_
        by_cases hname : k = name
        · -- the name of the first entry has no other
          subst hname
          have hfresh : k ∉ keys rest := hfresh
          have hrest : keys rest = keys rest' := hrest
          rw [get?_eq_none hfresh, get?_eq_none (hrest ▸ hfresh)]
        · have := hget name
          simpa [get?, hname] using this
      rw [hv, htail]

/-- **Entries are gathered in one map, the one that they are put into.** -/
theorem gathers_iff {entries : List (String × α)} {m : OrderedMap α} :
    Gathers entries m ↔ m = ofEntries entries := by
  constructor
  · rintro ⟨hnames, hvalue⟩
    have hkeys : m.keys = (ofEntries entries).keys := by rw [hnames, keys_ofEntries]
    refine eq_of_get? (hkeys ▸ nodup_keys_ofEntries entries) hkeys fun name => ?_
    exact Option.ext fun value => by rw [hvalue, lastValue_iff]
  · rintro rfl
    exact ⟨keys_ofEntries entries, fun _ _ => lastValue_iff.symm⟩

theorem Gathers.nodup {entries : List (String × α)} {m : OrderedMap α} (h : Gathers entries m) :
    m.keys.Nodup := by
  rw [gathers_iff.mp h]
  exact nodup_keys_ofEntries entries

theorem Gathers.ne_nil {entries : List (String × α)} {m : OrderedMap α} (h : Gathers entries m)
    (hentries : entries ≠ []) : m ≠ [] := by
  obtain ⟨e, rest, rfl⟩ := List.exists_cons_of_ne_nil hentries
  rintro rfl
  have hnames := h.names
  rw [List.map_cons, List.eraseDups_cons] at hnames
  cases hnames

/-! ## Entries without repeated names -/

theorem put_of_not_mem {m : OrderedMap α} {name : String} (h : name ∉ m.keys) (value : α) :
    m.put name value = m ++ [(name, value)] := by
  induction m with
  | nil => rfl
  | cons e rest ih =>
    obtain ⟨k, v⟩ := e
    have hmem : ¬ name = k ∧ name ∉ keys rest := by simpa [keys] using h
    obtain ⟨hk, hrest⟩ := hmem
    rw [put, if_neg (Ne.symm hk), ih hrest]
    rfl

/-- Entries without repeated names are their own map. -/
theorem ofEntries_of_nodup {entries : List (String × α)} (h : (entries.map Prod.fst).Nodup) :
    ofEntries entries = entries := by
  have hfold : ∀ m : OrderedMap α, (m.keys ++ entries.map Prod.fst).Nodup →
      entries.foldl (fun m e => put m e.1 e.2) m = m ++ entries := by
    induction entries with
    | nil => exact fun m _ => by simp
    | cons e rest ih =>
      intro m hm
      have hfresh : e.1 ∉ m.keys := by
        intro hmem
        exact (List.nodup_append.mp hm).2.2 e.1 hmem e.1 List.mem_cons_self rfl
      have hkeys : (m.put e.1 e.2).keys = m.keys ++ [e.1] := by rw [keys_put, if_neg hfresh]
      rw [List.foldl_cons, ih (List.nodup_cons.mp h).2, put_of_not_mem hfresh, List.append_assoc]
      · rfl
      · rw [hkeys, List.append_assoc]
        exact hm
  exact hfold [] h

end FormLine.OrderedMap
