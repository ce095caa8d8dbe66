import FormLine.CommandLine.Invocation
import FormLine.Proofs.Lookup
import Mathlib.Data.List.TakeWhile
/-!
# Options in front of operands

A command line that gives its options first is understood word by word: each option sets one value, and
what stands behind the options gives the operands (`invocation_options`). Behind two hyphens they are
taken as they stand (`invocation_written`). An option is written by its name alone (`sets_switch`) or with
its value behind an equals sign (`sets_text`, `sets_read`, `sets_dashes`); nothing that a value holds makes
another option of it. What the options have not set gets its default (`get?_defaults`). A value that is
refused in the first word makes a misuse of the command line (`invocation_refused`).
-/

namespace FormLine.CommandLine

/-! ## The first equals sign -/

theorem bne_equals {s : List Char} (h : '=' ∉ s) : ∀ c ∈ s, (c != '=') = true := by
  intro c hc
  have hne : c ≠ '=' := by
    rintro rfl
    exact h hc
  simpa using hne

theorem splitEquals_assigned {name : List Char} (h : '=' ∉ name) (value : List Char) :
    splitEquals (name ++ '=' :: value) = (name, some value) := by
  rw [splitEquals, List.takeWhile_append_of_pos (bne_equals h),
    List.dropWhile_append_of_pos (bne_equals h)]
  simp

theorem splitEquals_plain {s : List Char} (h : '=' ∉ s) : splitEquals s = (s, none) := by
  have htake : s.takeWhile (· != '=') = s := List.takeWhile_eq_self_iff.mpr (bne_equals h)
  have hdrop : s.dropWhile (· != '=') = [] := List.dropWhile_eq_nil_iff.mpr (bne_equals h)
  rw [splitEquals, htake, hdrop]
  rfl

/-! ## Defaults -/

/-- A value that was set stays; another is what the first option of its name has by itself. -/
theorem get?_defaults {flags : List Flag} {values filled : OrderedMap Json}
    (h : defaults flags values = .ok filled) (target : String) :
    filled.get? target = (values.get? target).or
      ((flags.find? fun f => f.target == target).bind fun f => f.absent.toOption) := by
  induction flags generalizing values with
  | nil =>
    cases h
    simp
  | cons f rest ih =>
    rw [defaults] at h
    by_cases hf : f.target = target
    · -- the option decides: what is set by now is never set again
      subst hf
      cases hget : values.get? f.target with
      | some v =>
        have hhas : values.has f.target = true := by rw [OrderedMap.has_eq_isSome, hget]; rfl
        rw [if_pos hhas] at h
        rw [ih h, hget]
        rfl
      | none =>
        have hhas : values.has f.target = false := by rw [OrderedMap.has_eq_isSome, hget]; rfl
        rw [if_neg (by simp [hhas])] at h
        cases habsent : f.absent with
        | error m => rw [habsent] at h; cases h
        | ok v =>
          rw [habsent] at h
          rw [ih h, OrderedMap.get?_put_self]
          simp [habsent, Except.toOption]
    · have hfind : ((f :: rest).find? fun f => f.target == target) =
          rest.find? fun f => f.target == target := by
        rw [List.find?_cons_of_neg (by simpa using hf)]
      rw [hfind]
      by_cases hhas : values.has f.target = true
      · rw [if_pos hhas] at h
        exact ih h
      · rw [if_neg hhas] at h
        cases habsent : f.absent with
        | error m => rw [habsent] at h; cases h
        | ok v =>
          rw [habsent] at h
          rw [ih h, OrderedMap.get?_put_of_ne values v hf]

/-- Only a default that cannot be read is refused. -/
theorem exists_defaults {flags : List Flag} {values : OrderedMap Json}
    (h : ∀ f ∈ flags, values.has f.target = false → ∃ v, f.absent = .ok v) :
    ∃ filled, defaults flags values = .ok filled := by
  induction flags generalizing values with
  | nil => exact ⟨values, rfl⟩
  | cons f rest ih =>
    rw [defaults]
    by_cases hhas : values.has f.target = true
    · rw [if_pos hhas]
      exact ih fun g hg => h g (List.mem_cons_of_mem f hg)
    · obtain ⟨v, hv⟩ := h f List.mem_cons_self (by simpa using hhas)
      rw [if_neg hhas, hv]
      refine ih fun g hg hfresh => h g (List.mem_cons_of_mem f hg) ?_
      rw [OrderedMap.has_eq_isSome, OrderedMap.get?_put] at hfresh
      rw [OrderedMap.has_eq_isSome]
      split at hfresh
      · cases hfresh
      · exact hfresh

/-! ## One option -/

/-- What an option holds that takes any text: the text, but nothing for two hyphens alone. -/
def textValue (s : String) : Json := if s = "--" then .arr [] else .str s

namespace Command

variable {c : Command}

/-- The word is an option that sets the value, whatever stands behind it. -/
structure Sets (c : Command) (word : String) (f : Flag) (v : Json) : Prop where
  not_dashes : word ≠ "--"
  taken : ∃ name attached, c.classify word = .ok (.option f name attached) ∧
    ∀ rest p, c.take (.option f name attached :: rest) p = c.take rest (p.closeSlot.set f v)

theorem take_option {f : Flag} {name : String} {attached : Option (List Char)} {u : Use} {v : Json}
    (huses : c.uses f name attached = .ok [u]) (hneeds : needsValue [u] = false)
    (hperform : ∀ p, u.perform none p = .ok (p.set f v)) (rest : List Word) (p : Progress) :
    c.take (.option f name attached :: rest) p = c.take rest (p.closeSlot.set f v) := by
  have hall : performAll none [u] p.closeSlot = .ok (p.closeSlot.set f v) := by
    rw [performAll, hperform]
    rfl
  rw [take, huses]
  simp only [hneeds, Bool.false_eq_true, if_false, hall]
  rfl

theorem sets_switch {f : Flag} {name : String} {rest : List Char} (hname : c.flag? name = some f)
    (hstart : name.toList = '-' :: rest) (hdashes : name ≠ "--") (heffect : f.effect = .switch) :
    c.Sets name f (.bool true) := by
  have hclassify : c.classify name = .ok (.option f name none) := by
    rw [classify, hstart]
    simp only [hname]
  have huses : c.uses f name none = .ok [⟨f, none⟩] := rfl
  have hneeds : needsValue [⟨f, none⟩] = false := by simp [needsValue, Flag.takesValue, heffect]
  have hperform : ∀ p, Use.perform ⟨f, none⟩ none p = .ok (p.set f (.bool true)) := by
    intro p
    simp only [Use.perform, heffect]
  exact ⟨hdashes, name, none, hclassify, take_option huses hneeds hperform⟩

/-- Where no option has an equals sign in its name, a word with one is no option's name. -/
theorem flag?_eq_none (hplain : ∀ e ∈ c.names, '=' ∉ e.1.toList) {word : String}
    (h : '=' ∈ word.toList) : c.flag? word = none := by
  rw [flag?, List.lookup_eq_none_iff]
  intro e he
  have hne : e.1 ≠ word := by
    rintro rfl
    exact hplain e he h
  simpa using hne.symm

section Assigned

variable {f : Flag} {name value : String} {rest : List Char} {v : Json}

/-- An option with its value behind an equals sign, whatever characters the value holds. -/
theorem classify_assigned (hplain : ∀ e ∈ c.names, '=' ∉ e.1.toList) (hname : c.flag? name = some f)
    (hstart : name.toList = '-' :: rest) (hequals : '=' ∉ name.toList) (value : String) :
    c.classify (name ++ "=" ++ value) = .ok (.option f name (some value.toList)) := by
  have hchars : (name ++ "=" ++ value).toList = name.toList ++ '=' :: value.toList := by simp
  have hmem : '=' ∈ (name ++ "=" ++ value).toList := by simp
  have hword : (name ++ "=" ++ value).toList = '-' :: (rest ++ '=' :: value.toList) := by
    rw [hchars, hstart, List.cons_append]
  have hsplit : splitEquals ('-' :: (rest ++ '=' :: value.toList)) =
      (name.toList, some value.toList) := by
    rw [← List.cons_append, ← hstart]
    exact splitEquals_assigned hequals value.toList
  rw [classify, hword]
  simp only [flag?_eq_none hplain hmem, hsplit, String.ofList_toList, hname]
  simp

theorem assigned_ne_dashes (name value : String) : name ++ "=" ++ value ≠ "--" := by
  intro h
  have hmem : '=' ∈ (name ++ "=" ++ value).toList := by simp
  rw [h] at hmem
  revert hmem
  decide

theorem uses_assigned (htakes : f.takesValue = true) (name : String) (text : List Char) :
    c.uses f name (some text) = .ok [⟨f, some text⟩] := by
  rw [uses]
  cases text with
  | nil => rw [bundle, if_pos htakes]
  | cons x rest => rw [bundle, if_pos htakes]

theorem sets_of_perform (hplain : ∀ e ∈ c.names, '=' ∉ e.1.toList) (hname : c.flag? name = some f)
    (hstart : name.toList = '-' :: rest) (hequals : '=' ∉ name.toList) (htakes : f.takesValue = true)
    (hperform : ∀ p, Use.perform ⟨f, some value.toList⟩ none p = .ok (p.set f v)) :
    c.Sets (name ++ "=" ++ value) f v := by
  have hneeds : needsValue [⟨f, some value.toList⟩] = false := by simp [needsValue]
  exact ⟨assigned_ne_dashes name value, name, some value.toList,
    classify_assigned hplain hname hstart hequals value,
    take_option (uses_assigned htakes name value.toList) hneeds hperform⟩

/-- A value behind an equals sign is read and chosen. -/
theorem perform_assigned {reader : ValueReader} {choices : List String}
    (heffect : f.effect = .value reader choices) (hvalue : value ≠ "--") (p : Progress) :
    Use.perform ⟨f, some value.toList⟩ none p =
      match (f.read reader value).bind (f.choose choices) with
      | .ok v => .ok (p.set f v)
      | .error m => .error (.misuse m) := by
  have hnot : ¬ some value.toList = some ['-', '-'] := by
    intro h
    exact hvalue (String.toList_inj.mp (Option.some.inj h))
  cases hchosen : (f.read reader value).bind (f.choose choices) <;>
    simp only [Use.perform, heffect, if_neg hnot, Option.map_some, Option.some_or,
      String.ofList_toList, hchosen]

theorem sets_read {reader : ValueReader} {choices : List String}
    (hplain : ∀ e ∈ c.names, '=' ∉ e.1.toList) (hname : c.flag? name = some f)
    (hstart : name.toList = '-' :: rest) (hequals : '=' ∉ name.toList)
    (heffect : f.effect = .value reader choices) (hvalue : value ≠ "--")
    (hread : (f.read reader value).bind (f.choose choices) = .ok v) :
    c.Sets (name ++ "=" ++ value) f v := by
  refine sets_of_perform hplain hname hstart hequals (by simp [Flag.takesValue, heffect]) ?_
  intro p
  rw [perform_assigned heffect hvalue, hread]

/-- Two hyphens alone are held by every option that takes a value. -/
theorem sets_dashes {reader : ValueReader} {choices : List String}
    (hplain : ∀ e ∈ c.names, '=' ∉ e.1.toList) (hname : c.flag? name = some f)
    (hstart : name.toList = '-' :: rest) (hequals : '=' ∉ name.toList)
    (heffect : f.effect = .value reader choices) : c.Sets (name ++ "=" ++ "--") f (.arr []) := by
  refine sets_of_perform hplain hname hstart hequals (by simp [Flag.takesValue, heffect]) ?_
  intro p
  simp [Use.perform, heffect]

theorem sets_text (hplain : ∀ e ∈ c.names, '=' ∉ e.1.toList) (hname : c.flag? name = some f)
    (hstart : name.toList = '-' :: rest) (hequals : '=' ∉ name.toList)
    (heffect : f.effect = .value .text []) : c.Sets (name ++ "=" ++ value) f (textValue value) := by
  by_cases hvalue : value = "--"
  · subst hvalue
    exact sets_dashes hplain hname hstart hequals heffect
  · rw [textValue, if_neg hvalue]
    exact sets_read hplain hname hstart hequals heffect hvalue rfl

/-- A value that is refused, in the first word. Only words behind it that are faulty in themselves come
before it. -/
theorem invocation_refused {reader : ValueReader} {choices : List String}
    (hplain : ∀ e ∈ c.names, '=' ∉ e.1.toList) (hname : c.flag? name = some f)
    (hstart : name.toList = '-' :: rest) (hequals : '=' ∉ name.toList)
    (heffect : f.effect = .value reader choices) (hvalue : value ≠ "--") {m : Misuse}
    (hread : (f.read reader value).bind (f.choose choices) = .error m) (behind : List String) :
    c.invocation ((name ++ "=" ++ value) :: behind) =
      match c.words behind with
      | .error m' => .error (.misuse m')
      | .ok _ => .error (.misuse m) := by
  have htakes : f.takesValue = true := by simp [Flag.takesValue, heffect]
  have hneeds : needsValue [⟨f, some value.toList⟩] = false := by simp [needsValue]
  have hperform : ∀ p, performAll none [⟨f, some value.toList⟩] p = .error (.misuse m) := by
    intro p
    rw [performAll, perform_assigned heffect hvalue, hread]
    rfl
  rw [invocation, words, if_neg (assigned_ne_dashes name value),
    classify_assigned hplain hname hstart hequals value]
  cases c.words behind with
  | error m' => rfl
  | ok ws =>
    simp only [bind, Except.bind, pure, Except.pure, take, uses_assigned htakes, hneeds,
      Bool.false_eq_true, if_false, hperform]

end Assigned

/-! ## A whole command line -/

/-- An option as it is written, and the value that it sets. -/
structure Written where
  word : String
  flag : Flag
  value : Json

/-- The values that options set, one after another. -/
def valuesOf (written : List Written) : OrderedMap Json :=
  .ofEntries (written.map fun w => (w.flag.target, w.value))

theorem take_operands (items : List String) (p : Progress) (h : p.slot = .filling) :
    c.take (items.map .operand) p = .ok { p with operands := p.operands ++ items } := by
  induction items generalizing p with
  | nil => simp [take]
  | cons item rest ih =>
    have hslot : ¬ p.slot = .over := by simp [h]
    rw [List.map_cons, take, if_neg hslot, ih _ rfl]
    simp [h]

/-- The words behind the options give the operands, and nothing else comes of them. -/
def GivesOperands (c : Command) (behind items : List String) : Prop :=
  ∃ ws, c.words behind = .ok ws ∧ ∀ p : Progress, p.slot = .awaited →
    ∃ slot, c.take ws p = .ok { p with slot := slot, operands := p.operands ++ items }

theorem givesOperands_nil : c.GivesOperands [] [] :=
  ⟨[], rfl, fun p _ => ⟨p.slot, by simp [take]⟩⟩

theorem givesOperands_dashes (items : List String) : c.GivesOperands ("--" :: items) items := by
  refine ⟨.dashes :: items.map .operand, by simp [words], ?_⟩
  intro p hslot
  refine ⟨.filling, ?_⟩
  rw [take, if_neg (by simp [hslot]), take_operands items _ rfl]

theorem words_written {written : List Written} (h : ∀ w ∈ written, c.Sets w.word w.flag w.value)
    {behind : List String} {more : List Word} (hbehind : c.words behind = .ok more) :
    ∃ ws, c.words (written.map Written.word ++ behind) = .ok (ws ++ more) ∧
      ∀ rest p, p.slot = .awaited → c.take (ws ++ rest) p =
        c.take rest { p with
          values := written.foldl (fun m w => OrderedMap.put m w.flag.target w.value) p.values } := by
  induction written with
  | nil => exact ⟨[], hbehind, fun rest p _ => rfl⟩
  | cons w others ih =>
    obtain ⟨ws, hwords, htake⟩ := ih fun w' hw' => h w' (List.mem_cons_of_mem w hw')
    obtain ⟨hdashes, name, attached, hclassify, htaken⟩ := h w List.mem_cons_self
    refine ⟨.option w.flag name attached :: ws, ?_, ?_⟩
    · rw [List.map_cons, List.cons_append, words, if_neg hdashes, hclassify, hwords]
      rfl
    · intro rest p hslot
      -- an option that stands before the first operand leaves the place of the operands open
      have hclose : p.closeSlot = p := by simp [Progress.closeSlot, hslot]
      rw [List.cons_append, htaken, hclose, htake rest (p.set w.flag w.value) hslot]
      rfl

/-- **Options set their values, and what stands behind them gives the operands.** Whether the command line
is understood is decided by the defaults of the options that it does not set. -/
theorem invocation_options {written : List Written}
    (h : ∀ w ∈ written, c.Sets w.word w.flag w.value) (hoperands : c.operands.isSome = true)
    {behind items : List String} (hbehind : c.GivesOperands behind items) :
    c.invocation (written.map Written.word ++ behind) =
      match defaults c.flags (valuesOf written) with
      | .error m => .error (.misuse m)
      | .ok values => .ok ⟨items, values⟩ := by
  obtain ⟨more, hmore, htakeMore⟩ := hbehind
  obtain ⟨ws, hwords, htake⟩ := words_written h hmore
  have hvalues : valuesOf written =
      written.foldl (fun m w => OrderedMap.put m w.flag.target w.value) [] := by
    rw [valuesOf, OrderedMap.ofEntries, List.foldl_map]
  have hstart := htake more { slot := .awaited } rfl
  rw [← hvalues] at hstart
  obtain ⟨slot, hend⟩ := htakeMore { slot := .awaited, values := valuesOf written } rfl
  rw [invocation, hwords]
  simp only [hoperands, if_true, hstart, hend, bind, Except.bind]
  cases defaults c.flags (valuesOf written) <;> rfl

/-- **Options in front of two hyphens set their values, and what stands behind is taken as it is.** -/
theorem invocation_written {written : List Written}
    (h : ∀ w ∈ written, c.Sets w.word w.flag w.value) (hoperands : c.operands.isSome = true)
    (items : List String) {filled : OrderedMap Json}
    (hfilled : defaults c.flags (valuesOf written) = .ok filled) :
    c.invocation (written.map Written.word ++ "--" :: items) = .ok ⟨items, filled⟩ := by
  rw [invocation_options h hoperands (givesOperands_dashes items), hfilled]

end Command

end FormLine.CommandLine
