import FormLine.Html
/-!
# Reading printed HTML

A reader of HTML that knows nothing of trees that were printed: it goes through the text one character
at a time, from tag to tag, keeps the elements that are not closed yet on a stack, and decodes the five
references in texts and in attribute values. `read?_print` says that it reads every printed tree as that
tree, whatever its texts and attribute values are.

Two facts carry this. Escaped text holds no character that the reader acts on where the text stands
(`escape_inert`), so the reader comes out of it in the position in which it went in, with the text in
hand. And decoding undoes escaping (`decode_escape`), in one pass over the text: the ampersand of a
reference is never decoded again.

The tree itself must be one that a reader can tell (`Readable`): names of letters, no content in void
elements and no closing tag behind them, no empty text and no two texts side by side.
-/

namespace FormLine.Html

/-! ## The reader -/

/-- The text with its references replaced. What is none of the five references stays as it is. -/
def decode : List Char → List Char
  | '&' :: 'a' :: 'm' :: 'p' :: ';' :: rest => '&' :: decode rest
  | '&' :: 'l' :: 't' :: ';' :: rest => '<' :: decode rest
  | '&' :: 'g' :: 't' :: ';' :: rest => '>' :: decode rest
  | '&' :: 'q' :: 'u' :: 'o' :: 't' :: ';' :: rest => '"' :: decode rest
  | '&' :: '#' :: 'x' :: '2' :: '7' :: ';' :: rest => '\'' :: decode rest
  | c :: rest => c :: decode rest
  | [] => []

/-- The elements that have no content and no closing tag. -/
def voidTags : List String :=
  ["area", "base", "br", "col", "embed", "hr", "img", "input", "link", "meta", "source", "track", "wbr"]

/-- The characters of the names of tags and attributes. -/
def isTagChar (c : Char) : Bool := c.isAlphanum || c == '-'

/-- Where the reader stands, with what it has in hand there. -/
inductive Position where
  /-- Between tags. -/
  | text (raw : List Char)
  /-- Behind the bracket that opens a tag. -/
  | bracket
  /-- In the name of a closing tag. -/
  | closing (tag : List Char)
  /-- In the name of an opening tag. -/
  | opening (tag : List Char)
  /-- In the name of an attribute. -/
  | name (tag : String) (attributes : List Attribute) (name : List Char)
  /-- Behind the equals sign of an attribute. -/
  | equals (tag : String) (attributes : List Attribute) (name : String)
  /-- In the value of an attribute. -/
  | value (tag : String) (attributes : List Attribute) (name : String) (raw : List Char)
  /-- Behind the value of an attribute. -/
  | behind (tag : String) (attributes : List Attribute)

/-- An element that is not closed yet, with the nodes that stand before it. -/
structure Unclosed where
  tag : String
  attributes : List Attribute
  before : List Html

/-- A reader in the middle of a text. -/
structure Reader where
  position : Position
  /-- The nodes of the innermost element so far. -/
  nodes : List Html
  /-- The elements around it, from the inside out. -/
  unclosed : List Unclosed

/-- The node of a text between tags, where there is one. -/
def textNodes (raw : List Char) : List Html :=
  if raw = [] then [] else [.text (String.ofList (decode raw))]

namespace Reader

/-- An opening tag is complete. -/
def enter (r : Reader) (tag : String) (attributes : List Attribute) : Reader :=
  if tag ∈ voidTags then
    { r with position := .text [], nodes := r.nodes ++ [.void tag attributes] }
  else ⟨.text [], [], ⟨tag, attributes, r.nodes⟩ :: r.unclosed⟩

/-- A closing tag is complete; it must close the innermost element. -/
def leave (r : Reader) (tag : String) : Option Reader :=
  match r.unclosed with
  | [] => none
  | e :: rest =>
    if e.tag = tag then some ⟨.text [], e.before ++ [.element e.tag e.attributes r.nodes], rest⟩
    else none

/-- One character. -/
def step (r : Reader) (c : Char) : Option Reader :=
  match r.position with
  | .text raw =>
    if c = '<' then some { r with position := .bracket, nodes := r.nodes ++ textNodes raw }
    else some { r with position := .text (raw ++ [c]) }
  | .bracket =>
    if c = '/' then some { r with position := .closing [] }
    else if isTagChar c then some { r with position := .opening [c] }
    else none
  | .closing tag =>
    if c = '>' then r.leave (String.ofList tag)
    else if isTagChar c then some { r with position := .closing (tag ++ [c]) }
    else none
  | .opening tag =>
    if c = '>' then some (r.enter (String.ofList tag) [])
    else if c = ' ' then some { r with position := .name (String.ofList tag) [] [] }
    else if isTagChar c then some { r with position := .opening (tag ++ [c]) }
    else none
  | .name tag attributes name =>
    if isTagChar c then some { r with position := .name tag attributes (name ++ [c]) }
    else if name = [] then none
    else if c = '=' then some { r with position := .equals tag attributes (String.ofList name) }
    else if c = '>' then some (r.enter tag (attributes ++ [.mark (String.ofList name)]))
    else if c = ' ' then
      some { r with position := .name tag (attributes ++ [.mark (String.ofList name)]) [] }
    else none
  | .equals tag attributes name =>
    if c = '"' then some { r with position := .value tag attributes name [] } else none
  | .value tag attributes name raw =>
    if c = '"' then
      some { r with
        position := .behind tag (attributes ++ [.value name (String.ofList (decode raw))]) }
    else some { r with position := .value tag attributes name (raw ++ [c]) }
  | .behind tag attributes =>
    if c = '>' then some (r.enter tag attributes)
    else if c = ' ' then some { r with position := .name tag attributes [] }
    else none

/-- A text, character by character. -/
def run (r : Reader) : List Char → Option Reader
  | [] => some r
  | c :: rest => (r.step c).bind fun r => r.run rest

/-- The nodes that were read, where the text ends between tags and every element is closed. -/
def finish (r : Reader) : Option (List Html) :=
  match r.position, r.unclosed with
  | .text raw, [] => some (r.nodes ++ textNodes raw)
  | _, _ => none

end Reader

/-- The nodes that a text writes; nothing where it is no HTML that the reader knows. -/
def read? (s : String) : Option (List Html) :=
  (Reader.run ⟨.text [], [], []⟩ s.toList).bind Reader.finish

/-! ## Escaping -/

theorem decode_cons {c : Char} (h : c ≠ '&') (rest : List Char) :
    decode (c :: rest) = c :: decode rest := by
  rw [decode]
  all_goals
    intros
    simp_all

theorem decode_escapeChar (c : Char) (rest : List Char) :
    decode (escapeChar c ++ rest) = c :: decode rest := by
  unfold escapeChar
  split
  · rfl
  · rfl
  · rfl
  · rfl
  · rfl
  · rename_i hamp _ _ _ _
    exact decode_cons hamp rest

/-- Decoding undoes escaping. -/
theorem decode_escape (s : String) : decode (escape s) = s.toList := by
  unfold escape
  induction s.toList with
  | nil => rfl
  | cons c rest ih => rw [List.flatMap_cons, decode_escapeChar, ih]

theorem inert_of_all {s : List Char} (h : s.all (fun d => d != '<' && d != '"') = true) :
    ∀ d ∈ s, d ≠ '<' ∧ d ≠ '"' := by
  simpa using h

theorem escapeChar_inert (c : Char) : ∀ d ∈ escapeChar c, d ≠ '<' ∧ d ≠ '"' := by
  unfold escapeChar
  split
  · exact inert_of_all (by decide)
  · exact inert_of_all (by decide)
  · exact inert_of_all (by decide)
  · exact inert_of_all (by decide)
  · exact inert_of_all (by decide)
  · rename_i _ hlt _ hquote _
    intro d hd
    rw [List.mem_singleton.mp hd]
    exact ⟨hlt, hquote⟩

/-- Escaped text holds neither of the characters that end a text and an attribute value. -/
theorem escape_inert (s : String) : ∀ d ∈ escape s, d ≠ '<' ∧ d ≠ '"' := by
  intro d hd
  obtain ⟨c, _, hc⟩ := List.mem_flatMap.mp hd
  exact escapeChar_inert c d hc

theorem escape_eq_nil {s : String} : escape s = [] ↔ s = "" := by
  constructor
  · intro h
    have hdecode := decode_escape s
    rw [h] at hdecode
    exact String.toList_eq_nil_iff.mp hdecode.symm
  · rintro rfl
    rfl

theorem textNodes_escape {s : String} (h : s ≠ "") : textNodes (escape s) = [.text s] := by
  rw [textNodes, if_neg (mt escape_eq_nil.mp h), decode_escape, String.ofList_toList]

/-! ## Runs over one kind of character -/

namespace Reader

theorem run_append (r : Reader) (s t : List Char) :
    r.run (s ++ t) = (r.run s).bind fun r => r.run t := by
  induction s generalizing r with
  | nil => rfl
  | cons c rest ih =>
    cases h : r.step c with
    | none => simp [run, h]
    | some r' => simp [run, h, ih]

/-- Where the reader collects every character of a kind, it collects a text of that kind. -/
theorem run_collect (position : List Char → Position) {p : Char → Prop} {nodes : List Html}
    {unclosed : List Unclosed}
    (hstep : ∀ taken c, p c → step ⟨position taken, nodes, unclosed⟩ c =
      some ⟨position (taken ++ [c]), nodes, unclosed⟩)
    {s : List Char} (h : ∀ c ∈ s, p c) (taken : List Char) :
    run ⟨position taken, nodes, unclosed⟩ s = some ⟨position (taken ++ s), nodes, unclosed⟩ := by
  induction s generalizing taken with
  | nil => simp [run]
  | cons c rest ih =>
    have hc := hstep taken c (h c List.mem_cons_self)
    have hrest := ih (fun d hd => h d (List.mem_cons_of_mem c hd)) (taken ++ [c])
    simpa [run, hc] using hrest

/-- A character of a name is none of those that end one. -/
theorem ne_of_isTagChar {c : Char} (h : isTagChar c = true) : c ≠ '>' ∧ c ≠ ' ' ∧ c ≠ '/' := by
  refine ⟨?_, ?_, ?_⟩
  · rintro rfl; revert h; decide
  · rintro rfl; revert h; decide
  · rintro rfl; revert h; decide

section Runs

variable (nodes : List Html) (unclosed : List Unclosed)

theorem run_text {s : List Char} (h : ∀ c ∈ s, c ≠ '<') (raw : List Char) :
    run ⟨.text raw, nodes, unclosed⟩ s = some ⟨.text (raw ++ s), nodes, unclosed⟩ :=
  run_collect .text (fun taken c hc => by simp [step, hc]) h raw

theorem run_value {s : List Char} (h : ∀ c ∈ s, c ≠ '"') (tag : String)
    (attributes : List Attribute) (name : String) :
    run ⟨.value tag attributes name [], nodes, unclosed⟩ s =
      some ⟨.value tag attributes name s, nodes, unclosed⟩ :=
  run_collect (.value tag attributes name) (fun taken c hc => by simp [step, hc]) h []

theorem run_opening {s : List Char} (h : ∀ c ∈ s, isTagChar c = true) (tag : List Char) :
    run ⟨.opening tag, nodes, unclosed⟩ s = some ⟨.opening (tag ++ s), nodes, unclosed⟩ := by
  refine run_collect .opening (fun taken c hc => ?_) h tag
  obtain ⟨hend, hspace, _⟩ := ne_of_isTagChar hc
  simp [step, hc, hend, hspace]

theorem run_closing {s : List Char} (h : ∀ c ∈ s, isTagChar c = true) :
    run ⟨.closing [], nodes, unclosed⟩ s = some ⟨.closing s, nodes, unclosed⟩ := by
  refine run_collect .closing (fun taken c hc => ?_) h []
  obtain ⟨hend, _, _⟩ := ne_of_isTagChar hc
  simp [step, hc, hend]

theorem run_name {s : List Char} (h : ∀ c ∈ s, isTagChar c = true) (tag : String)
    (attributes : List Attribute) :
    run ⟨.name tag attributes [], nodes, unclosed⟩ s =
      some ⟨.name tag attributes s, nodes, unclosed⟩ :=
  run_collect (.name tag attributes) (fun taken c hc => by simp [step, hc]) h []

end Runs

end Reader

/-! ## Tags -/

/-- The text can be the name of a tag or of an attribute. -/
def IsTagName (s : String) : Prop := s ≠ "" ∧ ∀ c ∈ s.toList, isTagChar c = true

instance (s : String) : Decidable (IsTagName s) :=
  have := List.decidableBAll (fun c => isTagChar c = true) s.toList
  instDecidableAnd

theorem IsTagName.toList_ne_nil {s : String} (h : IsTagName s) : s.toList ≠ [] :=
  mt String.toList_eq_nil_iff.mp h.1

/-- The attribute has a name that a reader can tell. Its value may be any text. -/
def IsNamed : Attribute → Prop
  | .value name _ => IsTagName name
  | .mark name => IsTagName name

@[simp] theorem isNamed_value {name value : String} : IsNamed (.value name value) ↔ IsTagName name :=
  Iff.rfl

@[simp] theorem isNamed_mark {name : String} : IsNamed (.mark name) ↔ IsTagName name := Iff.rfl

namespace Reader

/-- The reader has the tag and the attributes in hand, and the tag may end here. -/
structure InTag (r : Reader) (tag : String) (attributes : List Attribute) : Prop where
  space : r.step ' ' = some { r with position := .name tag attributes [] }
  bracket : r.step '>' = some (r.enter tag attributes)

section Tags

variable (nodes : List Html) (unclosed : List Unclosed)

theorem inTag_opening (tag : List Char) :
    InTag ⟨.opening tag, nodes, unclosed⟩ (String.ofList tag) [] :=
  ⟨rfl, rfl⟩

theorem inTag_behind (tag : String) (attributes : List Attribute) :
    InTag ⟨.behind tag attributes, nodes, unclosed⟩ tag attributes :=
  ⟨rfl, rfl⟩

theorem inTag_name {name : List Char} (h : name ≠ []) (tag : String) (attributes : List Attribute) :
    InTag ⟨.name tag attributes name, nodes, unclosed⟩ tag
      (attributes ++ [.mark (String.ofList name)]) := by
  have hspace : isTagChar ' ' = false := by decide
  have hbracket : isTagChar '>' = false := by decide
  exact ⟨by simp [step, hspace, h], by simp [step, hbracket, h]⟩

/-- An attribute is taken, whatever its value is. -/
theorem run_attribute {position : Position} {tag : String} {attributes : List Attribute}
    (hr : InTag ⟨position, nodes, unclosed⟩ tag attributes) {a : Attribute} (ha : IsNamed a) :
    ∃ position', run ⟨position, nodes, unclosed⟩ (attributeChars a) =
        some ⟨position', nodes, unclosed⟩ ∧
      InTag ⟨position', nodes, unclosed⟩ tag (attributes ++ [a]) := by
  cases a with
  | mark name =>
    have hname := run_name nodes unclosed ha.2 tag attributes
    refine ⟨.name tag attributes name.toList, ?_, ?_⟩
    · simp only [attributeChars, run, hr.space, Option.bind_some, hname]
    · have hin := inTag_name nodes unclosed ha.toList_ne_nil tag attributes
      rwa [String.ofList_toList] at hin
  | value name value =>
    have hname := run_name nodes unclosed ha.2 tag attributes
    have hvalue := run_value nodes unclosed (fun c hc => (escape_inert value c hc).2) tag attributes name
    have hequals : isTagChar '=' = false := by decide
    refine ⟨.behind tag (attributes ++ [.value name value]), ?_, inTag_behind nodes unclosed tag _⟩
    simp only [attributeChars, List.append_assoc, List.cons_append, run, hr.space, Option.bind_some,
      run_append, hname]
    -- behind the name: the equals sign, the quote, the value, and the quote again
    simp only [step, hequals, ha.toList_ne_nil, Bool.false_eq_true, if_false, if_true,
      Option.bind_some, hvalue, String.ofList_toList, decode_escape]

theorem run_attributes {attributes : List Attribute} (ha : ∀ a ∈ attributes, IsNamed a)
    {position : Position} {tag : String} {taken : List Attribute}
    (hr : InTag ⟨position, nodes, unclosed⟩ tag taken) :
    ∃ position', run ⟨position, nodes, unclosed⟩ (attributes.flatMap attributeChars) =
        some ⟨position', nodes, unclosed⟩ ∧
      InTag ⟨position', nodes, unclosed⟩ tag (taken ++ attributes) := by
  induction attributes generalizing position taken with
  | nil => exact ⟨position, rfl, by rwa [List.append_nil]⟩
  | cons a rest ih =>
    obtain ⟨next, hrun, hnext⟩ := run_attribute nodes unclosed hr (ha a List.mem_cons_self)
    obtain ⟨last, hrest, hlast⟩ := ih (fun b hb => ha b (List.mem_cons_of_mem a hb)) hnext
    refine ⟨last, ?_, ?_⟩
    · rw [List.flatMap_cons, run_append, hrun, Option.bind_some, hrest]
    · rwa [List.append_assoc, List.singleton_append] at hlast

theorem run_tagName {tag : String} (htag : IsTagName tag) :
    run ⟨.bracket, nodes, unclosed⟩ tag.toList = some ⟨.opening tag.toList, nodes, unclosed⟩ := by
  obtain ⟨c, rest, hchars⟩ := List.exists_cons_of_ne_nil htag.toList_ne_nil
  have hall : ∀ d ∈ c :: rest, isTagChar d = true := hchars ▸ htag.2
  have hc := hall c List.mem_cons_self
  obtain ⟨_, _, hslash⟩ := ne_of_isTagChar hc
  have hrest := run_opening nodes unclosed (fun d hd => hall d (List.mem_cons_of_mem c hd)) [c]
  rw [hchars]
  simpa [run, step, hslash, hc] using hrest

/-- An opening tag is read as the tag that was printed, behind the text in front of it. -/
theorem run_openTag {tag : String} (htag : IsTagName tag) {attributes : List Attribute}
    (ha : ∀ a ∈ attributes, IsNamed a) (raw : List Char) :
    run ⟨.text raw, nodes, unclosed⟩ (openTag tag attributes) =
      some (enter ⟨.bracket, nodes ++ textNodes raw, unclosed⟩ tag attributes) := by
  have hname := run_tagName (nodes ++ textNodes raw) unclosed htag
  have hin := inTag_opening (nodes ++ textNodes raw) unclosed tag.toList
  rw [String.ofList_toList] at hin
  obtain ⟨last, hrun, hlast⟩ := run_attributes (nodes ++ textNodes raw) unclosed ha hin
  have hbracket : step ⟨.text raw, nodes, unclosed⟩ '<' =
      some ⟨.bracket, nodes ++ textNodes raw, unclosed⟩ := rfl
  rw [openTag, List.cons_append, List.cons_append, run, hbracket, Option.bind_some, run_append,
    run_append, hname, Option.bind_some, hrun, Option.bind_some, run, hlast.bracket]
  rfl

/-- A closing tag closes the innermost element, which holds the nodes since its opening tag. -/
theorem run_closeTag {tag : String} (htag : IsTagName tag) (attributes : List Attribute)
    (before : List Html) (raw : List Char) :
    run ⟨.text raw, nodes, ⟨tag, attributes, before⟩ :: unclosed⟩ (closeTag tag) =
      some ⟨.text [], before ++ [.element tag attributes (nodes ++ textNodes raw)], unclosed⟩ := by
  have hclosing := run_closing (nodes ++ textNodes raw) (⟨tag, attributes, before⟩ :: unclosed) htag.2
  have hbracket : step ⟨.text raw, nodes, ⟨tag, attributes, before⟩ :: unclosed⟩ '<' =
      some ⟨.bracket, nodes ++ textNodes raw, ⟨tag, attributes, before⟩ :: unclosed⟩ := rfl
  have hslash : step ⟨.bracket, nodes ++ textNodes raw, ⟨tag, attributes, before⟩ :: unclosed⟩ '/' =
      some ⟨.closing [], nodes ++ textNodes raw, ⟨tag, attributes, before⟩ :: unclosed⟩ := rfl
  rw [closeTag]
  simp only [List.cons_append, run, hbracket, hslash, Option.bind_some, run_append, hclosing]
  simp [step, leave]

end Tags

end Reader

/-! ## Trees -/

/-- Whether the node is a text. -/
def isText : Html → Bool
  | .text _ => true
  | _ => false

/-- Whether a text comes first. -/
def startsWithText : List Html → Bool
  | [] => false
  | node :: _ => node.isText

mutual
/-- The node is one that a reader can tell from its printed form. -/
def Readable : Html → Prop
  | .text s => s ≠ ""
  | .element tag attributes children =>
    IsTagName tag ∧ tag ∉ voidTags ∧ (∀ a ∈ attributes, IsNamed a) ∧ ReadableAll children
  | .void tag attributes => IsTagName tag ∧ tag ∈ voidTags ∧ ∀ a ∈ attributes, IsNamed a

/-- So are the nodes, and no two texts stand side by side. -/
def ReadableAll : List Html → Prop
  | [] => True
  | node :: rest =>
    Readable node ∧ ReadableAll rest ∧ ¬ (node.isText = true ∧ startsWithText rest = true)
end

theorem readableAll_textOf (s : String) : ReadableAll (textOf s) := by
  unfold textOf
  split
  · trivial
  · rename_i h
    exact ⟨h, trivial, by simp [startsWithText]⟩

/-- Nodes that are no texts may stand side by side. -/
theorem readableAll_of_not_text {nodes : List Html}
    (h : ∀ node ∈ nodes, node.Readable ∧ node.isText = false) : ReadableAll nodes := by
  induction nodes with
  | nil => trivial
  | cons node rest ih =>
    obtain ⟨hnode, htext⟩ := h node List.mem_cons_self
    have hrest := ih fun other hother => h other (List.mem_cons_of_mem node hother)
    exact ⟨hnode, hrest, by simp [htext]⟩

namespace Reader

mutual
/-- A node is read as it was printed. A text in front of another is the one case that is left out, for
the reader takes two texts side by side for one. -/
theorem run_chars : (node : Html) → node.Readable → ∀ (raw : List Char) (nodes : List Html)
    (unclosed : List Unclosed), (node.isText = true → raw = []) →
    ∃ raw' nodes', run ⟨.text raw, nodes, unclosed⟩ (chars node) =
        some ⟨.text raw', nodes', unclosed⟩ ∧
      nodes' ++ textNodes raw' = nodes ++ textNodes raw ++ [node] ∧
      (node.isText = false → raw' = [])
  | .text s, h, raw, nodes, unclosed, hraw => by
    have hraw : raw = [] := hraw rfl
    subst hraw
    have hrun := run_text nodes unclosed (fun c hc => (escape_inert s c hc).1) []
    refine ⟨escape s, nodes, hrun, ?_, by simp [isText]⟩
    rw [textNodes_escape h]
    simp [textNodes]
  | .void tag attributes, h, raw, nodes, unclosed, _ => by
    obtain ⟨htag, hvoid, hnamed⟩ := h
    refine ⟨[], nodes ++ textNodes raw ++ [.void tag attributes], ?_, by simp [textNodes], fun _ => rfl⟩
    rw [chars, run_openTag nodes unclosed htag hnamed, enter, if_pos hvoid]
  | .element tag attributes children, h, raw, nodes, unclosed, _ => by
    obtain ⟨htag, hvoid, hnamed, hchildren⟩ := h
    obtain ⟨raw', nodes', hrun, hnodes⟩ := run_listChars children hchildren [] []
      (⟨tag, attributes, nodes ++ textNodes raw⟩ :: unclosed) (fun _ => rfl)
    refine ⟨[], nodes ++ textNodes raw ++ [.element tag attributes children], ?_, by simp [textNodes],
      fun _ => rfl⟩
    have hall : nodes' ++ textNodes raw' = children := by simpa [textNodes] using hnodes
    rw [chars, run_append, run_append, run_openTag nodes unclosed htag hnamed, enter, if_neg hvoid,
      Option.bind_some, hrun, Option.bind_some, run_closeTag nodes' unclosed htag, hall]

/-- Nodes one after another are read as they were printed. -/
theorem run_listChars : (added : List Html) → ReadableAll added → ∀ (raw : List Char)
    (nodes : List Html) (unclosed : List Unclosed), (startsWithText added = true → raw = []) →
    ∃ raw' nodes', run ⟨.text raw, nodes, unclosed⟩ (listChars added) =
        some ⟨.text raw', nodes', unclosed⟩ ∧
      nodes' ++ textNodes raw' = nodes ++ textNodes raw ++ added
  | [], _, raw, nodes, unclosed, _ => ⟨raw, nodes, rfl, by simp⟩
  | node :: rest, h, raw, nodes, unclosed, hraw => by
    obtain ⟨hnode, hrest, hapart⟩ := h
    obtain ⟨raw₁, nodes₁, hrun₁, hnodes₁, hraw₁⟩ := run_chars node hnode raw nodes unclosed hraw
    have hstart : startsWithText rest = true → raw₁ = [] := by
      intro hstarts
      refine hraw₁ ?_
      cases htext : node.isText with
      | false => rfl
      | true => exact absurd ⟨htext, hstarts⟩ hapart
    obtain ⟨raw₂, nodes₂, hrun₂, hnodes₂⟩ := run_listChars rest hrest raw₁ nodes₁ unclosed hstart
    refine ⟨raw₂, nodes₂, ?_, ?_⟩
    · rw [listChars, run_append, hrun₁, Option.bind_some, hrun₂]
    · rw [hnodes₂, hnodes₁]
      simp
end

end Reader

/-- **Reading undoes printing.** -/
theorem read?_print {node : Html} (h : node.Readable) : read? node.print = some [node] := by
  obtain ⟨raw, nodes, hrun, hnodes, _⟩ := Reader.run_chars node h [] [] [] (fun _ => rfl)
  rw [read?, print, String.toList_ofList, hrun, Option.bind_some]
  show some (nodes ++ textNodes raw) = some [node]
  rw [hnodes]
  rfl

end FormLine.Html
