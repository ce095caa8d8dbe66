import FormLine.Proofs.Layout
import FormLine.Proofs.Lookup
/-!
# Texts made of words

The text that is written from a list of words, each with the text of its group or none, apart by single
spaces. A word may be left out, so that one list tells what a writer may write and in which order.
`ofText_text` reads the text back as the tokens of the words, and `argsOf_tokens` finds the group of each
word in them, where no two words have one name.
-/

namespace FormLine

/-- Words that a specification may hold, each with the text of its group; a word without an entry is
left out. -/
abbrev Words := List (String × Option (Option (List Char)))

namespace Words
open Chunk

/-- The chunks of the words that are not left out. -/
def chunks (words : Words) : List Chunk := words.filterMap fun w => w.2.map (Chunk.mk w.1.toList)

/-- The tokens of the words that are not left out. -/
def tokens (words : Words) : List Token := words.chunks.map Token.ofChunk

/-- The words as they are written, apart by single spaces. -/
def text (words : Words) : List Char := List.intercalate [' '] (words.chunks.map Chunk.text)

/-- Chunks apart by single spaces are what the scan finds. -/
theorem ofChars_spaced {cs : List Chunk} (hname : ∀ c ∈ cs, IsName c.name)
    (hspan : ∀ c ∈ cs, ∀ span ∈ c.group, IsSpan span) :
    ofChars (List.intercalate [' '] (cs.map Chunk.text)) = cs := by
  induction cs with
  | nil => exact ofChars_nil
  | cons c rest ih =>
    have ih := ih (fun d hd => hname d (List.mem_cons_of_mem c hd))
      fun d hd => hspan d (List.mem_cons_of_mem c hd)
    have hcname := hname c List.mem_cons_self
    have hcspan := hspan c List.mem_cons_self
    cases rest with
    | nil =>
      have hend := ofChars_chunk hcname hcspan fun _ => ⟨startsNoName_nil, startsNoGroup_nil⟩
      rw [List.append_nil, ofChars_nil] at hend
      simpa using hend
    | cons d rest =>
      have hspace : isNameChar ' ' = false := by decide
      rw [List.map_cons, List.map_cons, List.intercalate_cons_cons, List.append_assoc,
        List.singleton_append, ← List.map_cons, ofChars_chunk hcname hcspan, ofChars_skip hspace, ih]
      -- The space ends a bare name and cannot open a group.
      exact fun _ => ⟨startsNoName_cons.mpr hspace, startsNoGroup_cons (by decide)⟩

/-- The name and the group of the word can be scanned. -/
def Fits (word : String × Option (Option (List Char))) : Prop :=
  IsName word.1.toList ∧ ∀ group ∈ word.2, ∀ span ∈ group, IsSpan span

/-- All words can be scanned. -/
def Scannable (words : Words) : Prop := ∀ word ∈ words, Fits word

/-- A word whose group is written from something that may be missing. -/
theorem fits_map {α : Type} {name : String} (hname : IsName name.toList) {f : α → List Char}
    (hf : ∀ a, IsSpan (f a)) (o : Option α) : Fits (name, o.map fun a => some (f a)) := by
  refine ⟨hname, ?_⟩
  intro group hgroup span hspan
  obtain ⟨a, _, rfl⟩ := Option.map_eq_some_iff.mp hgroup
  obtain rfl := Option.some.inj hspan
  exact hf a

theorem mem_chunks {words : Words} {c : Chunk} :
    c ∈ words.chunks ↔ ∃ name group, (name, some group) ∈ words ∧ c = ⟨name.toList, group⟩ := by
  rw [chunks, List.mem_filterMap]
  refine ⟨?_, ?_⟩
  · intro h
    obtain ⟨⟨name, group⟩, hmem, hc⟩ := h
    obtain ⟨g, rfl, rfl⟩ := Option.map_eq_some_iff.mp hc
    exact ⟨name, g, hmem, rfl⟩
  · intro h
    obtain ⟨name, group, hmem, rfl⟩ := h
    exact ⟨(name, some group), hmem, rfl⟩

/-- Reading the words gives their tokens. -/
theorem ofText_text {words : Words} (h : words.Scannable) :
    Token.ofText (String.ofList words.text) = words.tokens := by
  rw [Token.ofText, String.toList_ofList, text, ofChars_spaced]
  · rfl
  · intro c hc
    obtain ⟨name, group, hmem, rfl⟩ := mem_chunks.mp hc
    exact (h _ hmem).1
  · intro c hc
    obtain ⟨name, group, hmem, rfl⟩ := mem_chunks.mp hc
    exact (h _ hmem).2 group rfl

/-! ## Looking words up -/

theorem mem_tokens {words : Words} {t : Token} :
    t ∈ words.tokens ↔ ∃ name group, (name, some group) ∈ words ∧
      t = ⟨name, group.map Arguments.ofGroup⟩ := by
  rw [tokens, List.mem_map]
  refine ⟨?_, ?_⟩
  · intro h
    obtain ⟨c, hc, rfl⟩ := h
    obtain ⟨name, group, hmem, rfl⟩ := mem_chunks.mp hc
    exact ⟨name, group, hmem, by simp [Token.ofChunk]⟩
  · intro h
    obtain ⟨name, group, hmem, rfl⟩ := h
    exact ⟨⟨name.toList, group⟩, mem_chunks.mpr ⟨name, group, hmem, rfl⟩, by simp [Token.ofChunk]⟩

theorem has_tokens {words : Words} {name : String} :
    Token.has name words.tokens = true ↔ ∃ group, (name, some group) ∈ words := by
  rw [Token.has_iff]
  refine ⟨?_, ?_⟩
  · intro h
    obtain ⟨t, ht, rfl⟩ := h
    obtain ⟨name, group, hmem, rfl⟩ := mem_tokens.mp ht
    exact ⟨group, hmem⟩
  · intro h
    obtain ⟨group, hmem⟩ := h
    exact ⟨_, mem_tokens.mpr ⟨name, group, hmem, rfl⟩, rfl⟩

theorem tokens_append (words more : Words) : tokens (words ++ more) = tokens words ++ tokens more := by
  rw [tokens, chunks, List.filterMap_append, List.map_append]
  rfl

theorem name_mem_of_mem_tokens {words : Words} {t : Token} (h : t ∈ words.tokens) :
    t.name ∈ words.map Prod.fst := by
  obtain ⟨name, group, hmem, rfl⟩ := mem_tokens.mp h
  exact List.mem_map.mpr ⟨_, hmem, rfl⟩

/-- Where names differ, a word is looked up as it is written. -/
theorem argsOf_tokens {words : Words} (hnames : (words.map Prod.fst).Nodup) {name : String}
    {group : Option (Option (List Char))} (hmem : (name, group) ∈ words) :
    Token.argsOf name words.tokens = group.join.map Arguments.ofGroup := by
  obtain ⟨before, after, rfl⟩ := List.append_of_mem hmem
  rw [List.map_append, List.map_cons, List.nodup_append, List.nodup_cons] at hnames
  obtain ⟨_, ⟨hafter, _⟩, hbefore⟩ := hnames
  have hne_after : ∀ t ∈ tokens after, t.name ≠ name := by
    intro t ht hname
    exact hafter (hname ▸ name_mem_of_mem_tokens ht)
  have hne_before : ∀ t ∈ tokens before, t.name ≠ name := by
    intro t ht
    exact hbefore t.name (name_mem_of_mem_tokens ht) name List.mem_cons_self
  have htokens : tokens (before ++ (name, group) :: after) =
      tokens before ++ (tokens [(name, group)] ++ tokens after) := by
    rw [tokens_append, ← List.singleton_append, tokens_append]
  rw [htokens]
  -- No other word has the name, so the token of this one, if it has one, is the last of its name.
  refine (Token.lastArgs_iff.mp ?_).symm
  cases group with
  | some g =>
    have hone : tokens [(name, some g)] = [⟨name, g.map Arguments.ofGroup⟩] := by
      simp [tokens, chunks, Token.ofChunk]
    rw [hone]
    exact .inl ⟨_, ⟨tokens before, tokens after, rfl, rfl, hne_after⟩, rfl⟩
  | none =>
    have hnone : tokens [(name, none)] = [] := rfl
    rw [hnone]
    refine .inr ⟨?_, rfl⟩
    intro t ht
    rcases List.mem_append.mp ht with ht | ht
    · exact hne_before t ht
    · exact hne_after t ht

end Words

end FormLine
