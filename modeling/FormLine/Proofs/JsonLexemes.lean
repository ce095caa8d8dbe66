import FormLine.Json.Printer
import FormLine.Json.Reader
import FormLine.Proofs.Numerals
/-!
# The lexemes of printed JSON

The machine that finds lexemes is run over a printed value. It finds the lexemes of the value
(`lexemesOf`), which do not depend on the layout, and stands ready for whatever delimits the value
(`leads_chars`). In a string every character is read back from its printed form, so characters beyond
ASCII from one escape or from the two of a surrogate pair (`leads_stringChar`).

The one condition on a value is that its numbers that are kept as they are written are number literals
(`WellFormed`), and the one on a layout that lines are indented by white space (`Layout.IsBlank`).
-/

namespace FormLine.Json

/-! ## Machines -/

/-- Over the inputs the machine gets from one state to the other. -/
def Leads {σ ι : Type} (f : σ → ι → Option σ) (a : σ) (xs : List ι) (b : σ) : Prop :=
  xs.foldlM f a = some b

namespace Leads

variable {σ ι : Type} {f : σ → ι → Option σ} {a b d : σ} {x : ι} {xs ys : List ι}

theorem nil : Leads f a [] a := rfl

theorem cons (h : f a x = some b) (hs : Leads f b xs d) : Leads f a (x :: xs) d := by
  unfold Leads at hs ⊢
  rw [List.foldlM_cons, h]
  exact hs

theorem single (h : f a x = some b) : Leads f a [x] b := cons h nil

theorem append (h : Leads f a xs b) (hs : Leads f b ys d) : Leads f a (xs ++ ys) d := by
  unfold Leads at h hs ⊢
  rw [List.foldlM_append, h]
  exact hs

end Leads

/-! ## Values that are JSON -/

/-- The literal is read as the number that is kept as it is written. -/
structure IsNumber (literal : String) : Prop where
  ne_empty : literal ≠ ""
  word : ∀ c ∈ literal.toList, isWordChar c = true
  value : wordValue? literal.toList = some (.real literal)

mutual
/-- Every number in the value is an integer or a number literal. -/
def WellFormed : Json → Prop
  | .real literal => IsNumber literal
  | .arr items => AllWellFormed items
  | .obj members => MembersWellFormed members
  | _ => True

/-- So it is in all items. -/
def AllWellFormed : List Json → Prop
  | [] => True
  | v :: vs => WellFormed v ∧ AllWellFormed vs

/-- So it is in the values of all members. -/
def MembersWellFormed : List (String × Json) → Prop
  | [] => True
  | (_, v) :: ms => WellFormed v ∧ MembersWellFormed ms
end

theorem wellFormed_arr {items : List Json} : (arr items).WellFormed ↔ ∀ v ∈ items, v.WellFormed := by
  show AllWellFormed items ↔ _
  induction items with
  | nil => simp [AllWellFormed]
  | cons v vs ih => rw [AllWellFormed, ih, List.forall_mem_cons]

theorem wellFormed_obj {members : List (String × Json)} :
    (obj members).WellFormed ↔ ∀ e ∈ members, e.2.WellFormed := by
  show MembersWellFormed members ↔ _
  induction members with
  | nil => simp [MembersWellFormed]
  | cons e ms ih => rw [MembersWellFormed, ih, List.forall_mem_cons]

/-- Lines are indented by white space. -/
def Layout.IsBlank : Layout → Prop
  | .inline => True
  | .lines unit => ∀ c ∈ unit, isSpace c = true

/-! ## The characters of a string -/

theorem hexValue?_digitChar : ∀ n < 16, hexValue? (Nat.digitChar n) = some n := by decide

/-- One more hexadecimal digit. -/
theorem hex_succ {width : Nat} (hwidth : 0 < width) (n : Nat) :
    Text.hex (width + 1) n = Text.hex width (n / 16) ++ [Nat.digitChar (n % 16)] := by
  unfold Text.hex
  by_cases h : n < 16
  · have hzero : n / 16 = 0 := by omega
    have hsame : n % 16 = n := by omega
    obtain ⟨k, rfl⟩ : ∃ k, width = k + 1 := ⟨width - 1, by omega⟩
    rw [Nat.toDigits_of_lt_base h, hzero, hsame, Nat.toDigits_zero]
    simp [List.replicate_succ']
  · rw [Nat.toDigits_of_base_le (by omega) (by omega)]
    simp [Nat.add_sub_add_right]

theorem hex_four {n : Nat} (h : n < 65536) : Text.hex 4 n =
    [Nat.digitChar (n / 4096), Nat.digitChar (n / 256 % 16), Nat.digitChar (n / 16 % 16),
      Nat.digitChar (n % 16)] := by
  have hlast : Text.hex 1 (n / 16 / 16 / 16) = [Nat.digitChar (n / 16 / 16 / 16)] := by
    rw [Text.hex, Nat.toDigits_of_lt_base (by omega)]
    simp
  rw [hex_succ (by omega), hex_succ (by omega), hex_succ (by omega), hlast]
  simp [Nat.div_div_eq_div_mul]

section Strings

variable {done : List Lexeme} {soFar : List Char}

theorem step_digit {d : Nat} (h : d < 16) (high : Option Nat) (left value : Nat) :
    step (.inUnit soFar high (left + 1) value, done) (Nat.digitChar d) =
      some (.inUnit soFar high left (16 * value + d), done) := by
  rw [step, hexValue?_digitChar d h]
  rfl

theorem step_lastDigit {d : Nat} (h : d < 16) (high : Option Nat) (value : Nat) :
    step (.inUnit soFar high 0 value, done) (Nat.digitChar d) =
      (endUnit soFar high (16 * value + d)).map fun m => (m, done) := by
  rw [step, hexValue?_digitChar d h]
  rfl

/-- The four digits of a code unit. -/
theorem leads_hex {high : Option Nat} {n : Nat} (h : n < 65536) {m : Mode}
    (hend : endUnit soFar high n = some m) :
    Leads step (.inUnit soFar high 3 0, done) (Text.hex 4 n) (m, done) := by
  have hvalue : 16 * (16 * (16 * (16 * 0 + n / 4096) + n / 256 % 16) + n / 16 % 16) + n % 16 = n := by
    omega
  have hlast : step (.inUnit soFar high 0 (16 * (16 * (16 * 0 + n / 4096) + n / 256 % 16) + n / 16 % 16),
      done) (Nat.digitChar (n % 16)) = some (m, done) := by
    rw [step_lastDigit (by omega), hvalue, hend]
    rfl
  rw [hex_four h]
  exact .cons (step_digit (by omega) high 2 0) (.cons (step_digit (by omega) high 1 _)
    (.cons (step_digit (by omega) high 0 _) (.single hlast)))

theorem toNat_lt (c : Char) : c.toNat < 0x110000 := by
  rcases c.valid with h | h
  · exact Nat.lt_trans h (by omega)
  · exact h.2

/-- A code unit that is no surrogate is a character. -/
theorem leads_unit {c : Char} (h : c.toNat < 65536) :
    Leads step (.inText soFar, done) (unitEscape c.toNat) (.inText (c :: soFar), done) := by
  have hvalid : c.toNat < 0xD800 ∨ 0xDFFF < c.toNat := by
    rcases c.valid with h | h
    · exact .inl h
    · exact .inr h.1
  have hend : endUnit soFar none c.toNat = some (.inText (c :: soFar)) := by
    rw [endUnit, if_neg (by omega), if_neg (by omega), Char.ofNat_toNat]
  exact .cons rfl (.cons rfl (leads_hex h hend))

/-- The two units of a pair are joined to the character that they stand for. -/
theorem leads_pair {c : Char} (h : 65536 ≤ c.toNat) :
    Leads step (.inText soFar, done)
      (unitEscape (0xD800 + (c.toNat - 0x10000) / 0x400) ++
        unitEscape (0xDC00 + (c.toNat - 0x10000) % 0x400)) (.inText (c :: soFar), done) := by
  -- what is above U+FFFF has twenty bits, ten for each unit
  have hrange := toNat_lt c
  generalize hunits : c.toNat - 0x10000 = n
  have hhigh : endUnit soFar none (0xD800 + n / 0x400) =
      some (.afterHigh soFar (0xD800 + n / 0x400)) := by
    rw [endUnit, if_pos (by omega)]
  have hlow : endUnit soFar (some (0xD800 + n / 0x400)) (0xDC00 + n % 0x400) =
      some (.inText (c :: soFar)) := by
    have hjoined : 0x10000 + (0xD800 + n / 0x400 - 0xD800) * 0x400 + (0xDC00 + n % 0x400 - 0xDC00) =
        c.toNat := by omega
    rw [endUnit, if_pos (by omega), hjoined, Char.ofNat_toNat]
  exact .append (.cons rfl (.cons rfl (leads_hex (by omega) hhigh)))
    (.cons rfl (.cons rfl (leads_hex (by omega) hlow)))

/-- **Every character of a string is read back from its printed form.** -/
theorem leads_stringChar (c : Char) :
    Leads step (.inText soFar, done) (stringChar c) (.inText (c :: soFar), done) := by
  unfold stringChar
  split
  · rename_i hc
    obtain rfl | rfl := hc
    · exact .cons rfl (.single rfl)
    · exact .cons rfl (.single rfl)
  rename_i hquote
  split
  · rename_i hc; subst hc; exact .cons rfl (.single rfl)
  split
  · rename_i hc; subst hc; exact .cons rfl (.single rfl)
  split
  · rename_i hc; subst hc; exact .cons rfl (.single rfl)
  split
  · rename_i hc; subst hc; exact .cons rfl (.single rfl)
  split
  · rename_i hc; subst hc; exact .cons rfl (.single rfl)
  split
  · rename_i hplain
    rw [not_or] at hquote
    refine .single ?_
    rw [step, if_neg hquote.1, if_neg hquote.2, if_neg (by omega)]
  split
  · rename_i hunit
    exact leads_unit hunit
  · rename_i hpair
    exact leads_pair (by omega)

theorem leads_flatMap (s : List Char) :
    Leads step (.inText soFar, done) (s.flatMap stringChar) (.inText (s.reverse ++ soFar), done) := by
  induction s generalizing soFar with
  | nil => exact .nil
  | cons c rest ih =>
    have hrest : Leads step (.inText soFar, done) (stringChar c ++ rest.flatMap stringChar)
        (.inText (rest.reverse ++ c :: soFar), done) := (leads_stringChar c).append ih
    simpa using hrest

theorem leads_stringChars (s : String) (done : List Lexeme) :
    Leads step (.between, done) (stringChars s) (.between, .text s :: done) := by
  have hend : step (.inText (s.toList.reverse ++ []), done) '"' = some (.between, .text s :: done) := by
    simp [step]
  exact .cons rfl (.append (leads_flatMap s.toList) (.single hend))

end Strings

/-! ## Words -/

/-- A character of a word is no delimiter. -/
theorem stepBetween_word {c : Char} (h : isWordChar c = true) (done : List Lexeme) :
    stepBetween done c = some (.inWord [c], done) := by
  have hne : ∀ d, isWordChar d = false → c ≠ d := by
    rintro d hd rfl
    rw [h] at hd
    cases hd
  have hspace : isSpace c = false := by
    simp [isSpace, hne ' ' (by decide), hne '\n' (by decide), hne '\r' (by decide),
      hne '\t' (by decide)]
  rw [stepBetween, if_neg (by simp [hspace]), if_neg (hne _ (by decide)), if_neg (hne _ (by decide)),
    if_neg (hne _ (by decide)), if_neg (hne _ (by decide)), if_neg (hne _ (by decide)),
    if_neg (hne _ (by decide)), if_neg (hne _ (by decide)), if_pos h]

theorem leads_inWord {s : List Char} (h : ∀ c ∈ s, isWordChar c = true) (soFar : List Char)
    (done : List Lexeme) :
    Leads step (.inWord soFar, done) s (.inWord (s.reverse ++ soFar), done) := by
  induction s generalizing soFar with
  | nil => exact .nil
  | cons c rest ih =>
    have hc : step (.inWord soFar, done) c = some (.inWord (c :: soFar), done) := by
      rw [step, if_pos (h c List.mem_cons_self)]
    have hrest := Leads.cons hc (ih (fun d hd => h d (List.mem_cons_of_mem c hd)) (c :: soFar))
    simpa using hrest

theorem isWordChar_of_isDigit {c : Char} (h : c.isDigit = true) : isWordChar c = true := by
  simp [isWordChar, Char.isAlphanum, h]

theorem naturalFrom_of_digits {s : List Char} (h : ∀ c ∈ s, c.isDigit = true) (value : Nat) :
    naturalFrom value s = some (Nat.ofDigitChars 10 s value) := by
  induction s generalizing value with
  | nil => rfl
  | cons c rest ih =>
    rw [naturalFrom, if_pos (h c List.mem_cons_self), ih fun d hd => h d (List.mem_cons_of_mem c hd)]
    rfl

theorem natural?_digits (n : Nat) : natural? (Nat.toDigits 10 n) = some n := by
  obtain ⟨c, rest, hchars⟩ := List.exists_cons_of_ne_nil (Nat.toDigits_ne_nil : Nat.toDigits 10 n ≠ [])
  have hdigits : ∀ d ∈ c :: rest, d.isDigit = true :=
    fun d hd => Text.isDigit_of_mem_digits (hchars ▸ hd)
  rw [hchars, natural?, naturalFrom_of_digits hdigits, ← hchars, Nat.ofDigitChars_ten_toDigits]
  exact nofun

theorem wordValue?_digits (n : Nat) : wordValue? (Nat.toDigits 10 n) = some (.int n) := by
  have hvalue := natural?_digits n
  obtain ⟨c, rest, hchars⟩ := List.exists_cons_of_ne_nil (Nat.toDigits_ne_nil : Nat.toDigits 10 n ≠ [])
  have hc : c.isDigit = true := Text.isDigit_of_mem_digits (hchars ▸ List.mem_cons_self)
  have hne : ∀ d, d.isDigit = false → c ≠ d := by
    rintro d hd rfl
    rw [hc] at hd
    cases hd
  have hletter : ∀ (d : Char) (word : List Char), d.isDigit = false → ¬ c :: rest = d :: word :=
    fun d _ hd heq => hne d hd (List.cons.inj heq).1
  rw [hchars] at hvalue ⊢
  rw [wordValue?, if_neg (hletter 'n' _ (by decide)), if_neg (hletter 't' _ (by decide)),
    if_neg (hletter 'f' _ (by decide))]
  · simp only [hvalue]
  · exact fun word heq => hletter '-' word (by decide) heq

theorem wordValue?_minus (n : Nat) : wordValue? ('-' :: Nat.toDigits 10 n) = some (.int (-(n : Int))) := by
  have hletter : ∀ (d : Char) (word rest : List Char), '-' ≠ d → ¬ '-' :: rest = d :: word :=
    fun _ _ _ hd heq => hd (List.cons.inj heq).1
  rw [wordValue?, if_neg (hletter 'n' _ _ (by decide)), if_neg (hletter 't' _ _ (by decide)),
    if_neg (hletter 'f' _ _ (by decide))]
  simp only [natural?_digits]

/-- A written integer is a word whose value it is. -/
theorem integer_word (n : Int) : Text.integerChars n ≠ [] ∧
    (∀ c ∈ Text.integerChars n, isWordChar c = true) ∧
      wordValue? (Text.integerChars n) = some (.int n) := by
  have hdigits : ∀ k, ∀ c ∈ Nat.toDigits 10 k, isWordChar c = true :=
    fun k c hc => isWordChar_of_isDigit (Text.isDigit_of_mem_digits hc)
  cases n with
  | ofNat k => exact ⟨Nat.toDigits_ne_nil, hdigits k, wordValue?_digits k⟩
  | negSucc k =>
    refine ⟨List.cons_ne_nil _ _, ?_, wordValue?_minus (k + 1)⟩
    exact List.forall_mem_cons.mpr ⟨by decide, hdigits (k + 1)⟩

/-! ## Values -/

mutual
/-- The lexemes of a value. -/
def lexemesOf : Json → List Lexeme
  | .str s => [.text s]
  | .arr [] => [.openArray, .closeArray]
  | .arr (v :: vs) => .openArray :: lexemesOf v ++ itemLexemes vs ++ [.closeArray]
  | .obj [] => [.openObject, .closeObject]
  | .obj ((k, v) :: ms) =>
    .openObject :: .text k :: .colon :: lexemesOf v ++ memberLexemes ms ++ [.closeObject]
  | v => [.word v]

/-- The lexemes of the items after the first. -/
def itemLexemes : List Json → List Lexeme
  | [] => []
  | v :: vs => .comma :: lexemesOf v ++ itemLexemes vs

/-- The lexemes of the members after the first. -/
def memberLexemes : List (String × Json) → List Lexeme
  | [] => []
  | (k, v) :: ms => .comma :: .text k :: .colon :: lexemesOf v ++ memberLexemes ms
end

/-- What a text ends with. -/
def ended? : Scan → Option (List Lexeme)
  | (.between, done) => some done.reverse
  | (.inWord soFar, done) => (wordValue? soFar.reverse).map fun v => (.word v :: done).reverse
  | _ => none

theorem lexemes?_of_leads {s : List Char} {a : Scan} (h : Leads step (.between, []) s a) :
    lexemes? s = ended? a := by
  unfold Leads at h
  rw [lexemes?, h]
  obtain ⟨m, done⟩ := a
  cases m <;> rfl

/-- The machine has these lexemes behind it, whether the text ends here or a delimiter follows. -/
structure Behind (done : List Lexeme) (a : Scan) : Prop where
  delimiter : ∀ c, isWordChar c = false → step a c = stepBetween done c
  ended : ended? a = some done.reverse

theorem behind_between (done : List Lexeme) : Behind done (.between, done) := ⟨fun _ _ => rfl, rfl⟩

theorem behind_word {soFar : List Char} {v : Json} (h : wordValue? soFar.reverse = some v)
    (done : List Lexeme) : Behind (.word v :: done) (.inWord soFar, done) := by
  constructor
  · intro c hc
    rw [step, if_neg (by simp [hc]), h]
    rfl
  · rw [ended?, h]
    rfl

/-- A word is read whole, whatever delimits it. -/
theorem leads_word {s : List Char} {v : Json} (hne : s ≠ []) (hword : ∀ c ∈ s, isWordChar c = true)
    (hvalue : wordValue? s = some v) (done : List Lexeme) :
    ∃ a, Leads step (.between, done) s a ∧ Behind (.word v :: done) a := by
  obtain ⟨c, rest, rfl⟩ := List.exists_cons_of_ne_nil hne
  obtain ⟨hc, hrest⟩ := List.forall_mem_cons.mp hword
  have hstart : step (.between, done) c = some (.inWord [c], done) := stepBetween_word hc done
  refine ⟨_, .cons hstart (leads_inWord hrest [c] done), behind_word ?_ done⟩
  simpa using hvalue

/-! ## White space -/

theorem leads_spaces {s : List Char} (h : ∀ c ∈ s, isSpace c = true) (done : List Lexeme) :
    Leads step (.between, done) s (.between, done) := by
  induction s with
  | nil => exact .nil
  | cons c rest ih =>
    obtain ⟨hc, hrest⟩ := List.forall_mem_cons.mp h
    have hstep : step (.between, done) c = some (.between, done) := by
      rw [step, stepBetween, if_pos hc]
    exact .cons hstep (ih hrest)

theorem isSpace_newline {l : Layout} (h : l.IsBlank) (depth : Nat) :
    ∀ c ∈ l.newline depth, isSpace c = true := by
  cases l with
  | inline => simp [Layout.newline]
  | lines unit =>
    refine List.forall_mem_cons.mpr ⟨by decide, ?_⟩
    intro c hc
    obtain ⟨s, hs, hmem⟩ := List.mem_flatten.mp hc
    exact h c (List.eq_of_mem_replicate hs ▸ hmem)

theorem not_isWordChar_of_isSpace {c : Char} (h : isSpace c = true) : isWordChar c = false := by
  simp only [isSpace, Bool.or_eq_true, beq_iff_eq] at h
  obtain ((rfl | rfl) | rfl) | rfl := h <;> decide

/-- White space in front of a delimiter changes nothing. -/
theorem leads_delimiter {done : List Lexeme} {a b : Scan} (ha : Behind done a) {s : List Char}
    (hs : ∀ c ∈ s, isSpace c = true) {c : Char} (hc : isWordChar c = false)
    (hstep : stepBetween done c = some b) : Leads step a (s ++ [c]) b := by
  cases s with
  | nil => exact .single ((ha.delimiter c hc).trans hstep)
  | cons d rest =>
    obtain ⟨hd, hrest⟩ := List.forall_mem_cons.mp hs
    have hspace : step a d = some (.between, done) := by
      rw [ha.delimiter d (not_isWordChar_of_isSpace hd), stepBetween, if_pos hd]
    exact .cons hspace (.append (leads_spaces hrest done) (.single hstep))

theorem leads_separator {l : Layout} (h : l.IsBlank) (depth : Nat) {done : List Lexeme} {a : Scan}
    (ha : Behind done a) : Leads step a (l.separator depth) (.between, .comma :: done) := by
  have hcomma : step a ',' = some (.between, .comma :: done) := ha.delimiter ',' (by decide)
  cases l with
  | inline => exact .cons hcomma (.single rfl)
  | lines unit => exact .cons hcomma (leads_spaces (isSpace_newline h depth) _)

theorem leads_colon (done : List Lexeme) :
    Leads step (.between, done) [':', ' '] (.between, .colon :: done) := by
  have hcolon : step (.between, done) ':' = some (.between, .colon :: done) := rfl
  exact .cons hcolon (.single rfl)

/-! ## Printed values -/

section Printed

variable {l : Layout} (hl : l.IsBlank)
include hl

mutual
/-- **The machine finds the lexemes of a printed value**, and stands behind them. -/
theorem leads_chars : ∀ (v : Json), v.WellFormed → ∀ (depth : Nat) (done : List Lexeme),
    ∃ a, Leads step (.between, done) (chars l depth v) a ∧ Behind ((lexemesOf v).reverse ++ done) a
  | .null, _, depth, done =>
    leads_word (List.cons_ne_nil _ _) (List.all_eq_true.mp rfl) rfl done
  | .bool true, _, depth, done =>
    leads_word (List.cons_ne_nil _ _) (List.all_eq_true.mp rfl) rfl done
  | .bool false, _, depth, done =>
    leads_word (List.cons_ne_nil _ _) (List.all_eq_true.mp rfl) rfl done
  | .int n, _, depth, done => by
    obtain ⟨hne, hword, hvalue⟩ := integer_word n
    exact leads_word hne hword hvalue done
  | .real literal, h, depth, done => by
    have hne : literal.toList ≠ [] := mt String.toList_eq_nil_iff.mp h.ne_empty
    exact leads_word hne h.word h.value done
  | .str s, _, depth, done => ⟨_, leads_stringChars s done, behind_between _⟩
  | .arr [], _, depth, done => ⟨_, .cons rfl (.single rfl), behind_between _⟩
  | .arr (v :: vs), h, depth, done => by
    obtain ⟨hv, hvs⟩ := h
    have hopen := leads_spaces (isSpace_newline hl (depth + 1)) (.openArray :: done)
    obtain ⟨a, ha, hbehind⟩ := leads_chars v hv (depth + 1) (.openArray :: done)
    obtain ⟨b, hb, hbehind⟩ := leads_itemChars vs hvs (depth + 1) hbehind
    -- a number at the end of the last item ends only at the bracket
    have hclose := leads_delimiter hbehind (isSpace_newline hl depth) (c := ']') (by decide) rfl
    have hbracket : step (.between, done) '[' = some (.between, .openArray :: done) := rfl
    have hwhole := (((Leads.cons hbracket hopen).append ha).append hb).append hclose
    refine ⟨_, ?_, behind_between _⟩
    rw [chars, List.append_assoc _ (l.newline depth)]
    simpa [lexemesOf] using hwhole
  | .obj [], _, depth, done => ⟨_, .cons rfl (.single rfl), behind_between _⟩
  | .obj ((k, v) :: ms), h, depth, done => by
    obtain ⟨hv, hms⟩ := h
    have hopen := leads_spaces (isSpace_newline hl (depth + 1)) (.openObject :: done)
    have hname := leads_stringChars k (.openObject :: done)
    obtain ⟨a, ha, hbehind⟩ := leads_chars v hv (depth + 1) (.colon :: .text k :: .openObject :: done)
    obtain ⟨b, hb, hbehind⟩ := leads_memberChars ms hms (depth + 1) hbehind
    have hclose := leads_delimiter hbehind (isSpace_newline hl depth) (c := '}') (by decide) rfl
    have hbrace : step (.between, done) '{' = some (.between, .openObject :: done) := rfl
    have hvalue := (leads_colon _).append ha
    have hwhole := ((((Leads.cons hbrace hopen).append hname).append hvalue).append hb).append hclose
    refine ⟨_, ?_, behind_between _⟩
    rw [chars, List.append_assoc _ (l.newline depth)]
    simpa [lexemesOf] using hwhole

theorem leads_itemChars : ∀ (vs : List Json), AllWellFormed vs → ∀ (depth : Nat) {done : List Lexeme}
    {a : Scan}, Behind done a → ∃ b, Leads step a (itemChars l depth vs) b ∧
      Behind ((itemLexemes vs).reverse ++ done) b
  | [], _, depth, done, a, ha => ⟨a, .nil, ha⟩
  | v :: vs, h, depth, done, a, ha => by
    obtain ⟨hv, hvs⟩ := h
    have hcomma := leads_separator hl depth ha
    obtain ⟨b, hb, hbehind⟩ := leads_chars v hv depth (.comma :: done)
    obtain ⟨d, hd, hbehind⟩ := leads_itemChars vs hvs depth hbehind
    refine ⟨d, (hcomma.append hb).append hd, ?_⟩
    simpa [itemLexemes] using hbehind

theorem leads_memberChars : ∀ (ms : List (String × Json)), MembersWellFormed ms → ∀ (depth : Nat)
    {done : List Lexeme} {a : Scan}, Behind done a → ∃ b, Leads step a (memberChars l depth ms) b ∧
      Behind ((memberLexemes ms).reverse ++ done) b
  | [], _, depth, done, a, ha => ⟨a, .nil, ha⟩
  | (k, v) :: ms, h, depth, done, a, ha => by
    obtain ⟨hv, hms⟩ := h
    have hcomma := leads_separator hl depth ha
    have hname := leads_stringChars k (.comma :: done)
    obtain ⟨b, hb, hbehind⟩ := leads_chars v hv depth (.colon :: .text k :: .comma :: done)
    obtain ⟨d, hd, hbehind⟩ := leads_memberChars ms hms depth hbehind
    have hvalue := (leads_colon _).append hb
    refine ⟨d, ((hcomma.append hname).append hvalue).append hd, ?_⟩
    simpa [memberLexemes] using hbehind
end

end Printed

end FormLine.Json
