import FormLine.Proofs.JsonLexemes
/-!
# Reading printed JSON

What the reader of JSON makes of a printed value: the value, in every layout whose lines are indented by
white space, also where the text is printed as a line (`read?_print`). The lexemes of the printed value
(`leads_chars`) are put together to it (`leads_lexemes`). The printed text is ASCII (`isAscii_print`).
-/

namespace FormLine.Json

/-! ## Values from lexemes -/

/-- A value starts with a lexeme that closes no array. -/
theorem lexemesOf_eq_cons (v : Json) :
    ∃ x rest, lexemesOf v = x :: rest ∧ ∀ stack, build (.itemOrEnd stack) x =
      build (.value (.array [] :: stack)) x := by
  cases v with
  | null => exact ⟨_, _, rfl, fun _ => rfl⟩
  | bool b => exact ⟨_, _, rfl, fun _ => rfl⟩
  | int n => exact ⟨_, _, rfl, fun _ => rfl⟩
  | real literal => exact ⟨_, _, rfl, fun _ => rfl⟩
  | str s => exact ⟨_, _, rfl, fun _ => rfl⟩
  | arr items => cases items <;> exact ⟨_, _, rfl, fun _ => rfl⟩
  | obj members => cases members <;> exact ⟨_, _, rfl, fun _ => rfl⟩

theorem leads_firstItem {v : Json} {stack : List Frame} {a : Awaits}
    (h : Leads build (.value (.array [] :: stack)) (lexemesOf v) a) :
    Leads build (.itemOrEnd stack) (lexemesOf v) a := by
  obtain ⟨x, rest, hlexemes, hstart⟩ := lexemesOf_eq_cons v
  unfold Leads at h ⊢
  rw [hlexemes, List.foldlM_cons] at h ⊢
  rwa [hstart]

mutual
/-- **The lexemes of a value are put together to the value.** -/
theorem leads_lexemes : ∀ (v : Json) (stack : List Frame),
    Leads build (.value stack) (lexemesOf v) (.more v stack)
  | .null, _ => .single rfl
  | .bool _, _ => .single rfl
  | .int _, _ => .single rfl
  | .real _, _ => .single rfl
  | .str _, _ => .single rfl
  | .arr [], stack => .cons (b := .itemOrEnd stack) rfl (.single rfl)
  | .arr (v :: vs), stack => by
    have hopen : build (.value stack) .openArray = some (.itemOrEnd stack) := rfl
    have hfirst := leads_firstItem (leads_lexemes v (.array [] :: stack))
    have hitems := leads_itemLexemes vs v [] stack
    rw [lexemesOf, List.append_assoc]
    exact (Leads.cons hopen hfirst).append hitems
  | .obj [], stack => .cons (b := .memberOrEnd stack) rfl (.single rfl)
  | .obj ((k, v) :: ms), stack => by
    have hopen : build (.value stack) .openObject = some (.memberOrEnd stack) := rfl
    have hname : build (.memberOrEnd stack) (.text k) = some (.colon [] k stack) := rfl
    have hcolon : build (.colon [] k stack) .colon = some (.value (.object [] k :: stack)) := rfl
    have hfirst := leads_lexemes v (.object [] k :: stack)
    have hmembers := leads_memberLexemes ms k v [] stack
    rw [lexemesOf, List.append_assoc]
    exact (Leads.cons hopen (.cons hname (.cons hcolon hfirst))).append hmembers

theorem leads_itemLexemes : ∀ (vs : List Json) (v : Json) (items : List Json) (stack : List Frame),
    Leads build (.more v (.array items :: stack)) (itemLexemes vs ++ [.closeArray])
      (.more (.arr (items.reverse ++ v :: vs)) stack)
  | [], v, items, stack => by
    have hclose : build (.more v (.array items :: stack)) .closeArray =
        some (.more (.arr (v :: items).reverse) stack) := rfl
    rw [List.reverse_cons] at hclose
    exact .single hclose
  | w :: vs, v, items, stack => by
    have hcomma : build (.more v (.array items :: stack)) .comma =
        some (.value (.array (v :: items) :: stack)) := rfl
    have hnext := leads_lexemes w (.array (v :: items) :: stack)
    have hrest := leads_itemLexemes vs w (v :: items) stack
    rw [List.reverse_cons, List.append_assoc] at hrest
    rw [itemLexemes, List.append_assoc]
    exact (Leads.cons hcomma hnext).append hrest

theorem leads_memberLexemes : ∀ (ms : List (String × Json)) (k : String) (v : Json)
    (members : List (String × Json)) (stack : List Frame),
    Leads build (.more v (.object members k :: stack)) (memberLexemes ms ++ [.closeObject])
      (.more (.obj (members.reverse ++ (k, v) :: ms)) stack)
  | [], k, v, members, stack => by
    have hclose : build (.more v (.object members k :: stack)) .closeObject =
        some (.more (.obj ((k, v) :: members).reverse) stack) := rfl
    rw [List.reverse_cons] at hclose
    exact .single hclose
  | (k', w) :: ms, k, v, members, stack => by
    have hcomma : build (.more v (.object members k :: stack)) .comma =
        some (.name ((k, v) :: members) stack) := rfl
    have hname : build (.name ((k, v) :: members) stack) (.text k') =
        some (.colon ((k, v) :: members) k' stack) := rfl
    have hcolon : build (.colon ((k, v) :: members) k' stack) .colon =
        some (.value (.object ((k, v) :: members) k' :: stack)) := rfl
    have hnext := leads_lexemes w (.object ((k, v) :: members) k' :: stack)
    have hrest := leads_memberLexemes ms k' w ((k, v) :: members) stack
    rw [List.reverse_cons, List.append_assoc] at hrest
    rw [memberLexemes, List.append_assoc]
    exact (Leads.cons hcomma (.cons hname (.cons hcolon hnext))).append hrest
end

theorem ofLexemes?_lexemesOf (v : Json) : ofLexemes? (lexemesOf v) = some v := by
  have h := leads_lexemes v []
  unfold Leads at h
  rw [ofLexemes?, h]

theorem ofLexemes?_ended {s : List Char} {a : Scan} (h : Leads step (.between, []) s a) {v : Json}
    (ha : Behind (lexemesOf v).reverse a) : (lexemes? s).bind ofLexemes? = some v := by
  rw [lexemes?_of_leads h, ha.ended, List.reverse_reverse, Option.bind_some, ofLexemes?_lexemesOf]

section Printed

variable {l : Layout} (hl : l.IsBlank) {v : Json} (hv : v.WellFormed)
include hl hv

/-- **Reading undoes printing, in every layout.** -/
theorem read?_print : read? (v.print l) = some v := by
  obtain ⟨a, ha, hbehind⟩ := leads_chars hl v hv 0 []
  rw [List.append_nil] at hbehind
  rw [read?, print, String.toList_ofList]
  exact ofLexemes?_ended ha hbehind

/-- A line feed behind the value changes nothing. -/
theorem read?_print_line : read? (v.print l ++ "\n") = some v := by
  obtain ⟨a, ha, hbehind⟩ := leads_chars hl v hv 0 []
  rw [List.append_nil] at hbehind
  have hnewline : step a '\n' = some (.between, (lexemesOf v).reverse) :=
    hbehind.delimiter '\n' (by decide)
  rw [read?, print, String.toList_append, String.toList_ofList]
  exact ofLexemes?_ended (ha.append (.single hnewline)) (behind_between _)

end Printed

/-! ## Printed text is ASCII -/

/-- All characters of the text are ASCII. -/
def IsAscii (s : List Char) : Prop := ∀ c ∈ s, c.toNat < 128

instance (s : List Char) : Decidable (IsAscii s) :=
  List.decidableBAll (fun c : Char => c.toNat < 128) s

theorem isAscii_cons {c : Char} {s : List Char} : IsAscii (c :: s) ↔ c.toNat < 128 ∧ IsAscii s :=
  List.forall_mem_cons

theorem isAscii_append {s t : List Char} : IsAscii (s ++ t) ↔ IsAscii s ∧ IsAscii t :=
  List.forall_mem_append

theorem isAscii_nil : IsAscii [] := by decide

theorem digitChar_ascii : ∀ n < 16, (Nat.digitChar n).toNat < 128 := by decide

theorem isAscii_unitEscape {n : Nat} (h : n < 65536) : IsAscii (unitEscape n) := by
  rw [unitEscape, hex_four h]
  simp only [isAscii_cons]
  exact ⟨by decide, by decide, digitChar_ascii _ (by omega), digitChar_ascii _ (by omega),
    digitChar_ascii _ (by omega), digitChar_ascii _ (by omega), isAscii_nil⟩

theorem isAscii_stringChar (c : Char) : IsAscii (stringChar c) := by
  unfold stringChar
  split
  · rename_i hc
    obtain rfl | rfl := hc <;> decide
  split
  · decide
  split
  · decide
  split
  · decide
  split
  · decide
  split
  · decide
  split
  · rename_i hplain
    exact isAscii_cons.mpr ⟨by omega, isAscii_nil⟩
  split
  · rename_i hunit
    exact isAscii_unitEscape hunit
  · have hrange := toNat_lt c
    exact isAscii_append.mpr ⟨isAscii_unitEscape (by omega), isAscii_unitEscape (by omega)⟩

theorem isAscii_stringChars (s : String) : IsAscii (stringChars s) := by
  have hchars : IsAscii (s.toList.flatMap stringChar) := by
    intro d hd
    obtain ⟨c, _, hc⟩ := List.mem_flatMap.mp hd
    exact isAscii_stringChar c d hc
  exact isAscii_cons.mpr ⟨by decide, isAscii_append.mpr ⟨hchars, by decide⟩⟩

theorem ascii_of_isWordChar {c : Char} (h : isWordChar c = true) : c.toNat < 128 := by
  have hupper : c.isUpper = true → c.toNat ≤ 90 := fun h =>
    (of_decide_eq_true h : c.val ≥ 'A'.val ∧ c.val ≤ 'Z'.val).2
  have hlower : c.isLower = true → c.toNat ≤ 122 := fun h =>
    of_decide_eq_true (Bool.and_eq_true_iff.mp h).2
  have hdigit : c.isDigit = true → c.toNat ≤ 57 := fun h =>
    of_decide_eq_true (Bool.and_eq_true_iff.mp h).2
  have hword : isWordChar c =
      (((((c.isUpper || c.isLower) || c.isDigit) || c == '-') || c == '+') || c == '.') := rfl
  simp only [hword, Bool.or_eq_true, beq_iff_eq] at h
  obtain (((((h | h) | h) | rfl) | rfl) | rfl) := h
  · have := hupper h
    omega
  · have := hlower h
    omega
  · have := hdigit h
    omega
  · decide
  · decide
  · decide

theorem isAscii_word {s : List Char} (h : ∀ c ∈ s, isWordChar c = true) : IsAscii s :=
  fun c hc => ascii_of_isWordChar (h c hc)

theorem isAscii_spaces {s : List Char} (h : ∀ c ∈ s, isSpace c = true) : IsAscii s := by
  intro c hc
  have hspace := h c hc
  simp only [isSpace, Bool.or_eq_true, beq_iff_eq] at hspace
  obtain ((rfl | rfl) | rfl) | rfl := hspace <;> decide

section Ascii

variable {l : Layout} (hl : l.IsBlank)
include hl

theorem isAscii_newline (depth : Nat) : IsAscii (l.newline depth) :=
  isAscii_spaces (isSpace_newline hl depth)

theorem isAscii_separator (depth : Nat) : IsAscii (l.separator depth) := by
  cases l with
  | inline => exact (by decide : IsAscii [',', ' '])
  | lines unit => exact isAscii_cons.mpr ⟨by decide, isAscii_newline hl depth⟩

mutual
theorem isAscii_chars : ∀ (v : Json), v.WellFormed → ∀ depth, IsAscii (chars l depth v)
  | .null, _, _ => (by decide : IsAscii ['n', 'u', 'l', 'l'])
  | .bool true, _, _ => (by decide : IsAscii ['t', 'r', 'u', 'e'])
  | .bool false, _, _ => (by decide : IsAscii ['f', 'a', 'l', 's', 'e'])
  | .int n, _, _ => isAscii_word (integer_word n).2.1
  | .real literal, h, _ => isAscii_word h.word
  | .str s, _, _ => isAscii_stringChars s
  | .arr [], _, _ => (by decide : IsAscii ['[', ']'])
  | .arr (v :: vs), h, depth => by
    have hv := isAscii_chars v h.1 (depth + 1)
    have hvs := isAscii_itemChars vs h.2 (depth + 1)
    simp only [chars, isAscii_append, isAscii_cons]
    exact ⟨⟨⟨⟨⟨by decide, isAscii_newline hl _⟩, hv⟩, hvs⟩, isAscii_newline hl _⟩, by decide, isAscii_nil⟩
  | .obj [], _, _ => (by decide : IsAscii ['{', '}'])
  | .obj ((k, v) :: ms), h, depth => by
    have hv := isAscii_chars v h.1 (depth + 1)
    have hms := isAscii_memberChars ms h.2 (depth + 1)
    simp only [chars, isAscii_append, isAscii_cons]
    exact ⟨⟨⟨⟨⟨⟨by decide, isAscii_newline hl _⟩, isAscii_stringChars k⟩, by decide, by decide, hv⟩, hms⟩,
      isAscii_newline hl _⟩, by decide, isAscii_nil⟩

theorem isAscii_itemChars : ∀ (vs : List Json), AllWellFormed vs → ∀ depth,
    IsAscii (itemChars l depth vs)
  | [], _, _ => isAscii_nil
  | v :: vs, h, depth => by
    simp only [itemChars, isAscii_append]
    exact ⟨⟨isAscii_separator hl depth, isAscii_chars v h.1 depth⟩, isAscii_itemChars vs h.2 depth⟩

theorem isAscii_memberChars : ∀ (ms : List (String × Json)), MembersWellFormed ms → ∀ depth,
    IsAscii (memberChars l depth ms)
  | [], _, _ => isAscii_nil
  | (k, v) :: ms, h, depth => by
    have hv := isAscii_chars v h.1 depth
    have hms := isAscii_memberChars ms h.2 depth
    simp only [memberChars, isAscii_append, isAscii_cons]
    exact ⟨⟨⟨isAscii_separator hl depth, isAscii_stringChars k⟩, by decide, by decide, hv⟩, hms⟩
end

/-- **Printed text is ASCII, whatever the strings in the value are.** -/
theorem isAscii_print {v : Json} (hv : v.WellFormed) : IsAscii (v.print l).toList := by
  rw [print, String.toList_ofList]
  exact isAscii_chars hl v hv 0

end Ascii

end FormLine.Json
