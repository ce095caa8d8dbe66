import FormLine.Text.Alphanumeric
import FormLine.Text.Blank
import FormLine.Text.Digit
/-!
# Paragraphs

A paragraph is a text in lines of a width. A run of ASCII white space counts as one space. The text is
taken apart into pieces: gaps, dashes of two or more hyphens between words, and words, where a hyphen
between letters ends a piece. A line takes as many pieces as fit. A piece that is wider than a line is
cut behind its last hyphen on the line or, without one, at the end of the line. A gap that starts a
line after the first is dropped, and so is one that ends a line.

The pieces of a text are the text (`flatten_pieces`), and each line uses some of them up
(`weight_nextLine_lt`), so a paragraph has finitely many lines.
-/

namespace FormLine.Text.Paragraph

/-- Whether the character is ASCII white space. -/
def isSpace (c : Char) : Bool := c == ' ' || (9 ≤ c.toNat && c.toNat ≤ 13)

/-- The text with one space for each run of white space; one that follows white space has none for
the run at its start. -/
def collapse (afterSpace : Bool) : List Char → List Char
  | [] => []
  | c :: rest =>
    if isSpace c then
      if afterSpace then collapse true rest else ' ' :: collapse true rest
    else c :: collapse false rest

/-! ## Pieces -/

/-- Whether the character belongs to a word. -/
def isWordChar (c : Char) : Bool := isAlphanumeric c || c == '_'

/-- Whether the character counts as a letter: it belongs to a word and is no decimal digit. -/
def isLetter (c : Char) : Bool := isWordChar c && (digitValue? c).isNone

/-- Whether a dash may follow the character. -/
def endsWord (c : Char) : Bool := isWordChar c || ['!', '"', '\'', '&', '.', ',', '?'].contains c

/-- Whether a dash stands at the start of `ahead`: two or more hyphens from the end of a word to the
start of the next. The characters before it are given in reverse. -/
def isDashAhead (before ahead : List Char) : Bool :=
  before.head?.any endsWord &&
  match ahead with
  | '-' :: '-' :: rest => (rest.dropWhile (· == '-')).head?.any isWordChar
  | _ => false

/-- Whether two letters stand at the start, with at most a hyphen between them. -/
def startsWithLetters : List Char → Bool
  | x :: '-' :: y :: _ => isLetter x && isLetter y
  | x :: y :: _ => isLetter x && isLetter y
  | _ => false

/-- What a piece is. -/
inductive Kind where
  /-- There is no piece yet. -/
  | none
  | gap
  | dash
  | word
  deriving DecidableEq, Repr

/-- What the piece is that starts at `c`. -/
def Kind.starting (before : List Char) (c : Char) (rest : List Char) : Kind :=
  if isSpace c then .gap
  else if isDashAhead before (c :: rest) then .dash
  else .word

/-- Whether the piece goes on with `c`. -/
def Kind.goesOn (kind : Kind) (before : List Char) (c : Char) (rest : List Char) : Bool :=
  match kind with
  | .none => false
  | .gap => isSpace c
  | .dash => c == '-'
  | .word => !isSpace c && !isDashAhead before (c :: rest)

/-- Whether the word is a compound that may be broken behind the hyphen `c`. -/
def Kind.breaksBehind (kind : Kind) (before : List Char) (c : Char) (rest : List Char) : Bool :=
  kind == .word && c == '-' && startsWithLetters before && startsWithLetters rest

/-- A finished piece, given in reverse, before others. -/
def finish (piece : List Char) (others : List (List Char)) : List (List Char) :=
  if piece.isEmpty then others else piece.reverse :: others

/-- The pieces of a text, the piece in progress first. It and all that precedes are given in
reverse. -/
def piecesFrom (kind : Kind) (before piece : List Char) : List Char → List (List Char)
  | [] => finish piece []
  | c :: rest =>
    if kind.breaksBehind before c rest then
      finish (c :: piece) (piecesFrom .none (c :: before) [] rest)
    else if kind.goesOn before c rest then piecesFrom kind (c :: before) (c :: piece) rest
    else finish piece (piecesFrom (.starting before c rest) (c :: before) [c] rest)

/-- The pieces of a text. -/
def pieces (s : List Char) : List (List Char) := piecesFrom .none [] [] s

theorem flatten_finish (piece : List Char) (others : List (List Char)) :
    (finish piece others).flatten = piece.reverse ++ others.flatten := by
  cases piece <;> simp [finish]

theorem flatten_piecesFrom (s : List Char) : ∀ (kind : Kind) (before piece : List Char),
    (piecesFrom kind before piece s).flatten = piece.reverse ++ s := by
  induction s with
  | nil => intro kind before piece; simp [piecesFrom, flatten_finish]
  | cons c rest ih =>
    intro kind before piece
    unfold piecesFrom
    split
    · simp [flatten_finish, ih]
    · split
      · simp [ih]
      · simp [flatten_finish, ih]

/-- Nothing of a text is lost or added. -/
theorem flatten_pieces (s : List Char) : (pieces s).flatten = s := by
  simp [pieces, flatten_piecesFrom]

/-! ## Lines -/

/-- The first pieces, as many as fit, and the others. -/
def fitting (room : Nat) : List (List Char) → List (List Char) × List (List Char)
  | [] => ([], [])
  | p :: rest =>
    if p.length ≤ room then
      (p :: (fitting (room - p.length) rest).1, (fitting (room - p.length) rest).2)
    else ([], p :: rest)

theorem fitting_append (room : Nat) (ps : List (List Char)) :
    (fitting room ps).1 ++ (fitting room ps).2 = ps := by
  induction ps generalizing room with
  | nil => rfl
  | cons p rest ih =>
    unfold fitting
    split
    · simp [ih]
    · rfl

/-- How much of a piece stays on a line with that much room: what ends with its last hyphen there, or
all that the line takes. -/
def cut (room : Nat) (piece : List Char) : Nat :=
  let upToHyphen := (piece.take room).reverse.dropWhile (· != '-')
  if upToHyphen.any (· != '-') then upToHyphen.length else room

theorem cut_pos {room : Nat} (h : 0 < room) (piece : List Char) : 0 < cut room piece := by
  unfold cut
  simp only
  split
  · rename_i hany
    refine List.length_pos_iff.mpr fun hnil => ?_
    simp [hnil] at hany
  · exact h

/-- The pieces of the next line, and those that are left. -/
def nextLine (width : Nat) (ps : List (List Char)) : List (List Char) × List (List Char) :=
  let line := (fitting width ps).1
  match (fitting width ps).2 with
  | [] => (line, [])
  | p :: rest =>
    if width < p.length then
      let n := if line.isEmpty then cut (max 1 width) p else cut (width - line.flatten.length) p
      (line ++ [p.take n], p.drop n :: rest)
    else (line, p :: rest)

/-- The number of pieces and of their characters. -/
def weight : List (List Char) → Nat
  | [] => 0
  | p :: ps => p.length + 1 + weight ps

theorem weight_cons (p : List Char) (ps : List (List Char)) :
    weight (p :: ps) = p.length + 1 + weight ps := rfl

theorem weight_append (ps qs : List (List Char)) : weight (ps ++ qs) = weight ps + weight qs := by
  induction ps with
  | nil => simp [weight]
  | cons p ps ih =>
    simp only [List.cons_append, weight, ih]
    omega

/-- A line uses something up. -/
theorem weight_nextLine_lt (width : Nat) {ps : List (List Char)} (h : ps ≠ []) :
    weight (nextLine width ps).2 < weight ps := by
  obtain ⟨q, qs, rfl⟩ := List.exists_cons_of_ne_nil h
  have happ := fitting_append width (q :: qs)
  by_cases hq : q.length ≤ width
  · have hline : (fitting width (q :: qs)).1 = q :: (fitting (width - q.length) qs).1 := by
      simp [fitting, hq]
    rw [hline] at happ
    rw [← happ, weight_append, weight_cons]
    unfold nextLine
    rw [happ, hline]
    cases hrest : (fitting width (q :: qs)).2 with
    | nil =>
      have hnil : weight ([] : List (List Char)) = 0 := rfl
      show weight [] < _
      omega
    | cons p rest =>
      simp only
      split
      · simp only [weight_cons, List.length_drop]
        omega
      · show weight (p :: rest) < _
        omega
  · have hsplit : fitting width (q :: qs) = ([], q :: qs) := by simp [fitting, hq]
    have hcut := cut_pos (show 0 < max 1 width by omega) q
    unfold nextLine
    rw [hsplit]
    simp only [show width < q.length by omega, if_true, List.isEmpty_nil, weight_cons,
      List.length_drop]
    omega

/-- What a line starts with: the pieces, without a gap at their start unless the line is the first. -/
def startLine (first : Bool) : List (List Char) → List (List Char)
  | [] => []
  | p :: rest => if !first && isBlankText p then rest else p :: rest

theorem weight_startLine_le (first : Bool) (ps : List (List Char)) :
    weight (startLine first ps) ≤ weight ps := by
  cases ps with
  | nil => exact Nat.le_refl _
  | cons p rest =>
    simp only [startLine]
    split
    · rw [weight_cons]; omega
    · exact Nat.le_refl _

/-- The pieces of a line without a gap at their end. -/
def endLine (ps : List (List Char)) : List (List Char) :=
  if ps.getLast?.any isBlankText then ps.dropLast else ps

/-- The lines that the pieces fill. -/
def linesFrom (width : Nat) (first : Bool) (ps : List (List Char)) : List (List Char) :=
  if _ : startLine first ps = [] then []
  else
    let line := endLine (nextLine width (startLine first ps)).1
    let rest := (nextLine width (startLine first ps)).2
    if line.isEmpty then linesFrom width first rest
    else line.flatten :: linesFrom width false rest
termination_by weight ps
decreasing_by
  all_goals
    exact Nat.lt_of_lt_of_le (weight_nextLine_lt width ‹_›) (weight_startLine_le first ps)

/-- The text in lines of the width. -/
def lines (width : Nat) (s : String) : List (List Char) :=
  linesFrom width true (pieces (trimChars (collapse false s.toList)))

end FormLine.Text.Paragraph
