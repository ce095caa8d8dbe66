import FormLine.Text.Integer
import FormLine.Json.Number
import FormLine.Proofs.Trim
import Mathlib.Algebra.Group.Nat.Defs
/-!
# Integers that are written and read again

The decimal text of an integer is read as that integer (`integer?_integerChars`), as long as it has no
more digits than are read at all. Machine words are far below that limit.
-/

namespace FormLine.Text

theorem range_of_isDigit {c : Char} (h : c.isDigit = true) : 48 ≤ c.toNat ∧ c.toNat < 48 + 10 := by
  simp only [Char.isDigit, Bool.and_eq_true, decide_eq_true_eq] at h
  exact ⟨h.1, Nat.lt_succ_of_le h.2⟩

theorem digitValue?_of_isDigit {c : Char} (h : c.isDigit = true) :
    digitValue? c = some (c.toNat - '0'.toNat) := by
  rw [digitValue?, digitZeros, List.findSome?_cons, if_pos (range_of_isDigit h)]
  rfl

theorem isDigit_of_mem_digits {n : Nat} {c : Char} (h : c ∈ Nat.toDigits 10 n) : c.isDigit = true :=
  Nat.isDigit_of_mem_toDigits (by omega) (by omega) h

/-- A digit is none of the other characters that a numeral may hold. -/
theorem ne_of_isDigit {c : Char} (h : c.isDigit = true) : c ≠ '_' ∧ c ≠ '-' ∧ c ≠ '+' := by
  refine ⟨?_, ?_, ?_⟩
  · rintro rfl; revert h; decide
  · rintro rfl; revert h; decide
  · rintro rfl; revert h; decide

theorem isPadding_of_isDigit {c : Char} (h : c.isDigit = true) : isPadding c = false := by
  have hrange := range_of_isDigit h
  have hblank : isBlank c = false := by
    simp [isBlank]
    omega
  simp [isPadding, hblank]

theorem digitsFrom_of_digits {s : List Char} (h : ∀ c ∈ s, c.isDigit = true) (value : Nat) :
    digitsFrom value s = some (Nat.ofDigitChars 10 s value) := by
  induction s generalizing value with
  | nil => rfl
  | cons c rest ih =>
    have hc := h c List.mem_cons_self
    have hrest := ih fun d hd => h d (List.mem_cons_of_mem c hd)
    rw [digitsFrom]
    · rw [digitValue?_of_isDigit hc, Option.bind_some, hrest]
      rfl
    · exact (ne_of_isDigit hc).1

theorem digitCount_le (s : List Char) (before : Nat) (awaited : Bool) :
    digitCount before awaited s ≤ before + s.length := by
  induction s generalizing before awaited with
  | nil =>
    rw [digitCount]
    split <;> simp
  | cons c rest ih =>
    rw [digitCount, List.length_cons]
    split
    · have := ih (before + 1) false
      omega
    · split
      · omega
      · split
        · have := ih before true
          omega
        · omega

/-- A text that neither starts nor ends with padding has none. -/
theorem stripPadding_eq {s : List Char} (hstart : ∀ c ∈ s.head?, isPadding c = false)
    (hend : ∀ c ∈ s.getLast?, isPadding c = false) : stripPadding s = s := by
  have hlast : ∀ c ∈ s.reverse.head?, isPadding c = false := by
    rw [List.head?_reverse]
    exact hend
  rw [stripPadding, dropWhile_start hstart, dropWhile_start hlast, List.reverse_reverse]

theorem stripPadding_digits {s : List Char} (h : ∀ c ∈ s, c.isDigit = true) : stripPadding s = s := by
  refine stripPadding_eq ?_ ?_
  · exact fun c hc => isPadding_of_isDigit (h c (List.mem_of_head? hc))
  · exact fun c hc => isPadding_of_isDigit (h c (List.mem_of_getLast? hc))

theorem splitSign_digits {s : List Char} (h : ∀ c ∈ s, c.isDigit = true) : splitSign s = (false, s) := by
  cases s with
  | nil => rfl
  | cons c rest =>
    obtain ⟨_, hminus, hplus⟩ := ne_of_isDigit (h c List.mem_cons_self)
    rw [splitSign]
    · exact fun _ h => hminus (List.cons.inj h).1
    · exact fun _ h => hplus (List.cons.inj h).1

/-- The sign and the digits of a written integer. -/
theorem splitSign_integerChars (n : Int) :
    splitSign (stripPadding (integerChars n)) = (decide (n < 0), Nat.toDigits 10 n.natAbs) := by
  cases n with
  | ofNat n =>
    have hdigits : ∀ c ∈ Nat.toDigits 10 n, c.isDigit = true := fun c hc => isDigit_of_mem_digits hc
    rw [integerChars, stripPadding_digits hdigits, splitSign_digits hdigits]
    simp
  | negSucc n =>
    have hdigits : ∀ c ∈ Nat.toDigits 10 (n + 1), c.isDigit = true :=
      fun c hc => isDigit_of_mem_digits hc
    have hpadding : stripPadding ('-' :: Nat.toDigits 10 (n + 1)) = '-' :: Nat.toDigits 10 (n + 1) := by
      refine stripPadding_eq ?_ fun c hc => ?_
      · simp +decide
      · rw [List.getLast?_cons_of_ne_nil Nat.toDigits_ne_nil] at hc
        exact isPadding_of_isDigit (hdigits c (List.mem_of_getLast? hc))
    rw [integerChars, hpadding, splitSign]
    simp

theorem digitThen_digits (n : Nat) : digitThen 0 (Nat.toDigits 10 n) = some n := by
  have hdigits : ∀ c ∈ Nat.toDigits 10 n, c.isDigit = true := fun c hc => isDigit_of_mem_digits hc
  obtain ⟨c, rest, hchars⟩ := List.exists_cons_of_ne_nil (Nat.toDigits_ne_nil : Nat.toDigits 10 n ≠ [])
  have hc : c.isDigit = true := hdigits c (hchars ▸ List.mem_cons_self)
  calc digitThen 0 (Nat.toDigits 10 n)
      = digitsFrom 0 (Nat.toDigits 10 n) := by
        rw [hchars, digitThen, digitsFrom]
        exact (ne_of_isDigit hc).1
    _ = some (Nat.ofDigitChars 10 (Nat.toDigits 10 n) 0) := digitsFrom_of_digits hdigits 0
    _ = some n := by rw [Nat.ofDigitChars_ten_toDigits]

/-- **A written integer is read as that integer.** -/
theorem integer?_integerChars {n : Int} (h : (Nat.toDigits 10 n.natAbs).length ≤ mostDigits) :
    integer? (String.ofList (integerChars n)) = some n := by
  have hcount : ¬ mostDigits < integerDigits (String.ofList (integerChars n)) := by
    have hle := digitCount_le (Nat.toDigits 10 n.natAbs) 0 true
    rw [integerDigits, String.toList_ofList, splitSign_integerChars]
    show ¬ mostDigits < digitCount 0 true (Nat.toDigits 10 n.natAbs)
    omega
  rw [integer?, if_neg hcount, String.toList_ofList, splitSign_integerChars]
  simp only [digitThen_digits]
  show some (if decide (n < 0) = true then -(n.natAbs : Int) else n.natAbs) = some n
  by_cases hn : n < 0
  · rw [if_pos (decide_eq_true hn)]
    congr 1
    omega
  · rw [if_neg (by simpa using hn)]
    congr 1
    omega

theorem length_digits_le {n : Int} {k : Nat} (h : n.natAbs < 10 ^ k) (hk : k ≤ mostDigits) :
    (Nat.toDigits 10 n.natAbs).length ≤ mostDigits := by
  have hmost : 10 ^ k ≤ 10 ^ mostDigits := Nat.pow_le_pow_right (by omega) hk
  have hrange : n.natAbs < 10 ^ mostDigits := by omega
  exact (Nat.length_toDigits_le_iff (by omega) (by decide)).mpr hrange

theorem length_digits_machineWord {n : Int} (h : Json.fitsMachineWord n = true) :
    (Nat.toDigits 10 n.natAbs).length ≤ mostDigits := by
  have hword : n.natAbs < 10 ^ 19 := by
    simp only [Json.fitsMachineWord, Bool.and_eq_true, decide_eq_true_eq] at h
    omega
  exact length_digits_le hword (by decide)

end FormLine.Text
