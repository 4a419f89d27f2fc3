import DeviceBrowser.Proofs.Text.Blank
import DeviceBrowser.Text.Decimal
import Mathlib.Algebra.Group.Nat.Defs

/-!
Decimal numbers are read as what they spell.
-/

namespace DeviceBrowser.Text

variable {text : List Char}

theorem digitsValue_decimal (n : Nat) : digitsValue (decimal n) = n :=
  Nat.ofDigitChars_ten_toDigits

theorem isDigits_decimal (n : Nat) : isDigits (decimal n) = true := by
  have nonempty : (decimal n).isEmpty = false := by
    simp [decimal]
  rw [isDigits, nonempty]
  simp only [Bool.not_false, Bool.true_and, List.all_eq_true]
  exact fun _ present => Nat.isDigit_of_mem_toDigits (by decide) (by decide) present

theorem readUnsigned?_digits (limit : Nat) (digits : isDigits text = true) :
    readUnsigned? limit text =
      if digitsValue text < limit then some (digitsValue text) else none := by
  have unsigned : ∀ rest, text ≠ '+' :: rest := by
    rintro rest rfl
    simp [isDigits] at digits
  unfold readUnsigned?
  split
  next _ rest => exact absurd rfl (unsigned rest)
  next => simp [digits]

theorem readUnsigned?_of_isDigits {limit : Nat} (digits : isDigits text = true)
    (small : digitsValue text < limit) : readUnsigned? limit text = some (digitsValue text) := by
  rw [readUnsigned?_digits limit digits, if_pos small]

/-- A number is read from its digits, perhaps with a plus sign in front of them. -/
theorem readUnsigned?_eq_some_iff {limit n : Nat} :
    readUnsigned? limit text = some n ↔
      ∃ digits, isDigits digits = true ∧ digitsValue digits = n ∧ n < limit ∧
        (text = digits ∨ text = '+' :: digits) := by
  constructor
  · intro read
    simp only [readUnsigned?, Option.ite_none_right_eq_some, Bool.and_eq_true, decide_eq_true_eq,
      Option.some.injEq] at read
    obtain ⟨⟨spelled, small⟩, rfl⟩ := read
    refine ⟨_, spelled, rfl, small, ?_⟩
    split
    next => exact .inr rfl
    next => exact .inl rfl
  · rintro ⟨digits, spelled, rfl, small, rfl | rfl⟩
    · exact readUnsigned?_of_isDigits spelled small
    · simp [readUnsigned?, spelled, small]

theorem getD_readUnsigned?_lt {limit default : Nat} (small : default < limit)
    (text : List Char) : (readUnsigned? limit text).getD default < limit := by
  cases found : readUnsigned? limit text with
  | none => exact small
  | some n =>
      obtain ⟨_, _, _, below, _⟩ := readUnsigned?_eq_some_iff.mp found
      exact below

theorem readUnsigned?_decimal {limit n : Nat} (small : n < limit) :
    readUnsigned? limit (decimal n) = some n := by
  have value := digitsValue_decimal n
  rw [readUnsigned?_of_isDigits (isDigits_decimal n) (by rwa [value]), value]

theorem isBlank_of_isDigit {c : Char} (digit : c.isDigit = true) : isBlank c = false := by
  simp only [Char.isDigit, Bool.and_eq_true, decide_eq_true_eq] at digit
  have low : 48 ≤ c.toNat := digit.1
  have high : c.toNat ≤ 57 := digit.2
  simp [isBlank]
  omega

theorem isColumn_of_isDigits (digits : isDigits text = true) : isColumn text = true := by
  simp only [isDigits, isColumn, Bool.and_eq_true, List.all_eq_true] at digits ⊢
  exact ⟨digits.1, fun c present => by simp [isBlank_of_isDigit (digits.2 c present)]⟩

theorem takeWhile_isDigit_decimal (n : Nat) {c : Char} (ends : c.isDigit = false)
    (rest : List Char) : (decimal n ++ c :: rest).takeWhile Char.isDigit = decimal n := by
  have digits := isDigits_decimal n
  simp only [isDigits, Bool.and_eq_true, List.all_eq_true] at digits
  rw [List.takeWhile_append_of_pos digits.2, List.takeWhile_cons_of_neg (by simp [ends]),
    List.append_nil]

/-- Only zero is spelled with a zero in front. -/
theorem exists_decimal_eq_cons {n : Nat} (positive : 0 < n) :
    ∃ first rest, decimal n = first :: rest ∧ first.isDigit = true ∧ first ≠ '0' := by
  have digit : ∀ n < 10, 0 < n → n.digitChar.isDigit = true ∧ n.digitChar ≠ '0' := by decide
  induction n using Nat.strongRecOn with
  | ind n inductionHypothesis =>
      by_cases single : n < 10
      · exact ⟨_, [], Nat.toDigits_of_lt_base single, digit n single positive⟩
      · obtain ⟨first, rest, spelled, head⟩ :=
          inductionHypothesis (n / 10) (by omega) (by omega)
        refine ⟨first, rest ++ [(n % 10).digitChar], ?_, head⟩
        rw [decimal, Nat.toDigits_of_base_le (by decide) (by omega), ← decimal, spelled]
        rfl

theorem digitsValue_concat (digits : List Char) (digit : Char) :
    digitsValue (digits ++ [digit]) = 10 * digitsValue digits + (digit.toNat - '0'.toNat) := by
  rw [digitsValue, List.foldl_append]
  rfl

theorem digitsValue_decimalWide (width n : Nat) : digitsValue (decimalWide width n) = n := by
  have zeros : ∀ (count : Nat) (digits : List Char),
      digitsValue (List.replicate count '0' ++ digits) = digitsValue digits := by
    intro count digits
    induction count with
    | zero => rfl
    | succ count inductionHypothesis =>
        rw [← inductionHypothesis]
        rfl
  rw [decimalWide, List.leftpad, zeros, digitsValue_decimal]

theorem isDigits_decimalWide (width n : Nat) : isDigits (decimalWide width n) = true := by
  have digits := isDigits_decimal n
  simp only [isDigits, Bool.and_eq_true, decimalWide, List.leftpad, List.all_append] at digits ⊢
  exact ⟨by simp [decimal], by simp [List.all_replicate], digits.2⟩

theorem length_decimalWide {width n : Nat} (positive : 0 < width) (small : n < 10 ^ width) :
    (decimalWide width n).length = width := by
  have short : (decimal n).length ≤ width :=
    (Nat.length_toDigits_le_iff (by decide) positive).mpr small
  rw [decimalWide, List.length_leftpad, Nat.max_eq_left short]

/-- Where a number ends that is not padded, its digits begin no other number. -/
theorem eq_of_decimal_begins {first second : Nat} {c d : Char} {rest other : List Char}
    (ends : c.isDigit = false) (otherEnds : d.isDigit = false)
    (begins : decimal first ++ c :: rest <+: decimal second ++ d :: other) :
    first = second ∧ c :: rest <+: d :: other := by
  obtain ⟨after, whole⟩ := begins
  rw [List.append_assoc, List.cons_append] at whole
  have digits := congrArg (List.takeWhile Char.isDigit) whole
  rw [takeWhile_isDigit_decimal first ends, takeWhile_isDigit_decimal second otherEnds] at digits
  have same := congrArg digitsValue digits
  rw [digitsValue_decimal, digitsValue_decimal] at same
  rw [digits] at whole
  exact ⟨same, after, List.append_cancel_left whole⟩

end DeviceBrowser.Text
