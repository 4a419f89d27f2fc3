import DeviceBrowser.Proofs.Text.Decimal
import DeviceBrowser.Settings.Document
import Mathlib.Data.Nat.Log

/-!
Whole numbers in documents, and objects with one member.

Every number of 64 bits is read from its decimal digits: none of them is large enough to be
taken for one that no double comes near.
-/

namespace DeviceBrowser.Settings.Document

open Text

section Numerals

/-- Digits that fit 64 bits are all taken into the significand. -/
theorem foldl_append_of_lt {digits : List Char} (small : digitsValue digits < UInt64.size) :
    digits.foldl (Scaled.append 0 1) {} = { significand := digitsValue digits } := by
  induction digits using List.reverseRecOn with
  | nil => rfl
  | append_singleton digits digit inductionHypothesis =>
      rw [digitsValue_concat] at small ⊢
      rw [List.foldl_append, inductionHypothesis (by omega)]
      have fits := Nat.not_le.mpr small
      simp only [List.foldl_cons, List.foldl_nil, Scaled.append, Bool.false_or, decide_eq_true_eq,
        if_neg fits]
      rfl

theorem nearestDouble_le (n : Nat) : nearestDouble n ≤ 2 * n := by
  rcases Nat.eq_zero_or_pos n with rfl | positive
  · decide
  have unit_le : Nat.pow 2 (Nat.log2 n + 1 - 53) ≤ n :=
    (Nat.pow_le_pow_right (by decide) (by omega)).trans (Nat.log2_self_le positive.ne')
  unfold nearestDouble
  generalize Nat.pow 2 (Nat.log2 n + 1 - 53) = unit at unit_le
  have below_le : n / unit * unit ≤ n := Nat.div_mul_le_self n unit
  dsimp only
  split
  next => rw [Nat.add_mul]; omega
  next => omega

theorem isTooLarge_of_lt {digits : List Char} (small : digitsValue digits < UInt64.size) :
    ({ isNegative := false, whole := digits } : Numeral).isTooLarge = false := by
  have scaled : ({ isNegative := false, whole := digits } : Numeral).scaled =
      { significand := digitsValue digits } := by
    simp [Numeral.scaled, foldl_append_of_lt small]
  have near : nearestDouble (digitsValue digits) < doubleLimit :=
    calc nearestDouble (digitsValue digits)
      _ ≤ 2 * digitsValue digits := nearestDouble_le _
      _ < 2 * UInt64.size := by omega
      _ < doubleLimit := by decide +kernel
  have one : nearestDouble (Nat.pow 10 (0 : Int).toNat) = 1 := by decide
  rw [Numeral.isTooLarge, scaled]
  simp only [one, Nat.mul_one, Nat.not_le.mpr near, decide_false]
  simp

variable {c : Char} {rest : List Char}

theorem numeral_decimal {n : Nat} (positive : 0 < n) (ends : c.isDigit = false)
    (noPoint : c ≠ '.') (noExponent : c ≠ 'e' ∧ c ≠ 'E') (atEnd : Fault) :
    numeral atEnd (decimal n ++ c :: rest) =
      .ok ({ isNegative := false, whole := decimal n }, c :: rest) := by
  obtain ⟨first, others, spelled, digit, notZero⟩ := exists_decimal_eq_cons positive
  have taken := takeWhile_isDigit_decimal n ends rest
  have notMinus : first ≠ '-' := by
    rintro rfl
    cases digit
  have digits : someDigits atEnd (decimal n ++ c :: rest) = .ok (decimal n, c :: rest) := by
    rw [someDigits, taken, spelled]
    simp
  have exponent : numeralExponent atEnd (c :: rest) = .ok (none, c :: rest) := by
    simp [numeralExponent, noExponent]
  rw [spelled, List.cons_append] at digits ⊢
  simp [numeral, notMinus, notZero, digits, noPoint, exponent, bind, Except.bind, pure,
    Except.pure]

theorem readUnsigned_decimal {n : Nat} (positive : 0 < n) (small : n < UInt64.size)
    (ends : c.isDigit = false) (noPoint : c ≠ '.') (noExponent : c ≠ 'e' ∧ c ≠ 'E') :
    readUnsigned (decimal n ++ c :: rest) = .ok (UInt64.ofNat n, c :: rest) := by
  obtain ⟨first, others, spelled, digit, -⟩ := exists_decimal_eq_cons positive
  have read := @numeral_decimal c rest n positive ends noPoint noExponent .cutShort
  have unsigned : ({ isNegative := false, whole := decimal n } : Numeral).unsigned =
      .ok (UInt64.ofNat n) := by
    have value := digitsValue_decimal n
    rw [Numeral.unsigned, isTooLarge_of_lt (by rwa [value])]
    simp [value, Nat.not_le.mpr small]
  have solid : isSpace first = false := by
    simp only [isSpace, Bool.or_eq_false_iff, beq_eq_false_iff_ne]
    refine ⟨⟨⟨?_, ?_⟩, ?_⟩, ?_⟩ <;> rintro rfl <;> cases digit
  rw [spelled, List.cons_append] at read ⊢
  rw [readUnsigned, skipSpace, List.dropWhile_cons_of_neg (by simp [solid])]
  simp only [startsNumeral, digit, Bool.or_true, if_true, read, bind, Except.bind]
  rw [← spelled, unsigned]
  rfl

end Numerals

section Objects

def isPlain (c : Char) : Bool :=
  c != '"' && c != '\\' && 0x20 ≤ c.toNat

theorem stringFrom_plain {name : List Char} (plain : name.all isPlain = true)
    (done rest : List Char) :
    stringFrom done (name ++ '"' :: rest) = .ok (done.reverse ++ name, rest) := by
  induction name generalizing done with
  | nil =>
      rw [List.nil_append, stringFrom.eq_def, List.append_nil]
      rfl
  | cons c name inductionHypothesis =>
      rw [List.all_cons, Bool.and_eq_true] at plain
      have char := plain.1
      simp only [isPlain, Bool.and_eq_true, bne_iff_ne, decide_eq_true_eq] at char
      rw [List.cons_append, stringFrom.eq_def]
      simp [char.1.1, char.1.2, Nat.not_lt.mpr char.2, inductionHypothesis plain.2]

def single (name : String) (value : List Char) : List Char :=
  '\x7b' :: '"' :: (name.toList ++ '"' :: ':' :: (value ++ ['\x7d']))

variable {Record : Type} {default record : Record} {value rest : List Char}

/-- An object with one member is the record with the value that the member has. -/
theorem readRecord_single (members : List (Member Record)) (member : Member Record)
    (known : members.find? (·.name == member.name) = some member)
    (plain : member.name.toList.all isPlain = true)
    (read : member.read default (value ++ '\x7d' :: rest) = .ok (record, '\x7d' :: rest)) :
    readRecord members default (single member.name value ++ rest) = .ok (record, rest) := by
  have name := stringFrom_plain plain [] (':' :: (value ++ '\x7d' :: rest))
  have opened (content : List Char) : nextMember true ('"' :: content) = .ok (some content) := rfl
  have colon (text : List Char) : skipColon (':' :: text) = .ok text := rfl
  have closed (fuel : Nat) (seen : List String) :
      readMembers members (fuel + 1) false seen record ('\x7d' :: rest) = .ok (record, rest) := rfl
  have text : single member.name value ++ rest =
      '\x7b' :: '"' :: (member.name.toList ++ '"' :: ':' :: (value ++ '\x7d' :: rest)) := by
    simp [single]
  rw [text]
  change readMembers members (_ + 1 + 1) true [] default ('"' :: _) = _
  rw [readMembers]
  simp [opened, name, known, colon, read, closed, bind, Except.bind]

end Objects

end DeviceBrowser.Settings.Document
