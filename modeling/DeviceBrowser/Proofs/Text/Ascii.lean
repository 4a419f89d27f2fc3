import DeviceBrowser.Proofs.Text.Utf8

/-!
A character of ASCII comes of its own byte, whatever is decoded.

The bytes that may follow the first one of a character keep what it can become within a
range, and that range lies beyond ASCII from the first byte on.
-/

namespace DeviceBrowser.Text.Utf8

def Unfinished.floor (unfinished : Unfinished) : Nat :=
  (64 * unfinished.value + (unfinished.low.toNat - 0x80)) * Nat.pow 64 (unfinished.missing - 1)

def Unfinished.ceiling (unfinished : Unfinished) : Nat :=
  (64 * unfinished.value + (unfinished.high.toNat - 0x80) + 1) *
    Nat.pow 64 (unfinished.missing - 1)

/-- Whether the numbers of a range are characters, and none of them is in ASCII. -/
def isBeyondAscii (floor ceiling : Nat) : Bool :=
  0x80 ≤ floor && (ceiling ≤ 0xD800 || (0xE000 ≤ floor && ceiling ≤ 0x110000))

def Unfinished.isBeyondAscii (unfinished : Unfinished) : Bool :=
  Utf8.isBeyondAscii unfinished.floor unfinished.ceiling

/-- Whether a byte is read as no character of ASCII, except as itself. -/
def isTrueTo (byte : UInt8) : Symbol ⊕ Unfinished → Bool
  | .inl (.char c) => c.toNat == byte.toNat || 0x80 ≤ c.toNat
  | .inl (.malformed _) => true
  | .inr unfinished => unfinished.isBeyondAscii

theorem toNat_ofNat_of_isBeyondAscii {floor ceiling value : Nat}
    (beyond : isBeyondAscii floor ceiling = true) (above : floor ≤ value)
    (below : value < ceiling) : 0x80 ≤ (Char.ofNat value).toNat := by
  simp only [isBeyondAscii, Bool.and_eq_true, Bool.or_eq_true, decide_eq_true_eq] at beyond
  have valid : value.isValidChar := by
    rcases beyond.2 with lower | higher
    · exact .inl (by omega)
    · exact .inr ⟨by omega, by omega⟩
  have same : (Char.ofNat value).toNat = value := by
    rw [Char.ofNat, dif_pos valid]
    rfl
  rw [same]
  exact Nat.le_trans beyond.1 above

theorem isBeyondAscii_within {floor ceiling lower higher : Nat}
    (beyond : isBeyondAscii floor ceiling = true) (above : floor ≤ lower)
    (below : higher ≤ ceiling) : isBeyondAscii lower higher = true := by
  simp only [isBeyondAscii, Bool.and_eq_true, Bool.or_eq_true, decide_eq_true_eq] at *
  omega

theorem start_isTrueTo (byte : UInt8) : isTrueTo byte (start byte) = true := by
  have every : ∀ code < 256, isTrueTo (UInt8.ofNat code) (start (UInt8.ofNat code)) = true := by
    decide +kernel
  have this := every byte.toNat byte.toNat_lt
  rwa [UInt8.ofNat_toNat] at this

/-- A byte that goes on with a character narrows down what may come of it. -/
theorem extend_isTrueTo {unfinished : Unfinished} {byte : UInt8}
    (beyond : unfinished.isBeyondAscii = true) (admitted : unfinished.admits byte = true) :
    isTrueTo byte (unfinished.extend byte) = true := by
  simp only [Unfinished.admits, Bool.and_eq_true, decide_eq_true_eq, UInt8.le_iff_toNat_le]
    at admitted
  obtain ⟨lowest, highest⟩ := admitted
  unfold Unfinished.extend
  extract_lets value
  split
  next last =>
    have alone : unfinished.missing - 1 = 0 := by omega
    have far : 0x80 ≤ (Char.ofNat value).toNat := by
      apply toNat_ofNat_of_isBeyondAscii beyond
      · simp only [Unfinished.floor, alone, Nat.pow_eq, Nat.pow_zero, Nat.mul_one, value]
        omega
      · simp only [Unfinished.ceiling, alone, Nat.pow_eq, Nat.pow_zero, Nat.mul_one, value]
        omega
    simp [isTrueTo, far]
  next more =>
    obtain ⟨left, missing⟩ : ∃ left, unfinished.missing = left + 2 :=
      ⟨unfinished.missing - 2, by omega⟩
    have power : Nat.pow 64 (left + 1) = 64 * Nat.pow 64 left := Nat.pow_succ'
    apply isBeyondAscii_within beyond
    · have size : 64 * unfinished.value + (unfinished.low.toNat - 0x80) ≤ value := by
        simp only [value]
        omega
      calc
        unfinished.floor = (64 * unfinished.value + (unfinished.low.toNat - 0x80)) *
            (64 * Nat.pow 64 left) := by rw [Unfinished.floor, missing, ← power]; rfl
        _ ≤ value * (64 * Nat.pow 64 left) := Nat.mul_le_mul_right _ size
        _ = (64 * value + 0) * Nat.pow 64 left := by
          rw [Nat.add_zero, Nat.mul_comm 64 value, Nat.mul_assoc]
        _ = _ := by simp only [Unfinished.floor, missing]; rfl
    · have size : value + 1 ≤ 64 * unfinished.value + (unfinished.high.toNat - 0x80) + 1 := by
        simp only [value]
        omega
      calc
        _ = (64 * value + 63 + 1) * Nat.pow 64 left := by
          simp only [Unfinished.ceiling, missing]; rfl
        _ = (value + 1) * (64 * Nat.pow 64 left) := by
          have whole : 64 * value + 63 + 1 = (value + 1) * 64 := by omega
          rw [whole, Nat.mul_assoc]
        _ ≤ (64 * unfinished.value + (unfinished.high.toNat - 0x80) + 1) *
            (64 * Nat.pow 64 left) := Nat.mul_le_mul_right _ size
        _ = unfinished.ceiling := by rw [Unfinished.ceiling, missing, ← power]; rfl

theorem settle_of_isTrueTo {byte : UInt8} {outcome : Symbol ⊕ Unfinished}
    (faithful : isTrueTo byte outcome = true) :
    (∀ c, .char c ∈ (settle outcome).1 → c.toNat = byte.toNat ∨ 0x80 ≤ c.toNat) ∧
      ∀ unfinished ∈ (settle outcome).2, unfinished.isBeyondAscii = true := by
  rcases outcome with (c | bytes) | unfinished
  · have known : c.toNat = byte.toNat ∨ 0x80 ≤ c.toNat := by simpa [isTrueTo] using faithful
    simpa [settle] using known
  · simp [settle]
  · have known : unfinished.isBeyondAscii = true := faithful
    simpa [settle] using known

theorem step_of_isBeyondAscii {pending : Option Unfinished} (byte : UInt8)
    (beyond : ∀ unfinished ∈ pending, unfinished.isBeyondAscii = true) :
    (∀ c, .char c ∈ (step pending byte).1 → c.toNat = byte.toNat ∨ 0x80 ≤ c.toNat) ∧
      ∀ unfinished ∈ (step pending byte).2, unfinished.isBeyondAscii = true := by
  have alone := settle_of_isTrueTo (start_isTrueTo byte)
  cases pending with
  | none => exact alone
  | some unfinished =>
      cases admitted : unfinished.admits byte with
      | true =>
          have extended := settle_of_isTrueTo (extend_isTrueTo (beyond _ rfl) admitted)
          simpa only [step, admitted, if_true] using extended
      | false => simpa [step, admitted] using alone

/-- A character of ASCII is decoded only where its byte stands. -/
theorem mem_of_char_mem_stepAll {pending : Option Unfinished} {bytes : List UInt8} {c : Char}
    (beyond : ∀ unfinished ∈ pending, unfinished.isBeyondAscii = true)
    (decoded : .char c ∈ (stepAll pending bytes).1) (ascii : c.toNat < 0x80) :
    UInt8.ofNat c.toNat ∈ bytes := by
  induction bytes generalizing pending with
  | nil => simp [stepAll] at decoded
  | cons byte bytes inductionHypothesis =>
      obtain ⟨symbols, unfinished⟩ := step_of_isBeyondAscii byte beyond
      rw [stepAll, List.mem_append] at decoded
      rcases decoded with now | later
      · have same : c.toNat = byte.toNat := (symbols c now).resolve_right (by omega)
        rw [same, UInt8.ofNat_toNat]
        exact List.mem_cons_self
      · exact List.mem_cons_of_mem _ (inductionHypothesis unfinished later)

end DeviceBrowser.Text.Utf8
