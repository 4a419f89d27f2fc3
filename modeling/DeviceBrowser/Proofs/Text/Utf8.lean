import DeviceBrowser.Text.Utf8

/-!
Decoding undoes encoding.

`stepAll` reads bytes one after another.  The bytes of a character take the decoder from
one character boundary to the next and leave just that character; so a text is read back
from its bytes, whatever was read before it.
-/

namespace DeviceBrowser.Text.Utf8

/-- Read bytes one after another: the symbols they complete, and what is left unfinished. -/
def stepAll (pending : Option Unfinished) : List UInt8 → List Symbol × Option Unfinished
  | [] => ([], pending)
  | byte :: rest =>
      let (symbols, pending) := step pending byte
      let (later, pending) := stepAll pending rest
      (symbols ++ later, pending)

theorem stepAll_append (pending : Option Unfinished) (first second : List UInt8) :
    stepAll pending (first ++ second) =
      ((stepAll pending first).1 ++ (stepAll (stepAll pending first).2 second).1,
        (stepAll (stepAll pending first).2 second).2) := by
  induction first generalizing pending with
  | nil => rfl
  | cons byte first inductionHypothesis =>
      simp only [List.cons_append, stepAll, inductionHypothesis, List.append_assoc]

theorem foldl_read (decoding : Decoding) (bytes : List UInt8) :
    bytes.foldl Decoding.read decoding =
      ⟨(stepAll decoding.pending bytes).1.reverse ++ decoding.symbols,
        (stepAll decoding.pending bytes).2⟩ := by
  induction bytes generalizing decoding with
  | nil => rfl
  | cons byte bytes inductionHypothesis =>
      rw [List.foldl_cons, inductionHypothesis]
      simp [stepAll, Decoding.read]

theorem decode_of_finished {bytes : List UInt8} {symbols : List Symbol}
    (finished : stepAll none bytes = (symbols, none)) : decode bytes = symbols := by
  simp [decode, foldl_read, finished]

@[simp]
theorem encode_nil : encode [] = [] := rfl

@[simp]
theorem encode_cons (c : Char) (text : List Char) :
    encode (c :: text) = String.utf8EncodeChar c ++ encode text := rfl

@[simp]
theorem encode_append (first second : List Char) :
    encode (first ++ second) = encode first ++ encode second := by
  simp [encode]

theorem le_toNat_ofNat {bits floor : Nat} (high : 0x80 ≤ floor) (small : bits + floor < 0x100) :
    0x80 ≤ (UInt8.ofNat (bits + floor)).toNat := by
  rw [UInt8.toNat_ofNat_of_lt' small]
  omega

/-- A byte of ASCII stands for itself wherever it occurs. -/
theorem eq_ofNat_of_mem_utf8EncodeChar {c : Char} {byte : UInt8}
    (member : byte ∈ String.utf8EncodeChar c) (ascii : byte.toNat < 0x80) :
    c = Char.ofNat byte.toNat := by
  have code : c.val.toNat = c.toNat := rfl
  simp only [String.utf8EncodeChar, code] at member
  split at member
  next small =>
    rw [List.mem_singleton] at member
    rw [member, UInt8.toNat_ofNat_of_lt' (by change _ < 256; omega), Char.ofNat_toNat]
  next =>
    have large : 0x80 ≤ byte.toNat := by
      split at member
      · simp only [List.mem_cons, List.not_mem_nil, or_false] at member
        rcases member with rfl | rfl <;> exact le_toNat_ofNat (by omega) (by omega)
      · split at member
        · simp only [List.mem_cons, List.not_mem_nil, or_false] at member
          rcases member with rfl | rfl | rfl <;> exact le_toNat_ofNat (by omega) (by omega)
        · simp only [List.mem_cons, List.not_mem_nil, or_false] at member
          rcases member with rfl | rfl | rfl | rfl <;>
            exact le_toNat_ofNat (by omega) (by omega)
    omega

theorem ofNat_mem_of_mem_encode {text : List Char} {byte : UInt8} (member : byte ∈ encode text)
    (ascii : byte.toNat < 0x80) : Char.ofNat byte.toNat ∈ text := by
  obtain ⟨c, present, inside⟩ := List.mem_flatMap.mp member
  rwa [← eq_ofNat_of_mem_utf8EncodeChar inside ascii]

/-! The first byte of a character tells how many follow, and narrows the second one down. -/

theorem start_one {code : Nat} (small : code ≤ 0x7F) :
    start (UInt8.ofNat code) = .inl (.char (Char.ofNat code)) := by
  have value : (UInt8.ofNat code).toNat = code := UInt8.toNat_ofNat_of_lt' (by
    change code < 256
    omega)
  simp only [start, value]
  rw [if_pos (by omega)]

theorem start_two : ∀ bits < 0x20, 2 ≤ bits →
    start (UInt8.ofNat (bits + 0xC0)) =
      .inr ⟨[UInt8.ofNat (bits + 0xC0)], bits, 1, 0x80, 0xBF⟩ := by
  decide

theorem start_three : ∀ bits < 0x10,
    start (UInt8.ofNat (bits + 0xE0)) =
      .inr ⟨[UInt8.ofNat (bits + 0xE0)], bits, 2,
        if bits = 0 then 0xA0 else 0x80, if bits = 0xD then 0x9F else 0xBF⟩ := by
  decide

theorem start_four : ∀ bits < 5,
    start (UInt8.ofNat (bits + 0xF0)) =
      .inr ⟨[UInt8.ofNat (bits + 0xF0)], bits, 3,
        if bits = 0 then 0x90 else 0x80, if bits = 4 then 0x8F else 0xBF⟩ := by
  decide

section Continuing

variable {bytes : List UInt8} {value bits : Nat} {low high : UInt8}

theorem toNat_continuing (small : bits < 0x40) : (UInt8.ofNat (bits + 0x80)).toNat = bits + 0x80 :=
  UInt8.toNat_ofNat_of_lt' (by
    change bits + 0x80 < 256
    omega)

theorem admits_continuing (missing : Nat) (small : bits < 0x40)
    (lowest : low.toNat ≤ bits + 0x80) (highest : bits + 0x80 ≤ high.toNat) :
    Unfinished.admits ⟨bytes, value, missing, low, high⟩ (UInt8.ofNat (bits + 0x80)) = true := by
  simp only [Unfinished.admits, Bool.and_eq_true, decide_eq_true_eq, UInt8.le_iff_toNat_le,
    toNat_continuing small]
  exact ⟨lowest, highest⟩

theorem step_last (small : bits < 0x40) (lowest : low.toNat ≤ bits + 0x80)
    (highest : bits + 0x80 ≤ high.toNat) :
    step (some ⟨bytes, value, 1, low, high⟩) (UInt8.ofNat (bits + 0x80)) =
      ([.char (Char.ofNat (64 * value + bits))], none) := by
  simp only [step, admits_continuing 1 small lowest highest, if_true, Unfinished.extend,
    toNat_continuing small, Nat.add_sub_cancel, Nat.le_refl, settle]

theorem step_middle (missing : Nat) (small : bits < 0x40) (lowest : low.toNat ≤ bits + 0x80)
    (highest : bits + 0x80 ≤ high.toNat) :
    step (some ⟨bytes, value, missing + 2, low, high⟩) (UInt8.ofNat (bits + 0x80)) =
      ([], some ⟨bytes ++ [UInt8.ofNat (bits + 0x80)], 64 * value + bits, missing + 1,
        0x80, 0xBF⟩) := by
  have unfinished : ¬ missing + 2 ≤ 1 := by omega
  simp only [step, admits_continuing (missing + 2) small lowest highest, if_true,
    Unfinished.extend, toNat_continuing small, Nat.add_sub_cancel, unfinished, if_false, settle]
  rfl

theorem lowest_continuing (bits : Nat) : (0x80 : UInt8).toNat ≤ bits + 0x80 := by simp

theorem highest_continuing (small : bits < 0x40) : bits + 0x80 ≤ (0xBF : UInt8).toNat := by
  simp only [UInt8.reduceToNat]
  omega

end Continuing

/-! The bytes of a character of each size. -/

section Sizes

variable {value : Nat}

theorem stepAll_one (small : value ≤ 0x7F) :
    stepAll none [UInt8.ofNat value] = ([.char (Char.ofNat value)], none) := by
  simp [stepAll, step, start_one small, settle]

theorem stepAll_two (large : 0x7F < value) (small : value ≤ 0x7FF) :
    stepAll none [UInt8.ofNat (value / 64 % 0x20 + 0xC0), UInt8.ofNat (value % 0x40 + 0x80)] =
      ([.char (Char.ofNat value)], none) := by
  have join : 64 * (value / 64 % 0x20) + value % 0x40 = value := by omega
  have first := start_two (value / 64 % 0x20) (by omega) (by omega)
  have bits : value % 0x40 < 0x40 := Nat.mod_lt _ (by omega)
  simp only [stepAll, step.eq_1, first, settle,
    step_last bits (lowest_continuing _) (highest_continuing bits), join]
  rfl

theorem stepAll_three (large : 0x7FF < value) (small : value ≤ 0xFFFF)
    (valid : value < 0xD800 ∨ 0xDFFF < value) :
    stepAll none [UInt8.ofNat (value / 4096 % 0x10 + 0xE0),
        UInt8.ofNat (value / 64 % 0x40 + 0x80), UInt8.ofNat (value % 0x40 + 0x80)] =
      ([.char (Char.ofNat value)], none) := by
  have join : 64 * (64 * (value / 4096 % 0x10) + value / 64 % 0x40) + value % 0x40 = value := by
    omega
  have first := start_three (value / 4096 % 0x10) (by omega)
  have lowest : (if value / 4096 % 0x10 = 0 then 0xA0 else 0x80 : UInt8).toNat ≤
      value / 64 % 0x40 + 0x80 := by
    split <;> simp only [UInt8.reduceToNat] <;> omega
  have highest : value / 64 % 0x40 + 0x80 ≤
      (if value / 4096 % 0x10 = 0xD then 0x9F else 0xBF : UInt8).toNat := by
    split <;> simp only [UInt8.reduceToNat] <;> omega
  have middle : value / 64 % 0x40 < 0x40 := Nat.mod_lt _ (by omega)
  have last : value % 0x40 < 0x40 := Nat.mod_lt _ (by omega)
  simp only [stepAll, step.eq_1, first, settle, step_middle 0 middle lowest highest,
    step_last last (lowest_continuing _) (highest_continuing last), join]
  rfl

theorem stepAll_four (large : 0xFFFF < value) (small : value < 0x110000) :
    stepAll none [UInt8.ofNat (value / 262144 % 8 + 0xF0),
        UInt8.ofNat (value / 4096 % 0x40 + 0x80), UInt8.ofNat (value / 64 % 0x40 + 0x80),
        UInt8.ofNat (value % 0x40 + 0x80)] =
      ([.char (Char.ofNat value)], none) := by
  have join : 64 * (64 * (64 * (value / 262144 % 8) + value / 4096 % 0x40) + value / 64 % 0x40)
      + value % 0x40 = value := by omega
  have first := start_four (value / 262144 % 8) (by omega)
  have lowest : (if value / 262144 % 8 = 0 then 0x90 else 0x80 : UInt8).toNat ≤
      value / 4096 % 0x40 + 0x80 := by
    split <;> simp only [UInt8.reduceToNat] <;> omega
  have highest : value / 4096 % 0x40 + 0x80 ≤
      (if value / 262144 % 8 = 4 then 0x8F else 0xBF : UInt8).toNat := by
    split <;> simp only [UInt8.reduceToNat] <;> omega
  have second : value / 4096 % 0x40 < 0x40 := Nat.mod_lt _ (by omega)
  have third : value / 64 % 0x40 < 0x40 := Nat.mod_lt _ (by omega)
  have last : value % 0x40 < 0x40 := Nat.mod_lt _ (by omega)
  simp only [stepAll, step.eq_1, first, settle, step_middle 1 second lowest highest,
    step_middle 0 third (lowest_continuing _) (highest_continuing third),
    step_last last (lowest_continuing _) (highest_continuing last), join]
  rfl

end Sizes

theorem isValid (c : Char) : c.toNat < 0xD800 ∨ 0xDFFF < c.toNat ∧ c.toNat < 0x110000 :=
  c.valid

/-- The bytes of a character are read as that character. -/
theorem stepAll_utf8EncodeChar (c : Char) :
    stepAll none (String.utf8EncodeChar c) = ([.char c], none) := by
  have valid := isValid c
  have whole : Char.ofNat c.toNat = c := Char.ofNat_toNat c
  have code : c.val.toNat = c.toNat := rfl
  simp only [String.utf8EncodeChar, code]
  generalize c.toNat = value at valid whole
  rw [← whole]
  split
  next small => exact stepAll_one small
  next =>
    split
    next small => exact stepAll_two (by omega) small
    next =>
      split
      next small => exact stepAll_three (by omega) small (by omega)
      next => exact stepAll_four (by omega) (by omega)

theorem stepAll_encode (text : List Char) :
    stepAll none (encode text) = (text.map .char, none) := by
  induction text with
  | nil => rfl
  | cons c text inductionHypothesis =>
      rw [encode_cons, stepAll_append, stepAll_utf8EncodeChar]
      simp [inductionHypothesis]

theorem decode_encode (text : List Char) : decode (encode text) = text.map .char :=
  decode_of_finished (stepAll_encode text)

theorem decodeLossy_encode (text : List Char) : decodeLossy (encode text) = text := by
  rw [decodeLossy, decode_encode, List.map_map]
  exact List.map_id text

theorem decode?_encode (text : List Char) : decode? (encode text) = some text := by
  rw [decode?, decode_encode]
  induction text with
  | nil => rfl
  | cons c text inductionHypothesis =>
      rw [List.map_cons, List.mapM_cons, inductionHypothesis]
      rfl

end DeviceBrowser.Text.Utf8
