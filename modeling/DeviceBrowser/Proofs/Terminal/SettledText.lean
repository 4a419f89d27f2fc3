import DeviceBrowser.Proofs.Terminal.DirectDecoding

/-!
The texts that a terminal's output comes to, and that come to themselves.

Each of the two ways to plain text lets some controls get by that the other does not: decoding
at once shows the controls of the upper half, and the parser prints a delete character.  No text
has both, so what one pass leaves the next one leaves as it is, whichever way it takes.
-/

namespace DeviceBrowser.Terminal

open DeviceBrowser.Text

/-- Texts of which nothing is left to be taken away. -/
structure IsSettled (text : List Char) : Prop where
  kept : ∀ c ∈ text, c.toNat < 0x20 → isKeptControl c = true
  oneWay : '\x7F' ∈ text → ∀ c ∈ text, ¬ (0x80 ≤ c.toNat ∧ c.toNat ≤ 0x9F)

variable {bytes : List UInt8} {text : List Char} {c : Char}

theorem isPlain_of_mem_printed {d : Char} (present : c ∈ printed d) : isPlain c = true := by
  unfold printed at present
  split at present
  next => cases present
  next shown =>
    rw [List.mem_singleton] at present
    subst present
    simp only [Bool.and_eq_true, Bool.not_eq_true', not_and, Bool.not_eq_false] at shown
    unfold isPlain
    cases control : isControl c with
    | true => exact shown control
    | false => rfl

theorem isPlain_of_mem_plainSymbol {symbol : Utf8.Symbol} (present : c ∈ plainSymbol symbol) :
    isPlain c = true := by
  unfold plainSymbol at present
  split at present
  next => exact isPlain_of_mem_printed present
  next =>
    split at present
    next => cases present
    next =>
      rw [List.mem_singleton] at present
      exact present ▸ by decide
  next =>
    rw [List.mem_singleton] at present
    exact present ▸ by decide

theorem State.control_leaves (state : State) (byte : UInt8) :
    (state.control byte).1 = [] ∨ (state.control byte).1 = executed byte := by
  unfold control
  split
  next => exact .inr rfl
  next =>
    split
    next => exact .inl rfl
    next =>
      cases state with
      | ground pending => exact .inl rfl
      | escape =>
          dsimp only
          unfold afterEscape
          grind
      | escapeIntermediate => grind
      | sequence family part =>
          dsimp only
          unfold withinSequence
          cases family <;> cases part <;> grind
      | payload => exact .inl rfl
      | command => exact .inl rfl
      | textString => exact .inl rfl

theorem State.isPlain_of_mem_step {state : State} {byte : UInt8}
    (present : c ∈ (state.step byte).1) : isPlain c = true := by
  have outside : ∀ state : State, c ∈ (state.control byte).1 → isPlain c = true := by
    intro state present
    rcases state.control_leaves byte with nothing | carried
    · simp [nothing] at present
    · rw [carried] at present
      exact isPlain_of_mem_printed present
  cases state with
  | ground pending =>
      unfold step at present
      dsimp only at present
      split at present
      next =>
        cases pending with
        | none => cases present
        | some unfinished =>
            rw [List.mem_singleton] at present
            exact present ▸ by decide
      next =>
        obtain ⟨symbol, -, shown⟩ := List.mem_flatMap.mp present
        exact isPlain_of_mem_plainSymbol shown
  | escape => exact outside .escape present
  | escapeIntermediate => exact outside .escapeIntermediate present
  | sequence family part => exact outside (.sequence family part) present
  | payload => exact outside .payload present
  | command => exact outside .command present
  | textString => exact outside .textString present

theorem isPlain_of_mem_parsedText (present : c ∈ parsedText bytes) : isPlain c = true := by
  rw [parsedText_eq] at present
  generalize State.text = state at present
  induction bytes generalizing state with
  | nil => cases present
  | cons byte bytes inductionHypothesis =>
      rw [State.readAll, List.mem_append] at present
      rcases present with now | later
      · exact State.isPlain_of_mem_step now
      · exact inductionHypothesis _ later

theorem mem_of_mem_decodeLossy (present : c ∈ Utf8.decodeLossy bytes) (ascii : c.toNat < 0x80) :
    UInt8.ofNat c.toNat ∈ bytes := by
  have different : c ≠ Utf8.replacement := by
    rintro rfl
    exact absurd ascii (by decide)
  obtain ⟨symbol, decoded, shown⟩ := List.mem_map.mp present
  rw [decode_eq, List.mem_append] at decoded
  cases symbol with
  | malformed bytes => exact absurd shown.symm different
  | char d =>
      obtain rfl : d = c := shown
      rcases decoded with within | cutOff
      · exact Utf8.mem_of_char_mem_stepAll (by simp) within ascii
      · simp at cutOff

theorem isSettled_of_isPlain (plain : ∀ c ∈ text, isPlain c = true) : IsSettled text where
  kept c present low :=
    isKeptControl_of_isPlain (plain c present) low
  oneWay _ c present upper := by
    have unkept : isKeptControl c = false := by
      have beyond : ∀ d : Char, d.toNat < 0x80 → c ≠ d := by
        rintro d low rfl
        omega
      simp [isKeptControl, beyond]
    have plainly := plain c present
    simp [isPlain, isControl, upper, unkept] at plainly

theorem isSettled_plainChars (bytes : List UInt8) : IsSettled (plainChars bytes) := by
  unfold plainChars
  split
  next => exact isSettled_of_isPlain fun c present => isPlain_of_mem_parsedText present
  next direct =>
    have unneeded : ∀ c ∈ Utf8.decodeLossy bytes, c.toNat < 0x80 →
        needsParser (UInt8.ofNat c.toNat) = false := fun c present ascii =>
      needsParser_of_mem (Bool.eq_false_iff.mpr direct) (mem_of_mem_decodeLossy present ascii)
    constructor
    · intro c present low
      have kept := isKeptControl_of_not_needsParser c.toNat low
        (unneeded c present (Nat.lt_trans low (by decide)))
      rwa [Char.ofNat_toNat] at kept
    · intro delete
      exact absurd (unneeded _ delete (by decide)) (by decide)

/-- A settled text is its own plain text. -/
theorem plainChars_encode (settled : IsSettled text) : plainChars (Utf8.encode text) = text := by
  by_cases delete : '\x7F' ∈ text
  · have plain : ∀ c ∈ text, isPlain c = true := by
      intro c present
      cases control : isControl c with
      | false => simp [isPlain, control]
      | true =>
          have unshown := settled.oneWay delete c present
          have low : c.toNat < 0x20 := by
            simp only [isControl, Bool.or_eq_true, Bool.and_eq_true, decide_eq_true_eq] at control
            exact control.resolve_right unshown
          simp [isPlain, settled.kept c present low]
    have wellFormed : ∀ piece ∈ text.map Piece.char, piece.isWellFormed = true :=
      List.forall_mem_map.mpr plain
    simpa [List.flatMap_map, Piece.bytes, Piece.text, Utf8.encode] using
      plainChars_pieces wellFormed
  · have direct := mt (any_needsParser_encode_iff settled.kept).mp delete
    rw [plainChars, if_neg direct, Utf8.decodeLossy_encode]

/-- What is left of a terminal's output holds no control but line ends and tabs below the
printed characters, and another pass leaves it as it is.  The texts that stay as they are, and
so all that is ever left, are just the settled ones. -/
theorem plainText_encode_plainText (bytes : List UInt8) :
    (∀ c ∈ (plainText bytes).toList, c.toNat < 0x20 → c = '\n' ∨ c = '\r' ∨ c = '\t') ∧
      plainText (Utf8.encode (plainText bytes).toList) = plainText bytes ∧
      ∀ text : String, plainText (Utf8.encode text.toList) = text ↔ IsSettled text.toList := by
  have left : ∀ bytes, (plainText bytes).toList = plainChars bytes := fun bytes =>
    String.toList_ofList
  have unchanged : ∀ text : String,
      plainText (Utf8.encode text.toList) = text ↔ IsSettled text.toList := by
    intro text
    constructor
    · intro same
      rw [← same, left]
      exact isSettled_plainChars _
    · intro settled
      rw [plainText, plainChars_encode settled, String.ofList_toList]
  have settled : IsSettled (plainText bytes).toList := by
    rw [left]
    exact isSettled_plainChars bytes
  refine ⟨?_, (unchanged _).mpr settled, unchanged⟩
  intro c present low
  simpa [isKeptControl, or_assoc] using settled.kept c present low

end DeviceBrowser.Terminal
