import DeviceBrowser.Proofs.Terminal.ControlSequence
import DeviceBrowser.Proofs.Text.Ascii

/-!
When decoding output at once leaves the text that the terminal's parser leaves.

Output whose only ASCII controls are line ends and tabs is decoded without the parser.  The
parser reads the same symbols there, but it swallows some: control characters of the upper
half, lone bytes that would stand for one, and a character that is cut off at the end.
Where there are none of these both ways agree, and nowhere else.
-/

namespace DeviceBrowser.Terminal

open DeviceBrowser.Text

def isSwallowed : Utf8.Symbol → Bool
  | .char c => 0x80 ≤ c.toNat && c.toNat ≤ 0x9F
  | .malformed [byte] => byte ≤ 0x9F
  | .malformed _ => false

def isCutOff (bytes : List UInt8) : Bool :=
  (bytes.foldl Utf8.Decoding.read {}).pending.isSome

/-- The parser leaves out nothing of output that decoding shows. -/
structure Unabridged (bytes : List UInt8) : Prop where
  unswallowed : ∀ symbol ∈ Utf8.decode bytes, isSwallowed symbol = false
  whole : isCutOff bytes = false

variable {bytes : List UInt8}

theorem needsParser_of_mem {byte : UInt8} (direct : bytes.any needsParser = false)
    (present : byte ∈ bytes) : needsParser byte = false := by
  rw [List.any_eq_false] at direct
  simpa using direct byte present

theorem isKeptControl_of_not_needsParser : ∀ code < 0x20,
    needsParser (UInt8.ofNat code) = false → isKeptControl (Char.ofNat code) = true := by
  decide

/-- Among the symbols of output without other controls, those are left that are not
swallowed. -/
theorem plainSymbol_eq (direct : bytes.any needsParser = false) {symbol : Utf8.Symbol}
    (present : symbol ∈ (Utf8.stepAll none bytes).1) :
    plainSymbol symbol = if isSwallowed symbol then [] else [symbol.lossy] := by
  match symbol with
  | .malformed [] | .malformed (_ :: _ :: _) => rfl
  | .malformed [byte] => simp [plainSymbol, isSwallowed, Utf8.Symbol.lossy]
  | .char c =>
      rcases Nat.lt_or_ge c.toNat 0x20 with low | high
      · have inside : UInt8.ofNat c.toNat ∈ bytes :=
          Utf8.mem_of_char_mem_stepAll (by simp) present (by omega)
        have kept := isKeptControl_of_not_needsParser c.toNat low
          (needsParser_of_mem direct inside)
        rw [Char.ofNat_toNat] at kept
        have ascii : ¬ 0x80 ≤ c.toNat := by omega
        simp [plainSymbol, printed, kept, isSwallowed, ascii, Utf8.Symbol.lossy]
      · have different : ∀ d : Char, d.toNat < 0x20 → c ≠ d := by
          rintro d low rfl
          omega
        have unkept : isKeptControl c = false := by
          simp [isKeptControl, different '\n' (by decide), different '\r' (by decide),
            different '\t' (by decide)]
        simp [plainSymbol, printed, unkept, isControl, Nat.not_lt.mpr high, isSwallowed,
          Utf8.Symbol.lossy]

theorem flatMap_plainSymbol {symbols : List Utf8.Symbol}
    (plain : ∀ symbol ∈ symbols,
      plainSymbol symbol = if isSwallowed symbol then [] else [symbol.lossy]) :
    symbols.flatMap plainSymbol =
      (symbols.filter (!isSwallowed ·)).map Utf8.Symbol.lossy := by
  induction symbols with
  | nil => rfl
  | cons symbol symbols inductionHypothesis =>
      rw [List.forall_mem_cons] at plain
      rw [List.flatMap_cons, plain.1, inductionHypothesis plain.2]
      cases swallowed : isSwallowed symbol <;> simp [swallowed]

/-- What the parser leaves of output without other controls: its symbols, without those that
are swallowed and without a character that is cut off. -/
theorem parsedText_of_direct (direct : bytes.any needsParser = false) :
    parsedText bytes =
      ((Utf8.stepAll none bytes).1.filter (!isSwallowed ·)).map Utf8.Symbol.lossy := by
  have unescaped : 0x1B ∉ bytes := fun present =>
    absurd (needsParser_of_mem direct present) (by decide)
  rw [parsedText_eq, State.text, State.readAll_ground none unescaped]
  exact flatMap_plainSymbol fun symbol present => plainSymbol_eq direct present

theorem decode_eq (bytes : List UInt8) :
    Utf8.decode bytes = (Utf8.stepAll none bytes).1 ++
      ((Utf8.stepAll none bytes).2.map (Utf8.Symbol.malformed ·.bytes)).toList := by
  rw [Utf8.decode, Utf8.foldl_read]
  cases (Utf8.stepAll none bytes).2 <;> simp

theorem isCutOff_eq (bytes : List UInt8) :
    isCutOff bytes = (Utf8.stepAll none bytes).2.isSome := by
  rw [isCutOff, Utf8.foldl_read]

theorem decodeLossy_eq_parsedText_iff (direct : bytes.any needsParser = false) :
    Utf8.decodeLossy bytes = parsedText bytes ↔ Unabridged bytes := by
  rw [parsedText_of_direct direct, Utf8.decodeLossy, decode_eq]
  constructor
  · intro same
    have sizes := congrArg List.length same
    have fewer := List.length_filter_le (!isSwallowed ·) (Utf8.stepAll none bytes).1
    simp only [List.length_map, List.length_append] at sizes
    have whole : (Utf8.stepAll none bytes).2 = none := by
      cases pending : (Utf8.stepAll none bytes).2 with
      | none => rfl
      | some unfinished =>
          simp only [pending, Option.map_some, Option.toList_some, List.length_singleton] at sizes
          omega
    have kept : ∀ symbol ∈ (Utf8.stepAll none bytes).1, (!isSwallowed symbol) = true := by
      rw [← List.length_filter_eq_length_iff]
      simp only [whole, Option.map_none, Option.toList_none, List.length_nil] at sizes
      omega
    refine ⟨?_, ?_⟩
    · rw [decode_eq, whole]
      simpa using kept
    · rw [isCutOff_eq, whole]
      rfl
  · rintro ⟨unswallowed, whole⟩
    rw [isCutOff_eq, Option.isSome_eq_false_iff, Option.isNone_iff_eq_none] at whole
    rw [decode_eq, whole] at unswallowed
    have kept : (Utf8.stepAll none bytes).1.filter (!isSwallowed ·) =
        (Utf8.stepAll none bytes).1 := by
      rw [List.filter_eq_self]
      simpa using unswallowed
    rw [kept, whole]
    simp

/-- Of well-formed text the parser leaves out the control characters of the upper half, and
nothing else. -/
theorem unabridged_encode_iff (text : List Char) :
    Unabridged (Utf8.encode text) ↔ ∀ c ∈ text, ¬ (0x80 ≤ c.toNat ∧ c.toNat ≤ 0x9F) := by
  have whole : isCutOff (Utf8.encode text) = false := by
    rw [isCutOff_eq, Utf8.stepAll_encode]
    rfl
  constructor
  · intro unabridged c present both
    have unswallowed := unabridged.unswallowed (.char c) (by
      rw [Utf8.decode_encode]
      exact List.mem_map_of_mem present)
    simp [isSwallowed, both] at unswallowed
  · intro absent
    refine ⟨?_, whole⟩
    rw [Utf8.decode_encode, List.forall_mem_map]
    intro c present
    simpa [isSwallowed] using absent c present

theorem prefix_plainChars {start : List Char} (plain : ∀ c ∈ start, isPlain c = true)
    (bytes : List UInt8) : start <+: plainChars (Utf8.encode start ++ bytes) := by
  unfold plainChars
  split
  next =>
    have wellFormed : ∀ piece ∈ start.map Piece.char, piece.isWellFormed = true :=
      List.forall_mem_map.mpr plain
    have read : State.text.readAll (Utf8.encode start) = (start, .text) := by
      simpa [List.flatMap_map, Piece.bytes, Piece.text, Utf8.encode] using
        readAll_pieces wellFormed
    rw [parsedText_eq, State.readAll_append, read]
    exact List.prefix_append _ _
  next =>
    rw [Utf8.decodeLossy, decode_eq, Utf8.stepAll_append, Utf8.stepAll_encode]
    have same : (start.map Utf8.Symbol.char).map Utf8.Symbol.lossy = start := by
      rw [List.map_map]
      exact List.map_id start
    simp only [List.map_append, same, List.append_assoc]
    exact List.prefix_append _ _

/-- A control sequence in front of output sends it through the parser, and leaves nothing
itself. -/
theorem plainChars_after_sequence {sequence : ControlSequence}
    (complete : sequence.isWellFormed = true) (bytes : List UInt8) :
    plainChars (sequence.bytes ++ bytes) = parsedText bytes := by
  have escapes : (sequence.bytes ++ bytes).any needsParser = true :=
    List.any_eq_true.mpr
      ⟨0x1B, List.mem_append_left _ (escape_mem_bytes sequence), rfl⟩
  rw [plainChars, if_pos escapes, parsedText_eq, parsedText_eq, State.readAll_append,
    State.readAll_bytes complete]
  rfl

/-- Output without other controls than line ends and tabs has the text that the parser leaves,
and the one that it has after a control sequence, just if the parser leaves out nothing of
it. -/
theorem plainChars_eq_parsedText_iff (direct : bytes.any needsParser = false) :
    (plainChars bytes = parsedText bytes ↔ Unabridged bytes) ∧
      ∀ sequence : ControlSequence, sequence.isWellFormed = true →
        (plainChars bytes = plainChars (sequence.bytes ++ bytes) ↔ Unabridged bytes) := by
  have undirected : ¬ bytes.any needsParser = true := Bool.eq_false_iff.mp direct
  have agree : plainChars bytes = parsedText bytes ↔ Unabridged bytes := by
    rw [plainChars, if_neg undirected]
    exact decodeLossy_eq_parsedText_iff direct
  refine ⟨agree, ?_⟩
  intro sequence complete
  rw [plainChars_after_sequence complete]
  exact agree

/-- Letters beyond ASCII and a byte that is no character at all are left by both. -/
theorem plainChars_eq_parsedText_iff_malformed :
    let bytes : List UInt8 := [0xC3, 0xA9, 0xFF, 0x0A]
    bytes.any needsParser = false ∧ Unabridged bytes ∧
      (plainChars bytes = parsedText bytes ↔ Unabridged bytes) ∧
      ∀ sequence : ControlSequence, sequence.isWellFormed = true →
        (plainChars bytes = plainChars (sequence.bytes ++ bytes) ↔ Unabridged bytes) :=
  ⟨by decide, ⟨by decide, by decide⟩, plainChars_eq_parsedText_iff (by decide)⟩

/-- A control character of the upper half is shown by decoding and swallowed by the parser. -/
theorem parsedText_drops_next_line :
    let bytes : List UInt8 := [0xC2, 0x85, 0x78]
    bytes.any needsParser = false ∧ plainChars bytes = ['\x85', 'x'] ∧
      parsedText bytes = ['x'] := by
  decide

end DeviceBrowser.Terminal
