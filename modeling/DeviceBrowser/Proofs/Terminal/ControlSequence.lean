import DeviceBrowser.Proofs.Text.Utf8
import DeviceBrowser.Terminal.PlainText

/-!
Control sequences leave no trace in plain text.

Each of them takes the terminal from plain text back to plain text.  What stands between
its first bytes and its last one only moves the terminal among states in which nothing is
printed.
-/

namespace DeviceBrowser.Terminal

open DeviceBrowser.Text

namespace State

def readAll (state : State) : List UInt8 → List Char × State
  | [] => ([], state)
  | byte :: rest =>
      let (text, state) := state.step byte
      let (later, state) := state.readAll rest
      (text ++ later, state)

theorem readAll_append (state : State) (first second : List UInt8) :
    state.readAll (first ++ second) =
      ((state.readAll first).1 ++ ((state.readAll first).2.readAll second).1,
        ((state.readAll first).2.readAll second).2) := by
  induction first generalizing state with
  | nil => rfl
  | cons byte first inductionHypothesis =>
      simp only [List.cons_append, readAll, inductionHypothesis, List.append_assoc]

/-- Bytes that keep the terminal among silent states leave nothing. -/
theorem readAll_silent {silent : State → Prop} {allowed : UInt8 → Prop}
    (stays : ∀ state byte, silent state → allowed byte →
      (state.step byte).1 = [] ∧ silent (state.step byte).2)
    {bytes : List UInt8} (admitted : ∀ byte ∈ bytes, allowed byte) {state : State}
    (start : silent state) :
    (state.readAll bytes).1 = [] ∧ silent (state.readAll bytes).2 := by
  induction bytes generalizing state with
  | nil => exact ⟨rfl, start⟩
  | cons byte bytes inductionHypothesis =>
      rw [List.forall_mem_cons] at admitted
      obtain ⟨nothing, next⟩ := stays state byte start admitted.1
      obtain ⟨nothingMore, last⟩ := inductionHypothesis admitted.2 next
      refine ⟨?_, last⟩
      simp only [readAll, nothing, nothingMore, List.append_nil]

end State

theorem foldl_read (reader : Reader) (bytes : List UInt8) :
    bytes.foldl Reader.read reader =
      ⟨(reader.state.readAll bytes).2,
        (reader.state.readAll bytes).1.reverse ++ reader.output⟩ := by
  induction bytes generalizing reader with
  | nil => rfl
  | cons byte bytes inductionHypothesis =>
      rw [List.foldl_cons, inductionHypothesis]
      simp [State.readAll, Reader.read]

theorem parsedText_eq (bytes : List UInt8) : parsedText bytes = (State.text.readAll bytes).1 := by
  simp [parsedText, foldl_read]

def isBetween (low high byte : UInt8) : Bool :=
  low ≤ byte && byte ≤ high

def isOutside (excluded : List UInt8) (byte : UInt8) : Bool :=
  !excluded.contains byte

inductive ControlSequence where
  /-- A control sequence with parameters, such as a colour. -/
  | control (parameters intermediates : List UInt8) (final : UInt8)
  /-- A system command such as a window title, ended by a bell or by an escape. -/
  | command (payload : List UInt8) (bell : Bool)
  | device (payload : List UInt8)
  | textString (introducer : UInt8) (payload : List UInt8)
  | plain (intermediates : List UInt8) (final : UInt8)

namespace ControlSequence

def bytes : ControlSequence → List UInt8
  | .control parameters intermediates final =>
      [0x1B, 0x5B] ++ (parameters ++ (intermediates ++ [final]))
  | .command payload true => [0x1B, 0x5D] ++ (payload ++ [0x07])
  | .command payload false => [0x1B, 0x5D] ++ (payload ++ [0x1B, 0x5C])
  | .device payload => [0x1B, 0x50] ++ (payload ++ [0x1B, 0x5C])
  | .textString introducer payload => [0x1B, introducer] ++ (payload ++ [0x1B, 0x5C])
  | .plain intermediates final => [0x1B] ++ (intermediates ++ [final])

def isWellFormed : ControlSequence → Bool
  | .control parameters intermediates final =>
      parameters.all (isBetween 0x30 0x3F) && intermediates.all (isBetween 0x20 0x2F) &&
        isBetween 0x40 0x7E final
  | .command payload _ => payload.all (isOutside [0x07, 0x18, 0x1A, 0x1B])
  | .device payload => payload.all (isOutside [0x18, 0x1A, 0x1B, 0x9C])
  | .textString introducer payload =>
      [0x58, 0x5E, 0x5F].contains introducer && payload.all (isOutside [0x18, 0x1A, 0x1B])
  | .plain intermediates final =>
      intermediates.all (isBetween 0x20 0x2F) && isBetween 0x30 0x7E final &&
        (!intermediates.isEmpty || isOutside [0x50, 0x58, 0x5B, 0x5D, 0x5E, 0x5F] final)

end ControlSequence

namespace State

/-- Bytes that open a silent stretch, go through it and close it leave nothing. -/
theorem readAll_stretch {silent : State → Prop} {allowed : UInt8 → Prop}
    (stays : ∀ state byte, silent state → allowed byte →
      (state.step byte).1 = [] ∧ silent (state.step byte).2)
    {opening middle closing : List UInt8} {state within : State}
    (opens : state.readAll opening = ([], within)) (start : silent within)
    (admitted : ∀ byte ∈ middle, allowed byte)
    (closes : ∀ state, silent state → state.readAll closing = ([], text)) :
    state.readAll (opening ++ (middle ++ closing)) = ([], text) := by
  obtain ⟨nothing, last⟩ := readAll_silent stays admitted start
  rw [readAll_append, opens, readAll_append, nothing, closes _ last]
  rfl

def InControl (state : State) : Prop :=
  ∃ part, state = .sequence .control part

def InDevice (state : State) : Prop :=
  state = .payload ∨ ∃ part, state = .sequence .device part

theorem step_inControl (state : State) (byte : UInt8) (inside : state.InControl)
    (between : isBetween 0x20 0x3F byte = true) :
    (state.step byte).1 = [] ∧ (state.step byte).2.InControl := by
  obtain ⟨part, rfl⟩ := inside
  simp only [isBetween, Bool.and_eq_true, decide_eq_true_eq] at between
  unfold step control withinSequence InControl
  grind

theorem step_control_final {state : State} {final : UInt8} (inside : state.InControl)
    (between : isBetween 0x40 0x7E final = true) : state.readAll [final] = ([], text) := by
  obtain ⟨part, rfl⟩ := inside
  simp only [isBetween, Bool.and_eq_true, decide_eq_true_eq] at between
  simp only [readAll, List.append_nil]
  unfold step control withinSequence
  grind

theorem step_inDevice (state : State) (byte : UInt8) (inside : state.InDevice)
    (allowed : isOutside [0x18, 0x1A, 0x1B, 0x9C] byte = true) :
    (state.step byte).1 = [] ∧ (state.step byte).2.InDevice := by
  simp only [isOutside, List.contains_cons, List.contains_nil, Bool.not_eq_true', Bool.or_eq_false_iff,
    beq_eq_false_iff_ne] at allowed
  rcases inside with rfl | ⟨part, rfl⟩
  · unfold step control InDevice
    grind
  · unfold step control withinSequence InDevice
    grind

theorem step_command (state : State) (byte : UInt8) (inside : state = .command)
    (allowed : isOutside [0x07, 0x18, 0x1A, 0x1B] byte = true) :
    (state.step byte).1 = [] ∧ (state.step byte).2 = .command := by
  simp only [isOutside, List.contains_cons, List.contains_nil, Bool.not_eq_true', Bool.or_eq_false_iff,
    beq_eq_false_iff_ne] at allowed
  subst inside
  unfold step control
  grind

theorem step_textString (state : State) (byte : UInt8) (inside : state = .textString)
    (allowed : isOutside [0x18, 0x1A, 0x1B] byte = true) :
    (state.step byte).1 = [] ∧ (state.step byte).2 = .textString := by
  simp only [isOutside, List.contains_cons, List.contains_nil, Bool.not_eq_true', Bool.or_eq_false_iff,
    beq_eq_false_iff_ne] at allowed
  subst inside
  unfold step control
  grind

theorem step_escapeIntermediate (state : State) (byte : UInt8)
    (inside : state = .escapeIntermediate) (between : isBetween 0x20 0x2F byte = true) :
    (state.step byte).1 = [] ∧ (state.step byte).2 = .escapeIntermediate := by
  simp only [isBetween, Bool.and_eq_true, decide_eq_true_eq] at between
  subst inside
  unfold step control
  grind

/-- A control sequence takes the terminal from plain text to plain text. -/
theorem readAll_bytes {sequence : ControlSequence} (wellFormed : sequence.isWellFormed = true) :
    text.readAll sequence.bytes = ([], text) := by
  cases sequence with
  | control parameters intermediates final =>
      simp only [ControlSequence.isWellFormed, Bool.and_eq_true, List.all_eq_true] at wellFormed
      obtain ⟨⟨areParameters, areIntermediates⟩, isFinal⟩ := wellFormed
      have inside : ∀ byte ∈ parameters ++ intermediates, isBetween 0x20 0x3F byte = true := by
        simp only [isBetween, Bool.and_eq_true, decide_eq_true_eq] at areParameters areIntermediates
        intro byte present
        simp only [isBetween, Bool.and_eq_true, decide_eq_true_eq]
        rcases List.mem_append.mp present with parameter | intermediate
        · have bounds := areParameters byte parameter
          grind
        · have bounds := areIntermediates byte intermediate
          grind
      rw [ControlSequence.bytes, ← List.append_assoc parameters]
      exact readAll_stretch step_inControl rfl ⟨.entry, rfl⟩ inside
        fun state within => step_control_final within isFinal
  | command payload bell =>
      simp only [ControlSequence.isWellFormed, List.all_eq_true] at wellFormed
      cases bell with
      | true =>
          exact readAll_stretch step_command rfl rfl wellFormed (by rintro _ rfl; rfl)
      | false =>
          exact readAll_stretch step_command rfl rfl wellFormed (by rintro _ rfl; rfl)
  | device payload =>
      simp only [ControlSequence.isWellFormed, List.all_eq_true] at wellFormed
      apply readAll_stretch step_inDevice rfl (.inr ⟨.entry, rfl⟩) wellFormed
      rintro _ (rfl | ⟨part, rfl⟩)
      · rfl
      · rfl
  | textString introducer payload =>
      simp only [ControlSequence.isWellFormed, Bool.and_eq_true, List.all_eq_true] at wellFormed
      have opens : text.readAll [0x1B, introducer] = ([], .textString) := by
        have introduces := wellFormed.1
        simp only [List.contains_iff_mem, List.mem_cons, List.not_mem_nil, or_false] at introduces
        rcases introduces with rfl | rfl | rfl <;> rfl
      exact readAll_stretch step_textString opens rfl wellFormed.2 (by rintro _ rfl; rfl)
  | plain intermediates final =>
      simp only [ControlSequence.isWellFormed, Bool.and_eq_true, List.all_eq_true] at wellFormed
      obtain ⟨⟨areIntermediates, isFinal⟩, plain⟩ := wellFormed
      simp only [isBetween, Bool.and_eq_true, decide_eq_true_eq] at isFinal
      cases intermediates with
      | nil =>
          simp only [List.isEmpty_nil, Bool.not_true, Bool.false_or, isOutside, List.contains_cons,
            List.contains_nil, Bool.not_eq_true', Bool.or_eq_false_iff, beq_eq_false_iff_ne]
            at plain
          have ends : State.escape.step final = ([], text) := by
            unfold step control afterEscape
            grind
          have starts : text.step 0x1B = ([], .escape) := rfl
          simp only [ControlSequence.bytes, List.nil_append, List.singleton_append, readAll, starts,
            ends]
      | cons first intermediates =>
          rw [List.forall_mem_cons] at areIntermediates
          have opens : text.readAll [0x1B, first] = ([], .escapeIntermediate) := by
            have between := areIntermediates.1
            simp only [isBetween, Bool.and_eq_true, decide_eq_true_eq] at between
            have starts : text.step 0x1B = ([], .escape) := rfl
            have goesOn : State.escape.step first = ([], .escapeIntermediate) := by
              unfold step control afterEscape
              grind
            simp only [readAll, starts, goesOn, List.append_nil]
          have shape : ControlSequence.bytes (.plain (first :: intermediates) final) =
              [0x1B, first] ++ (intermediates ++ [final]) := rfl
          rw [shape]
          apply readAll_stretch step_escapeIntermediate opens rfl areIntermediates.2
          rintro _ rfl
          simp only [readAll, List.append_nil]
          unfold step control
          grind

theorem readAll_ground (pending : Option Utf8.Unfinished) {bytes : List UInt8}
    (unescaped : 0x1B ∉ bytes) :
    (State.ground pending).readAll bytes =
      ((Utf8.stepAll pending bytes).1.flatMap plainSymbol,
        .ground (Utf8.stepAll pending bytes).2) := by
  induction bytes generalizing pending with
  | nil => rfl
  | cons byte bytes inductionHypothesis =>
      rw [List.mem_cons, not_or] at unescaped
      have different : (byte == 0x1B) = false := by simpa using Ne.symm unescaped.1
      simp only [readAll, step, different, Bool.false_eq_true, if_false, Utf8.stepAll,
        inductionHypothesis _ unescaped.2, List.flatMap_append]

end State

inductive Piece where
  | char (c : Char)
  | control (sequence : ControlSequence)

namespace Piece

def bytes : Piece → List UInt8
  | .char c => String.utf8EncodeChar c
  | .control sequence => sequence.bytes

def text : Piece → List Char
  | .char c => [c]
  | .control _ => []

/-- Sequences are complete, and the only control characters are line ends and tabs. -/
def isWellFormed : Piece → Bool
  | .char c => !isControl c || isKeptControl c
  | .control sequence => sequence.isWellFormed

end Piece

theorem escape_mem_bytes (sequence : ControlSequence) : 0x1B ∈ sequence.bytes := by
  cases sequence with
  | command payload bell => cases bell <;> simp [ControlSequence.bytes]
  | _ => simp [ControlSequence.bytes]

theorem readAll_utf8EncodeChar {c : Char} (plain : (!isControl c || isKeptControl c) = true) :
    State.text.readAll (String.utf8EncodeChar c) = ([c], .text) := by
  have unescaped : 0x1B ∉ String.utf8EncodeChar c := by
    intro present
    have escape := Utf8.eq_ofNat_of_mem_utf8EncodeChar present (by decide)
    rw [escape] at plain
    exact absurd plain (by decide)
  have printed : printed c = [c] := by
    unfold Terminal.printed
    cases control : isControl c <;> simp_all
  rw [State.text, State.readAll_ground none unescaped, Utf8.stepAll_utf8EncodeChar]
  simp [plainSymbol, printed]

theorem readAll_pieces {pieces : List Piece}
    (wellFormed : ∀ piece ∈ pieces, piece.isWellFormed = true) :
    State.text.readAll (pieces.flatMap Piece.bytes) = (pieces.flatMap Piece.text, .text) := by
  induction pieces with
  | nil => rfl
  | cons piece pieces inductionHypothesis =>
      rw [List.forall_mem_cons] at wellFormed
      have first : State.text.readAll piece.bytes = (piece.text, .text) := by
        cases piece with
        | char c => exact readAll_utf8EncodeChar wellFormed.1
        | control sequence => exact State.readAll_bytes wellFormed.1
      rw [List.flatMap_cons, State.readAll_append, first, inductionHypothesis wellFormed.2]
      rfl

theorem bytes_eq_encode {pieces : List Piece}
    (direct : (pieces.flatMap Piece.bytes).any needsParser = false) :
    pieces.flatMap Piece.bytes = Utf8.encode (pieces.flatMap Piece.text) := by
  induction pieces with
  | nil => rfl
  | cons piece pieces inductionHypothesis =>
      rw [List.flatMap_cons, List.any_append, Bool.or_eq_false_iff] at direct
      rw [List.flatMap_cons, List.flatMap_cons, Utf8.encode_append, inductionHypothesis direct.2]
      cases piece with
      | char c => simp [Piece.bytes, Piece.text]
      | control sequence =>
          have escapes : sequence.bytes.any needsParser = true :=
            List.any_eq_true.mpr ⟨0x1B, escape_mem_bytes sequence, rfl⟩
          rw [Piece.bytes, escapes] at direct
          exact absurd direct.1 (by decide)

/-- The plain text of pieces is their characters. -/
theorem plainChars_pieces {pieces : List Piece}
    (wellFormed : ∀ piece ∈ pieces, piece.isWellFormed = true) :
    plainChars (pieces.flatMap Piece.bytes) = pieces.flatMap Piece.text := by
  unfold plainChars
  split
  next => rw [parsedText_eq, readAll_pieces wellFormed]
  next direct =>
    rw [bytes_eq_encode (Bool.eq_false_iff.mpr direct), Utf8.decodeLossy_encode]

def isPlain (c : Char) : Bool :=
  !isControl c || isKeptControl c

/-- A text as bytes with control sequences anywhere in it.  Each group of them stands where so
many characters of the text are still to come. -/
def withSequences (inserted : Nat → List ControlSequence) : List Char → List UInt8
  | [] => (inserted 0).flatMap ControlSequence.bytes
  | c :: rest =>
      (inserted (rest.length + 1)).flatMap ControlSequence.bytes ++
        (String.utf8EncodeChar c ++ withSequences inserted rest)

theorem withSequences_eq_pieces {inserted : Nat → List ControlSequence} {text : List Char}
    (plain : ∀ c ∈ text, isPlain c = true)
    (complete : ∀ place, ∀ sequence ∈ inserted place, sequence.isWellFormed = true) :
    ∃ pieces : List Piece, (∀ piece ∈ pieces, piece.isWellFormed = true) ∧
      pieces.flatMap Piece.bytes = withSequences inserted text ∧
      pieces.flatMap Piece.text = text := by
  -- The control sequences of one group, as pieces.
  have group : ∀ place, (∀ piece ∈ (inserted place).map Piece.control, piece.isWellFormed = true) ∧
      ((inserted place).map Piece.control).flatMap Piece.bytes =
        (inserted place).flatMap ControlSequence.bytes ∧
      ((inserted place).map Piece.control).flatMap Piece.text = [] := by
    intro place
    refine ⟨?_, ?_, ?_⟩
    · rw [List.forall_mem_map]
      exact complete place
    · rw [List.flatMap_map]
      rfl
    · simp [List.flatMap_map, Piece.text]
  induction text with
  | nil =>
      obtain ⟨wellFormed, bytes, text⟩ := group 0
      exact ⟨_, wellFormed, bytes, text⟩
  | cons c rest inductionHypothesis =>
      rw [List.forall_mem_cons] at plain
      obtain ⟨pieces, wellFormed, bytes, text⟩ := inductionHypothesis plain.2
      obtain ⟨groupWellFormed, groupBytes, groupText⟩ := group (rest.length + 1)
      refine ⟨(inserted (rest.length + 1)).map .control ++ .char c :: pieces, ?_, ?_, ?_⟩
      · rw [List.forall_mem_append, List.forall_mem_cons]
        exact ⟨groupWellFormed, plain.1, wellFormed⟩
      · rw [List.flatMap_append, groupBytes, List.flatMap_cons, bytes]
        rfl
      · rw [List.flatMap_append, groupText, List.flatMap_cons, text]
        rfl

theorem mem_encode_of_ascii {text : List Char} {c : Char} (present : c ∈ text)
    (ascii : c.toNat ≤ 0x7F) : UInt8.ofNat c.toNat ∈ Utf8.encode text := by
  refine List.mem_flatMap.mpr ⟨c, present, ?_⟩
  have code : c.val.toNat = c.toNat := rfl
  simp only [String.utf8EncodeChar, code, if_pos ascii, List.mem_singleton]

theorem not_isKeptControl_of_needsParser : ∀ code < 0x20,
    needsParser (UInt8.ofNat code) = true →
      (Char.ofNat code).toNat < 0x20 ∧ isKeptControl (Char.ofNat code) = false := by
  decide

/-- Where line ends and tabs are the only controls below the printed characters, a text calls
for the parser because of a delete character alone. -/
theorem any_needsParser_encode_iff {text : List Char}
    (kept : ∀ c ∈ text, c.toNat < 0x20 → isKeptControl c = true) :
    (Utf8.encode text).any needsParser = true ↔ '\x7F' ∈ text := by
  rw [List.any_eq_true]
  constructor
  · rintro ⟨byte, present, needs⟩
    have low : byte < 0x20 ∨ byte = 0x7F := by
      simp only [needsParser, Bool.and_eq_true, Bool.or_eq_true, decide_eq_true_eq,
        beq_iff_eq] at needs
      exact needs.1
    rcases low with control | rfl
    · have small : byte.toNat < 0x20 := UInt8.lt_iff_toNat_lt.mp control
      have inside := Utf8.ofNat_mem_of_mem_encode present (by omega)
      obtain ⟨below, unkept⟩ := not_isKeptControl_of_needsParser byte.toNat small (by
        rwa [UInt8.ofNat_toNat])
      rw [kept _ inside below] at unkept
      cases unkept
    · exact Utf8.ofNat_mem_of_mem_encode present (by decide)
  · intro present
    exact ⟨0x7F, mem_encode_of_ascii present (by decide), rfl⟩

theorem isKeptControl_of_isPlain {c : Char} (plain : isPlain c = true) (low : c.toNat < 0x20) :
    isKeptControl c = true := by
  simpa [isPlain, isControl, low] using plain

theorem any_needsParser_encode {text : List Char} (plain : ∀ c ∈ text, isPlain c = true) :
    (Utf8.encode text).any needsParser = true ↔ '\x7F' ∈ text :=
  any_needsParser_encode_iff fun c present low => isKeptControl_of_isPlain (plain c present) low

theorem withSequences_none (text : List Char) :
    withSequences (fun _ => []) text = Utf8.encode text := by
  induction text with
  | nil => rfl
  | cons c rest inductionHypothesis =>
      rw [withSequences, inductionHypothesis]
      rfl

/-- However control sequences are put into a text, the plain text is the text itself.  Without
any it is decoded at once, unless it holds a delete character. -/
theorem plainText_withSequences {text : String} {inserted : Nat → List ControlSequence}
    (plain : ∀ c ∈ text.toList, isPlain c = true)
    (complete : ∀ place, ∀ sequence ∈ inserted place, sequence.isWellFormed = true) :
    plainText (withSequences inserted text.toList) = text ∧
      plainText (Utf8.encode text.toList) = text ∧
      ((Utf8.encode text.toList).any needsParser = true ↔ '\x7F' ∈ text.toList) := by
  have transparent : ∀ inserted : Nat → List ControlSequence,
      (∀ place, ∀ sequence ∈ inserted place, sequence.isWellFormed = true) →
      plainText (withSequences inserted text.toList) = text := by
    intro inserted complete
    obtain ⟨pieces, wellFormed, bytes, chars⟩ := withSequences_eq_pieces plain complete
    rw [plainText, ← bytes, plainChars_pieces wellFormed, chars, String.ofList_toList]
  refine ⟨transparent inserted complete, ?_, any_needsParser_encode plain⟩
  rw [← withSequences_none]
  exact transparent _ (by simp)

/-- Sequences of every kind, one of them with a payload that is no UTF-8, and a delete
character in the text. -/
theorem plainText_withSequences_all_kinds :
    let text := "é\x7F\n"
    let inserted : Nat → List ControlSequence := fun place =>
      if place = 0 then [.plain [0x23] 0x38, .plain [] 0x37]
      else if place = 2 then [.device [0x71, 0x07, 0xFF], .textString 0x5F [0x9C]]
      else if place = 3 then [.control [0x3C, 0x31] [0x20] 0x6D, .command [0x32, 0xC3] false]
      else []
    (∀ c ∈ text.toList, isPlain c = true) ∧
      (∀ place, ∀ sequence ∈ inserted place, sequence.isWellFormed = true) ∧
      plainText (withSequences inserted text.toList) = text ∧
      plainText (Utf8.encode text.toList) = text ∧
      ((Utf8.encode text.toList).any needsParser = true ↔ '\x7F' ∈ text.toList) := by
  intro text inserted
  have plain : ∀ c ∈ text.toList, isPlain c = true := List.all_eq_true.mp (by decide)
  have complete : ∀ place, ∀ sequence ∈ inserted place, sequence.isWellFormed = true := by
    intro place
    unfold inserted
    split
    next => decide
    next =>
      split
      next => decide
      next =>
        split
        next => decide
        next => simp
  exact ⟨plain, complete, plainText_withSequences plain complete⟩

end DeviceBrowser.Terminal
