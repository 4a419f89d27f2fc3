import DeviceBrowser.Arguments.Parsing
import DeviceBrowser.Proofs.Text.Search
import DeviceBrowser.Proofs.Text.Utf8

/-!
How requests are spelled on a command line, and that they are read as they are spelled.

`Asks` says which requests a command line makes, in which order.  Reading the command line comes
to the same as granting these requests one after another, with all that can go wrong with them.
-/

namespace DeviceBrowser.Arguments

open Text

def Switch.name : Switch → String
  | .help => "help"
  | .version => "version"
  | .devices => "devices"
  | .json => "json"

def Switch.letter? : Switch → Option Char
  | .help => some 'h'
  | .version => some 'V'
  | .devices => some 'd'
  | .json => none

def Setting.name : Setting → String
  | .serial => "serial"
  | .adb => "adb"
  | .settingsFile => "config"
  | .timeout => "timeout"
  | .logLevel => "log-level"

def Setting.letter : Setting → Char
  | .serial => 's'
  | .adb => 'a'
  | .settingsFile => 'c'
  | .timeout => 't'
  | .logLevel => 'l'

inductive Request where
  | switch (switch : Switch)
  | setting (setting : Setting) (value : Word)
  | path (word : Word)
  deriving DecidableEq

def grant (arguments : Arguments) : Request → Except Fault Arguments
  | .switch switch => .ok (arguments.turnOn switch)
  | .setting setting value => arguments.assign setting value
  | .path word => arguments.setPath word

def longWord (name : String) : Word :=
  hyphen :: hyphen :: Utf8.encode name.toList

/-- A word of short options, up to the last of their letters. -/
def shortWord (letters : List Char) : Word :=
  hyphen :: Utf8.encode letters

/-- Switches that can share a word, each with its letter. -/
def AreShort (switches : List Switch) (letters : List Char) : Prop :=
  switches.map Switch.letter? = letters.map some

instance (switches : List Switch) (letters : List Char) : Decidable (AreShort switches letters) :=
  inferInstanceAs (Decidable (_ = _))

/-- Which words spell which requests.  A setting has its value in the next word or within its own,
and switches may stand before its letter. -/
inductive Spells : List Word → List Request → Prop
  | switch (switch : Switch) : Spells [longWord switch.name] [.switch switch]
  | switches {switches : List Switch} {letters : List Char} (short : AreShort switches letters)
      (filled : switches ≠ []) : Spells [shortWord letters] (switches.map .switch)
  | apart (setting : Setting) (value : Word) :
      Spells [longWord setting.name, value] [.setting setting value]
  | equated (setting : Setting) (value : Word) :
      Spells [longWord setting.name ++ equalsSign :: value] [.setting setting value]
  | shortApart {switches : List Switch} {letters : List Char} (short : AreShort switches letters)
      (setting : Setting) (value : Word) :
      Spells [shortWord (letters ++ [setting.letter]), value]
        (switches.map .switch ++ [.setting setting value])
  | attached {switches : List Switch} {letters : List Char} (short : AreShort switches letters)
      (setting : Setting) {value : Word} (filled : value ≠ [])
      (unequated : value.head? ≠ some equalsSign) :
      Spells [shortWord (letters ++ [setting.letter]) ++ value]
        (switches.map .switch ++ [.setting setting value])
  | shortEquated {switches : List Switch} {letters : List Char}
      (short : AreShort switches letters) (setting : Setting) (value : Word) :
      Spells [shortWord (letters ++ [setting.letter]) ++ equalsSign :: value]
        (switches.map .switch ++ [.setting setting value])
  | path {word : Word} (plain : word = [hyphen] ∨ word.head? ≠ some hyphen) :
      Spells [word] [.path word]

/-- Which requests a command line makes.  Behind two hyphens there are only paths. -/
inductive Asks : List Word → List Request → Prop
  | nothing : Asks [] []
  | paths (words : List Word) : Asks ([hyphen, hyphen] :: words) (words.map .path)
  | cons {words rest : List Word} {requests others : List Request}
      (spells : Spells words requests) (asks : Asks rest others) :
      Asks (words ++ rest) (requests ++ others)

variable {arguments : Arguments} {switches : List Switch} {letters : List Char} {letter : Char}

section Letters

theorem shortMeaning?_of_letter? {switch : Switch} (spelled : switch.letter? = some letter) :
    shortMeaning? letter = some (.switch switch) := by
  cases switch <;> cases spelled <;> rfl

theorem shortMeaning?_letter (setting : Setting) :
    shortMeaning? setting.letter = some (.setting setting) := by
  cases setting <;> rfl

theorem plain_of_shortMeaning? {meaning : Meaning} (known : shortMeaning? letter = some meaning) :
    letter.toNat ≤ 0x7F ∧ letter ≠ '-' ∧ letter ≠ '=' := by
  unfold shortMeaning? at known
  split at known
  case h_9 => cases known
  all_goals decide

theorem firstLetter_encode (letter : Char) (rest : Word) :
    firstLetter (String.utf8EncodeChar letter ++ rest) = letter := by
  have short : (String.utf8EncodeChar letter).length ≤ 4 := by
    rw [String.length_utf8EncodeChar]
    exact letter.utf8Size_le_four
  have decoded : ∃ later, Utf8.decode
      (String.utf8EncodeChar letter ++ rest.take (4 - (String.utf8EncodeChar letter).length)) =
        .char letter :: later := by
    rw [Utf8.decode, Utf8.foldl_read, Utf8.stepAll_append, Utf8.stepAll_utf8EncodeChar]
    dsimp only
    split <;> simp
  obtain ⟨later, decoded⟩ := decoded
  rw [firstLetter, List.take_append, List.take_of_length_le short, decoded]

theorem utf8EncodeChar_of_le (ascii : letter.toNat ≤ 0x7F) :
    String.utf8EncodeChar letter = [UInt8.ofNat letter.toNat] := by
  have code : letter.val.toNat = letter.toNat := rfl
  simp only [String.utf8EncodeChar, code, if_pos ascii]

/-- The letter of an option has a byte to itself, and no hyphen or equals sign. -/
theorem exists_utf8EncodeChar {meaning : Meaning} (known : shortMeaning? letter = some meaning) :
    ∃ byte, String.utf8EncodeChar letter = [byte] ∧ byte ≠ hyphen ∧ byte ≠ equalsSign := by
  obtain ⟨ascii, noHyphen, noEquals⟩ := plain_of_shortMeaning? known
  have alone := utf8EncodeChar_of_le ascii
  have apart : ∀ byte : UInt8, byte.toNat < 0x80 → letter ≠ Char.ofNat byte.toNat →
      UInt8.ofNat letter.toNat ≠ byte := by
    rintro byte small different rfl
    apply different
    rw [UInt8.toNat_ofNat_of_lt' (by change _ < 256; omega), Char.ofNat_toNat]
  exact ⟨_, alone, apart hyphen (by decide) noHyphen, apart equalsSign (by decide) noEquals⟩

end Letters

section Short

variable (arguments) (previous : Option Char) (rest : Word)

theorem readShort_switch {switch : Switch} (spelled : switch.letter? = some letter) :
    readShort arguments previous (String.utf8EncodeChar letter ++ rest) =
      readShort (arguments.turnOn switch) (some letter) rest := by
  have known := shortMeaning?_of_letter? spelled
  obtain ⟨byte, alone, -, noEquals⟩ := exists_utf8EncodeChar known
  have first := firstLetter_encode letter rest
  rw [alone, List.singleton_append] at first ⊢
  have unequated : (byte == equalsSign) = false := by simpa using noEquals
  rw [readShort.eq_def]
  simp only [first, known, unequated]

theorem readShort_switches (short : AreShort switches letters) :
    ∃ last, readShort arguments previous (Utf8.encode letters ++ rest) =
      readShort (switches.foldl turnOn arguments) last rest := by
  induction switches generalizing arguments previous letters with
  | nil =>
      obtain rfl : letters = [] := by simpa [AreShort] using short.symm
      exact ⟨previous, rfl⟩
  | cons switch switches inductionHypothesis =>
      cases letters with
      | nil => simp [AreShort] at short
      | cons letter letters =>
          obtain ⟨spelled, short⟩ := List.cons.inj short
          obtain ⟨last, read⟩ :=
            inductionHypothesis (arguments.turnOn switch) (some letter) short
          refine ⟨last, ?_⟩
          rw [Utf8.encode_cons, List.append_assoc, readShort_switch _ _ _ spelled, read,
            List.foldl_cons]

theorem readShort_letter (setting : Setting) :
    readShort arguments previous (String.utf8EncodeChar setting.letter ++ rest) =
      match rest with
      | [] => .ok (arguments, .valueOf setting (.short setting.letter))
      | next :: value => do
          return (← arguments.assign setting (if next == equalsSign then value else next :: value),
            .anything) := by
  have known := shortMeaning?_letter setting
  obtain ⟨byte, alone, -, noEquals⟩ := exists_utf8EncodeChar known
  have first := firstLetter_encode setting.letter rest
  rw [alone, List.singleton_append] at first ⊢
  have unequated : (byte == equalsSign) = false := by simpa using noEquals
  rw [readShort.eq_def]
  simp only [first, known, unequated]
  cases rest <;> rfl

end Short

section Words

variable (arguments) {name : String} {rest word : Word}

theorem readWord_long (filled : rest ≠ []) :
    readWord arguments (hyphen :: hyphen :: rest) = arguments.readLong rest := by
  cases rest with
  | nil => exact absurd rfl filled
  | cons head tail => rfl

theorem readWord_short (filled : rest ≠ []) (single : rest.head? ≠ some hyphen) :
    readWord arguments (hyphen :: rest) = arguments.readShort none rest := by
  cases rest with
  | nil => exact absurd rfl filled
  | cons head tail =>
      have different : (head == hyphen) = false := by simpa using single
      cases tail <;> simp [readWord, different]

theorem readWord_path (plain : word = [hyphen] ∨ word.head? ≠ some hyphen) :
    readWord arguments word = do return (← arguments.setPath word, .anything) := by
  rcases plain with rfl | plain
  · rfl
  · match word with
    | [] | [_] => rfl
    | first :: second :: rest =>
        have different : (first == hyphen) = false := by simpa using plain
        cases rest <;> simp [readWord, different]

end Words

section Options

variable (arguments) {name : String}

theorem plain_of_longMeaning? {meaning : Meaning} (known : longMeaning? name = some meaning) :
    '=' ∉ name.toList ∧ name ≠ "" := by
  unfold longMeaning? at known
  split at known
  case h_10 => cases known
  all_goals decide

theorem longMeaning?_switch (switch : Switch) :
    longMeaning? switch.name = some (.switch switch) := by
  cases switch <;> rfl

theorem longMeaning?_setting (setting : Setting) :
    longMeaning? setting.name = some (.setting setting) := by
  cases setting <;> rfl

theorem equalsSign_notMem_encode {text : List Char} (clear : '=' ∉ text) :
    equalsSign ∉ Utf8.encode text :=
  fun present => clear (Utf8.ofNat_mem_of_mem_encode present (by decide))

theorem readWord_longWord {meaning : Meaning} (known : longMeaning? name = some meaning) :
    readWord arguments (longWord name) = .ok (match meaning with
      | .switch switch => (arguments.turnOn switch, .anything)
      | .setting setting => (arguments, .valueOf setting (.long name))) := by
  obtain ⟨clear, filled⟩ := plain_of_longMeaning? known
  have bytes : Utf8.encode name.toList ≠ [] := by
    intro empty
    have decoded := Utf8.decodeLossy_encode name.toList
    rw [empty] at decoded
    exact filled (String.toList_eq_nil_iff.mp decoded.symm)
  rw [longWord, readWord_long arguments bytes, readLong,
    splitFirst?_eq_none (equalsSign_notMem_encode clear)]
  simp only [Utf8.decodeLossy_encode, String.ofList_toList, known]
  cases meaning <;> rfl

theorem readWord_equated {setting : Setting} (known : longMeaning? name = some (.setting setting))
    (value : Word) :
    readWord arguments (longWord name ++ equalsSign :: value) = do
      return (← arguments.assign setting value, .anything) := by
  have absent := equalsSign_notMem_encode (plain_of_longMeaning? known).1
  rw [longWord, List.cons_append, List.cons_append, readWord_long arguments (by simp), readLong,
    splitFirst?_singleton absent]
  simp only [Utf8.decodeLossy_encode, String.ofList_toList, known]

theorem exists_shortMeaning? (short : AreShort switches letters) :
    ∀ letter ∈ letters, ∃ meaning, shortMeaning? letter = some meaning := by
  intro letter present
  have listed : some letter ∈ switches.map Switch.letter? := by
    rw [short]
    exact List.mem_map_of_mem present
  obtain ⟨switch, -, spelled⟩ := List.mem_map.mp listed
  exact ⟨_, shortMeaning?_of_letter? spelled⟩

theorem readWord_shortWord (known : ∀ letter ∈ letters, ∃ meaning,
      shortMeaning? letter = some meaning) (filled : letters ≠ []) (rest : Word) :
    readWord arguments (shortWord letters ++ rest) =
      arguments.readShort none (Utf8.encode letters ++ rest) := by
  cases letters with
  | nil => exact absurd rfl filled
  | cons letter letters =>
      obtain ⟨meaning, known⟩ := known letter List.mem_cons_self
      obtain ⟨byte, alone, noHyphen, -⟩ := exists_utf8EncodeChar known
      apply readWord_short
      · simp [alone]
      · simpa [alone] using noHyphen

theorem readWord_switches (short : AreShort switches letters) (filled : switches ≠ []) :
    readWord arguments (shortWord letters) = .ok (switches.foldl turnOn arguments, .anything) := by
  have someLetter : letters ≠ [] := by
    rintro rfl
    exact filled (List.map_eq_nil_iff.mp short)
  obtain ⟨last, read⟩ := readShort_switches arguments none [] short
  have whole := readWord_shortWord arguments (exists_shortMeaning? short) someLetter []
  rw [read, List.append_nil] at whole
  exact whole

theorem readWord_setting (short : AreShort switches letters) (setting : Setting) (rest : Word) :
    readWord arguments (shortWord (letters ++ [setting.letter]) ++ rest) =
      match rest with
      | [] => .ok (switches.foldl turnOn arguments, .valueOf setting (.short setting.letter))
      | next :: value => do
          return (← (switches.foldl turnOn arguments).assign setting
            (if next == equalsSign then value else next :: value), .anything) := by
  have known : ∀ letter ∈ letters ++ [setting.letter], ∃ meaning,
      shortMeaning? letter = some meaning := by
    rw [List.forall_mem_append]
    exact ⟨exists_shortMeaning? short,
      List.forall_mem_singleton.mpr ⟨_, shortMeaning?_letter setting⟩⟩
  have bytes : Utf8.encode (letters ++ [setting.letter]) ++ rest =
      Utf8.encode letters ++ (String.utf8EncodeChar setting.letter ++ rest) := by
    simp
  obtain ⟨last, read⟩ := readShort_switches arguments none
    (String.utf8EncodeChar setting.letter ++ rest) short
  rw [readWord_shortWord arguments known (by simp), bytes, read, readShort_letter]

end Options

section Lines

variable {words rest : List Word} {requests : List Request}

theorem foldlM_grant_singleton (request : Request) (arguments : Arguments) :
    [request].foldlM grant arguments = arguments.grant request :=
  bind_pure (arguments.grant request)

theorem foldlM_grant_switches (switches : List Switch) (arguments : Arguments) :
    (switches.map Request.switch).foldlM grant arguments =
      .ok (switches.foldl turnOn arguments) := by
  induction switches generalizing arguments with
  | nil => rfl
  | cons switch switches inductionHypothesis =>
      rw [List.map_cons, List.foldlM_cons, List.foldl_cons]
      exact inductionHypothesis (arguments.turnOn switch)

theorem foldlM_grant_setting (switches : List Switch) (setting : Setting) (value : Word)
    (arguments : Arguments) :
    (switches.map Request.switch ++ [Request.setting setting value]).foldlM grant arguments =
      (switches.foldl turnOn arguments).assign setting value := by
  rw [List.foldlM_append, foldlM_grant_switches]
  exact foldlM_grant_singleton (.setting setting value) (switches.foldl turnOn arguments)

theorem readWords_of_readWord {word : Word} {granted : Except Fault Arguments}
    (read : arguments.readWord word = do return (← granted, .anything)) (rest : List Word) :
    arguments.readWords .anything (word :: rest) = granted >>= (·.readWords .anything rest) := by
  rw [readWords, read]
  cases granted <;> rfl

theorem readWords_of_valueOf {later : Arguments} {word : Word} {setting : Setting}
    {option : Spelling} (read : arguments.readWord word = .ok (later, .valueOf setting option))
    (value : Word) (rest : List Word) :
    arguments.readWords .anything (word :: value :: rest) =
      later.assign setting value >>= (·.readWords .anything rest) := by
  rw [readWords, read]
  rfl

/-- A part of a command line is read as the requests that it spells, whatever comes before and
after it. -/
theorem Spells.readWords_append (spells : Spells words requests) (arguments : Arguments)
    (rest : List Word) :
    arguments.readWords .anything (words ++ rest) =
      requests.foldlM grant arguments >>= (·.readWords .anything rest) := by
  cases spells with
  | switch switch =>
      rw [foldlM_grant_singleton]
      apply readWords_of_readWord
      exact readWord_longWord arguments (longMeaning?_switch switch)
  | switches short filled =>
      rw [foldlM_grant_switches]
      apply readWords_of_readWord
      exact readWord_switches arguments short filled
  | apart setting value =>
      rw [foldlM_grant_singleton]
      exact readWords_of_valueOf (readWord_longWord arguments (longMeaning?_setting setting))
        value rest
  | equated setting value =>
      rw [foldlM_grant_singleton]
      apply readWords_of_readWord
      exact readWord_equated arguments (longMeaning?_setting setting) value
  | shortApart short setting value =>
      have read := readWord_setting arguments short setting []
      rw [List.append_nil] at read
      rw [foldlM_grant_setting]
      exact readWords_of_valueOf read value rest
  | @attached switches letters short setting value filled unequated =>
      rw [foldlM_grant_setting]
      apply readWords_of_readWord
      rw [readWord_setting arguments short]
      cases value with
      | nil => exact absurd rfl filled
      | cons next value =>
          have different : (next == equalsSign) = false := by simpa using unequated
          simp only [different]
          rfl
  | shortEquated short setting value =>
      rw [foldlM_grant_setting]
      apply readWords_of_readWord
      exact readWord_setting arguments short setting (equalsSign :: value)
  | path plain =>
      rw [foldlM_grant_singleton]
      apply readWords_of_readWord
      exact readWord_path arguments plain

theorem readWords_paths (words : List Word) (arguments : Arguments) :
    arguments.readWords .path words = (words.map Request.path).foldlM grant arguments := by
  induction words generalizing arguments with
  | nil => rfl
  | cons word words inductionHypothesis =>
      rw [List.map_cons, List.foldlM_cons, readWords]
      exact bind_congr fun granted => inductionHypothesis granted

/-- Reading a command line comes to the same as granting its requests one after another. -/
theorem Asks.readWords_eq (asks : Asks words requests) (arguments : Arguments) :
    arguments.readWords .anything words = requests.foldlM grant arguments := by
  induction asks generalizing arguments with
  | nothing => rfl
  | paths words => exact readWords_paths words arguments
  | cons spells asks inductionHypothesis =>
      rw [spells.readWords_append, List.foldlM_append]
      exact bind_congr fun granted => inductionHypothesis granted

end Lines

end DeviceBrowser.Arguments
