import DeviceBrowser.Explorer.Operations
import DeviceBrowser.Host.Scripted
import DeviceBrowser.Proofs.Host.Act
import DeviceBrowser.Proofs.Terminal.DirectDecoding
import DeviceBrowser.Proofs.Text.Blank
import DeviceBrowser.Proofs.Text.Search

/-!
Pulling what is not there.

adb fails with a line that names the path, and the failure is sorted by that line's own words.
But the path is searched for the words of success as well: a path with one of them in its name
makes the pull seem to have worked.
-/

namespace DeviceBrowser

open Terminal Text

def missingStart : List Char := "adb: error: failed to stat remote object ".toList

def missingReason : List Char := ": No such file or directory".toList

/-- What adb prints when there is nothing at a path of the device. -/
def missingLine (path : List Char) : List Char :=
  missingStart ++ '\'' :: (path ++ '\'' :: missingReason)

/-- Whether a text has words in it with which adb tells that a transfer has worked. -/
def reportsSuccess (text : List Char) : Bool :=
  Explorer.transferPhrases.any fun phrase => occursIn phrase.toList text

theorem Failure.Category.ofText_of_remoteObject {text : String}
    (named : "remote object".toList <:+: text.toList.map Char.toLower) :
    ofText text = .notFound := by
  have first : occursIn "remote object".toList (text.toList.map Char.toLower) = true :=
    occursIn_eq_true_iff.mpr named
  simp only [ofText, phrases, List.find?_cons, first]

theorem checkTransfer_of_failed {result : Adb.Result} (failed : result.isSuccess = false) :
    Explorer.checkTransfer result =
      if reportsSuccess result.text.toList then .ok ()
      else .error (.command (Failure.Category.ofText result.text) result.text) := by
  unfold Explorer.checkTransfer reportsSuccess
  simp only [failed, Bool.false_or]

theorem reportsSuccess_eq_true_iff {text : List Char} :
    reportsSuccess text = true ↔
      ∃ phrase ∈ Explorer.transferPhrases, phrase.toList <:+: text := by
  simp only [reportsSuccess, List.any_eq_true, occursIn_eq_true_iff]

theorem not_isInfix_of_reportsSuccess {text : List Char} (silent : reportsSuccess text = false)
    {phrase : String} (known : phrase ∈ Explorer.transferPhrases) : ¬ phrase.toList <:+: text := by
  intro occurs
  rw [reportsSuccess_eq_true_iff.mpr ⟨phrase, known, occurs⟩] at silent
  cases silent

/-- Of the line for a missing path, only the path can have the words of success in it. -/
theorem reportsSuccess_missingLine (path : List Char) :
    reportsSuccess (missingLine path) = reportsSuccess path := by
  have unquoted : ∀ phrase ∈ Explorer.transferPhrases, '\'' ∉ phrase.toList := by decide +kernel
  have before : reportsSuccess missingStart = false := by decide +kernel
  have behind : reportsSuccess missingReason = false := by decide +kernel
  rw [Bool.eq_iff_iff, reportsSuccess_eq_true_iff, reportsSuccess_eq_true_iff]
  refine exists_congr fun phrase => and_congr_right fun known => ?_
  -- No phrase reaches across the quotes around the path.
  rw [missingLine, isInfix_append_cons_iff (unquoted phrase known),
    isInfix_append_cons_iff (unquoted phrase known)]
  simp only [not_isInfix_of_reportsSuccess before known, not_isInfix_of_reportsSuccess behind known,
    false_or, or_false]

theorem ofText_of_missingStart {text : String} (begins : missingStart <+: text.toList) :
    Failure.Category.ofText text = .notFound := by
  have named : "remote object".toList <:+: missingStart.map Char.toLower :=
    occursIn_eq_true_iff.mp (by decide +kernel)
  exact Failure.Category.ofText_of_remoteObject
    (named.trans (begins.map Char.toLower).isInfix)

variable {path ending : List Char}

theorem prefix_plainChars_missingLine (path ending : List Char) :
    missingStart <+:
      trimLineEnds (plainChars (Utf8.encode (missingLine path ++ ending))) := by
  have plain : missingStart.all isPlain = true := by decide +kernel
  have last : missingStart.getLast? = some ' ' := by decide +kernel
  have inked : ∀ c ∈ missingStart.getLast?, isLineEnd c = false := by simp [last, isLineEnd]
  rw [missingLine, List.append_assoc, Utf8.encode_append]
  exact prefix_trimEndWhere inked (prefix_plainChars (List.all_eq_true.mp plain) _)

theorem isPlain_of_isLineEnd {c : Char} (lineEnd : isLineEnd c = true) : isPlain c = true := by
  simp only [isLineEnd, Bool.or_eq_true, beq_iff_eq] at lineEnd
  rcases lineEnd with rfl | rfl <;> rfl

theorem any_needsParser_lineEnds (lineEnds : ∀ c ∈ ending, isLineEnd c = true) :
    (Utf8.encode ending).any needsParser = false := by
  have plain : ∀ c ∈ ending, isPlain c = true :=
    fun c present => isPlain_of_isLineEnd (lineEnds c present)
  rw [Bool.eq_false_iff, ne_eq, any_needsParser_encode plain]
  intro deleted
  exact absurd (lineEnds _ deleted) (by decide)

theorem trimLineEnds_plainChars_missingLine (direct : (Utf8.encode path).any needsParser = false)
    (lineEnds : ∀ c ∈ ending, isLineEnd c = true) :
    trimLineEnds (plainChars (Utf8.encode (missingLine path ++ ending))) = missingLine path := by
  have around : (Utf8.encode missingStart).any needsParser = false ∧
      (Utf8.encode ['\'']).any needsParser = false ∧
      (Utf8.encode missingReason).any needsParser = false := by decide +kernel
  obtain ⟨before, quote, behind⟩ := around
  have undirected : ¬ (Utf8.encode (missingLine path ++ ending)).any needsParser = true := by
    rw [missingLine, ← List.singleton_append, ← List.singleton_append (l := missingReason)]
    simp only [Utf8.encode_append, List.any_append, before, quote, direct, behind,
      any_needsParser_lineEnds lineEnds, Bool.or_false, Bool.false_eq_true, not_false_eq_true]
  have inked : ∀ c ∈ (missingLine path).getLast?, isLineEnd c = false := by
    have last : missingReason.getLast? = some 'y' := by decide +kernel
    simp [missingLine, List.getLast?_cons, last, isLineEnd]
  rw [plainChars, if_neg undirected, Utf8.decodeLossy_encode, trimLineEnds_append lineEnds,
    trimLineEnds_eq_self inked]

namespace Explorer

variable {World : Type} {host : Host World} {explorer ready : Explorer}
  {world connected found later : World}

/-- A pull that finds nothing at a path is taken for one that worked just if the text of the
line that adb prints has words of success in it.  A path without control characters is in that
text as it is, and then the words are in it just if they are in the path. -/
theorem transfer_of_missing {source target adb : String} {finder : Adb.Finder}
    {output errors : List UInt8} {exitCode : Option Nat} {ending : List Char}
    (ensured : (explorer.ensureConnected host).runFrom world = (.ok (.ok (), ready), connected))
    (located : (ready.finder.find host).runFrom connected = (.ok (.ok adb, finder), found))
    (ran : host.run ⟨adb, Adb.serialArguments ready.serial ++ ["pull", source, target]⟩
      ready.callTimeout found = (.ended output errors exitCode, later))
    (failed : exitCode ≠ some 0)
    (printed : output ++ errors = Utf8.encode (missingLine source.toList ++ ending))
    (lineEnds : ∀ c ∈ ending, isLineEnd c = true) :
    let text := withoutLineEnds (plainText (output ++ errors))
    (explorer.transfer host .pull source target).runFrom world =
        (.ok (if reportsSuccess text.toList then .ok ()
          else .error (.command .notFound text), { ready with finder }), later) ∧
      ((Utf8.encode source.toList).any needsParser = false →
        text.toList = missingLine source.toList ∧
          reportsSuccess text.toList = reportsSuccess source.toList) := by
  intro text
  have chars : text.toList =
      trimLineEnds (plainChars (Utf8.encode (missingLine source.toList ++ ending))) := by
    simp only [text, withoutLineEnds, plainText, printed, String.toList_ofList]
  have missing : Failure.Category.ofText text = .notFound := by
    apply ofText_of_missingStart
    rw [chars]
    exact prefix_plainChars_missingLine _ _
  have unsuccessful : Adb.Result.isSuccess ⟨text, exitCode⟩ = false := by
    simpa [Adb.Result.isSuccess] using failed
  constructor
  · have checked := checkTransfer_of_failed unsuccessful
    simp only [missing] at checked
    unfold transfer call Adb.Call.run Adb.Call.commandLine
    simp [ensured, located, Direction.verb, ran, text, checked]
  · intro direct
    rw [chars, trimLineEnds_plainChars_missingLine direct lineEnds]
    exact ⟨rfl, reportsSuccess_missingLine _⟩

def connectedSample : Explorer :=
  { new (.fixed "adb") {} with
    link := .connected
    session := some
      ⟨.shell "adb", .running { child := ⟨0⟩ }, ⟨0, 0, 1⟩, Session.defaultTimeout, none⟩ }

def missingScene (path : String) : Scripted.Scene where
  clock := ⟨0, 0, 0⟩
  scripts :=
    [.once [.printBytes .errors (Utf8.encode (missingLine path.toList ++ ['\r', '\n'])), .exit 1]]

theorem transfer_of_missing_unknown_file :
    let source := "/sdcard/nope"
    let scene := missingScene source
    let errors := Utf8.encode (missingLine source.toList ++ ['\r', '\n'])
    let later := (Scripted.host.run ⟨"adb", ["pull", source, "nope"]⟩
      connectedSample.callTimeout scene).2
    let text := withoutLineEnds (plainText ([] ++ errors))
    (connectedSample.ensureConnected Scripted.host).runFrom scene =
        (.ok (.ok (), connectedSample), scene) ∧
      Scripted.host.run ⟨"adb", ["pull", source, "nope"]⟩ connectedSample.callTimeout scene =
        (.ended [] errors (some 1), later) ∧
      (connectedSample.transfer Scripted.host .pull source "nope").runFrom scene =
        (.ok (if reportsSuccess text.toList then .ok ()
          else .error (.command .notFound text), connectedSample), later) ∧
      reportsSuccess text.toList = false := by
  have completion : (Scripted.host.run ⟨"adb", ["pull", "/sdcard/nope", "nope"]⟩
      connectedSample.callTimeout (missingScene "/sdcard/nope")).1 =
      .ended [] (Utf8.encode (missingLine "/sdcard/nope".toList ++ ['\r', '\n'])) (some 1) := by
    decide +kernel
  have silent : reportsSuccess "/sdcard/nope".toList = false := by decide +kernel
  have plain : (Utf8.encode "/sdcard/nope".toList).any needsParser = false := by decide +kernel
  intro source scene errors later text
  have ended : Scripted.host.run ⟨"adb", ["pull", source, "nope"]⟩ connectedSample.callTimeout
      scene = (.ended [] errors (some 1), later) := Prod.ext completion rfl
  have ensured : (connectedSample.ensureConnected Scripted.host).runFrom scene =
      (.ok (.ok (), connectedSample), scene) := rfl
  have located : (connectedSample.finder.find Scripted.host).runFrom scene =
      (.ok (.ok "adb", .fixed "adb"), scene) := rfl
  have printed : [] ++ errors = Utf8.encode (missingLine source.toList ++ ['\r', '\n']) := rfl
  have failed : some 1 ≠ some 0 := by decide
  have lineEnds : ∀ c ∈ ['\r', '\n'], isLineEnd c = true := List.all_eq_true.mp rfl
  obtain ⟨pulled, direct⟩ := transfer_of_missing ensured located ended failed printed lineEnds
  exact ⟨ensured, ended, pulled, (direct plain).2.trans silent⟩

/-- A missing file with a word of success in its name seems to have been pulled. -/
theorem transfer_skipped_succeeds :
    let source := "/sdcard/skipped"
    let scene := missingScene source
    connectedSample.isReady = true ∧
      (Scripted.host.run ⟨"adb", ["pull", source, "skipped"]⟩
        connectedSample.callTimeout scene).1 =
        .ended [] (Utf8.encode (missingLine source.toList ++ ['\r', '\n'])) (some 1) ∧
      ((connectedSample.transfer Scripted.host .pull source "skipped").runFrom scene).1 =
        .ok (.ok (), connectedSample) := by
  decide +kernel

end Explorer

end DeviceBrowser
