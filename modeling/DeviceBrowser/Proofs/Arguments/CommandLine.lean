import DeviceBrowser.Proofs.Arguments.Spelling
import DeviceBrowser.Proofs.Text.Decimal

/-!
A command line is read as the arguments that it was written for.

Whatever the order of the requests, and however each of them is spelled, granting them fills in the
fields that they are for and no others.  A second path is refused wherever it stands.
-/

namespace DeviceBrowser.Arguments

open Text

def wordOf (text : String) : Word :=
  Utf8.encode text.toList

def has (arguments : Arguments) : Switch → Bool
  | .help => arguments.showsHelp
  | .version => arguments.showsVersion
  | .devices => arguments.listsDevices
  | .json => arguments.printsJson

def value? (arguments : Arguments) : Setting → Option String
  | .serial => arguments.serial
  | .adb => arguments.adb
  | .settingsFile => arguments.settingsFile
  | .timeout => arguments.timeout.map fun seconds => String.ofList (decimal seconds.toNat)
  | .logLevel => arguments.logLevel

namespace Request

def meaning? : Request → Option Meaning
  | .switch own => some (.switch own)
  | .setting own _ => some (.setting own)
  | .path _ => none

def valueOf? (asked : Setting) : Request → Option Word
  | .setting own value => if own = asked then some value else none
  | .switch _ | .path _ => none

def path? : Request → Option Word
  | .path word => some word
  | .switch _ | .setting _ _ => none

end Request

/-- Whether requests are those for some arguments, in whatever order. -/
structure Conveys (requests : List Request) (arguments : Arguments) : Prop where
  switches : ∀ switch, .switch switch ∈ requests ↔ arguments.has switch = true
  settings : ∀ setting, requests.filterMap (·.valueOf? setting) =
    ((arguments.value? setting).map wordOf).toList
  path : requests.filterMap Request.path? = (arguments.path.map wordOf).toList
  positive : arguments.timeout ≠ some 0

/-- Whether a request agrees with some arguments, which may hold more than it asks for. -/
def Request.Fits (arguments : Arguments) : Request → Prop
  | .switch _ => True
  | .setting own value => ∃ text ∈ arguments.value? own, value = wordOf text
  | .path word => ∃ text ∈ arguments.path, word = wordOf text

def concerns (requests : List Request) (meaning? : Option Meaning) : Bool :=
  requests.any (·.meaning? == meaning?)

/-- The part of some arguments that requests are about. -/
def only (arguments : Arguments) (requests : List Request) : Arguments :=
  let kept {Value : Type} (setting : Setting) (value : Option Value) : Option Value :=
    if concerns requests (some (.setting setting)) then value else none
  { serial := kept .serial arguments.serial
    adb := kept .adb arguments.adb
    settingsFile := kept .settingsFile arguments.settingsFile
    timeout := kept .timeout arguments.timeout
    logLevel := kept .logLevel arguments.logLevel
    listsDevices := concerns requests (some (.switch .devices))
    printsJson := concerns requests (some (.switch .json))
    path := if concerns requests none then arguments.path else none
    showsVersion := concerns requests (some (.switch .version))
    showsHelp := concerns requests (some (.switch .help)) }

def copied (arguments other : Arguments) : Setting → Arguments
  | .serial => { arguments with serial := other.serial }
  | .adb => { arguments with adb := other.adb }
  | .settingsFile => { arguments with settingsFile := other.settingsFile }
  | .timeout => { arguments with timeout := other.timeout }
  | .logLevel => { arguments with logLevel := other.logLevel }

section Granting

variable {arguments : Arguments} {requests : List Request} {request : Request}

theorem readText_wordOf (text : String) : readText (wordOf text) = .ok text := by
  rw [readText, wordOf, Utf8.decode?_encode]
  exact congrArg Except.ok String.ofList_toList

theorem readTimeout_decimal {seconds : UInt64} (positive : seconds ≠ 0) :
    readTimeout (String.ofList (decimal seconds.toNat)) = .ok seconds := by
  have value := digitsValue_decimal seconds.toNat
  have small : digitsValue (decimal seconds.toNat) < UInt64.size := by
    rw [value]
    exact seconds.toNat_lt
  have read := readUnsigned?_of_isDigits (isDigits_decimal seconds.toNat) small
  have nonzero : (seconds.toNat == 0) = false := by
    rw [beq_eq_false_iff_ne]
    intro zero
    exact positive (UInt64.toNat_inj.mp zero)
  rw [readTimeout, String.toList_ofList, read, value]
  simp only [nonzero, UInt64.ofNat_toNat]
  rfl

theorem assign_wordOf {setting : Setting} {text : String} (held : text ∈ arguments.value? setting)
    (positive : arguments.timeout ≠ some 0) (current : Arguments) :
    current.assign setting (wordOf text) = .ok (current.copied arguments setting) := by
  rw [assign, readText_wordOf]
  cases setting with
  | timeout =>
      obtain ⟨seconds, given, rfl⟩ := Option.map_eq_some_iff.mp held
      have nonzero : seconds ≠ 0 := by
        rintro rfl
        exact positive given
      change readTimeout (String.ofList (decimal seconds.toNat)) >>= _ = _
      rw [readTimeout_decimal nonzero, copied, given]
      rfl
  | serial | adb | settingsFile | logLevel =>
      simp only [value?, Option.mem_def] at held
      rw [copied, held]
      rfl

theorem concerns_concat (requests : List Request) (request : Request)
    (meaning? : Option Meaning) :
    concerns (requests ++ [request]) meaning? =
      (concerns requests meaning? || request.meaning? == meaning?) := by
  rw [concerns, List.any_append, List.any_cons, List.any_nil, Bool.or_false]
  rfl

theorem only_switch (arguments : Arguments) (requests : List Request) (switch : Switch) :
    arguments.only (requests ++ [.switch switch]) = (arguments.only requests).turnOn switch := by
  cases switch <;> simp [only, concerns_concat, Request.meaning?, turnOn]

theorem only_setting (arguments : Arguments) (requests : List Request) (setting : Setting)
    (value : Word) :
    arguments.only (requests ++ [.setting setting value]) =
      (arguments.only requests).copied arguments setting := by
  cases setting <;> simp [only, concerns_concat, Request.meaning?, copied]

theorem only_path (arguments : Arguments) (requests : List Request) (word : Word) :
    arguments.only (requests ++ [.path word]) =
      { arguments.only requests with path := arguments.path } := by
  simp [only, concerns_concat, Request.meaning?]

theorem setPath_only (free : concerns requests none = false) (text : String) :
    (arguments.only requests).setPath (wordOf text) =
      .ok { arguments.only requests with path := some text } := by
  have unset : (arguments.only requests).path = none := by simp [only, free]
  rw [setPath, unset, readText_wordOf]
  rfl

/-- One request more is granted after others, unless it is a second path. -/
theorem grant_only (fits : request.Fits arguments) (positive : arguments.timeout ≠ some 0)
    (free : request.meaning? = none → concerns requests none = false) :
    (arguments.only requests).grant request = .ok (arguments.only (requests ++ [request])) := by
  cases request with
  | switch switch => rw [grant, only_switch]
  | setting setting value =>
      obtain ⟨text, held, rfl⟩ := fits
      rw [grant, only_setting, assign_wordOf held positive]
  | path word =>
      obtain ⟨text, held, rfl⟩ := fits
      rw [grant, only_path, setPath_only (free rfl), Option.mem_def.mp held]

theorem concerns_eq_true_iff {meaning? : Option Meaning} :
    concerns requests meaning? = true ↔ ∃ request ∈ requests, request.meaning? = meaning? := by
  simp [concerns]

theorem concerns_switch_iff {switch : Switch} :
    concerns requests (some (.switch switch)) = true ↔ .switch switch ∈ requests := by
  rw [concerns_eq_true_iff]
  constructor
  · rintro ⟨request, present, same⟩
    cases request with
    | switch own =>
        cases same
        exact present
    | setting own value => cases same
    | path word => cases same
  · exact fun present => ⟨_, present, rfl⟩

theorem concerns_iff_filterMap {meaning? : Option Meaning} {part? : Request → Option Word}
    (same : ∀ request : Request, request.meaning? = meaning? ↔ part? request ≠ none) :
    concerns requests meaning? = true ↔ requests.filterMap part? ≠ [] := by
  rw [concerns_eq_true_iff, ne_eq, List.filterMap_eq_nil_iff, not_forall]
  simp only [same, exists_prop, not_forall, ne_eq]

theorem concerns_setting_iff {setting : Setting} :
    concerns requests (some (.setting setting)) = true ↔
      requests.filterMap (·.valueOf? setting) ≠ [] := by
  apply concerns_iff_filterMap
  intro request
  cases request <;> simp [Request.meaning?, Request.valueOf?]

theorem concerns_path_iff :
    concerns requests none = true ↔ requests.filterMap Request.path? ≠ [] := by
  apply concerns_iff_filterMap
  intro request
  cases request <;> simp [Request.meaning?, Request.path?]

/-- Requests that agree with some arguments, at most one of them for a path, are all granted. -/
theorem foldlM_grant (fits : ∀ request ∈ requests, request.Fits arguments)
    (positive : arguments.timeout ≠ some 0)
    (once : (requests.filterMap Request.path?).length ≤ 1) :
    requests.foldlM grant {} = .ok (arguments.only requests) := by
  -- Requests are taken off the end, where all that was granted before is known.
  induction requests using List.reverseRecOn with
  | nil => rfl
  | append_singleton requests request inductionHypothesis =>
      rw [List.forall_mem_append, List.forall_mem_singleton] at fits
      rw [List.filterMap_append, List.length_append] at once
      have free : request.meaning? = none → concerns requests none = false := by
        intro path
        rw [Bool.eq_false_iff, ne_eq, concerns_path_iff, not_not]
        cases request with
        | path word =>
            apply List.eq_nil_of_length_eq_zero
            exact Nat.le_zero.mp (Nat.le_of_succ_le_succ once)
        | switch switch => cases path
        | setting setting value => cases path
      rw [List.foldlM_append, inductionHypothesis fits.1 (by omega)]
      exact (foldlM_grant_singleton _ _).trans (grant_only fits.2 positive free)

theorem exists_of_mem_toList {held : Option String} {word : Word}
    (listed : word ∈ (held.map wordOf).toList) : ∃ text ∈ held, word = wordOf text := by
  rw [Option.mem_toList, Option.map_eq_some_iff] at listed
  obtain ⟨text, given, same⟩ := listed
  exact ⟨text, given, same.symm⟩

theorem Conveys.fits (conveys : Conveys requests arguments) :
    ∀ request ∈ requests, request.Fits arguments := by
  intro request present
  cases request with
  | switch switch => exact trivial
  | setting setting value =>
      apply exists_of_mem_toList
      rw [← conveys.settings]
      exact List.mem_filterMap.mpr ⟨_, present, if_pos rfl⟩
  | path word =>
      apply exists_of_mem_toList
      rw [← conveys.path]
      exact List.mem_filterMap.mpr ⟨_, present, rfl⟩

theorem Conveys.only_eq (conveys : Conveys requests arguments) :
    arguments.only requests = arguments := by
  have switches : ∀ switch,
      concerns requests (some (.switch switch)) = arguments.has switch := by
    intro switch
    rw [Bool.eq_iff_iff, concerns_switch_iff, conveys.switches]
  have absent : ∀ setting, concerns requests (some (.setting setting)) = false →
      arguments.value? setting = none := by
    intro setting silent
    rw [Bool.eq_false_iff, ne_eq, concerns_setting_iff, not_not, conveys.settings] at silent
    simpa using silent
  have timeless : concerns requests (some (.setting .timeout)) = false →
      arguments.timeout = none := fun silent => Option.map_eq_none_iff.mp (absent .timeout silent)
  have pathless : concerns requests none = false → arguments.path = none := by
    intro silent
    rw [Bool.eq_false_iff, ne_eq, concerns_path_iff, not_not, conveys.path] at silent
    simpa using silent
  have kept : ∀ {Value : Type} {asked : Bool} {value : Option Value},
      (asked = false → value = none) → (if asked then value else none) = value := by
    intro Value asked value silent
    cases asked with
    | true => rfl
    | false => exact (silent rfl).symm
  cases arguments
  simp only [only, mk.injEq]
  exact ⟨kept (absent .serial), kept (absent .adb), kept (absent .settingsFile), kept timeless,
    kept (absent .logLevel), switches .devices, switches .json, kept pathless, switches .version,
    switches .help⟩

theorem eq_path_of_path? {word : Word} (isPath : request.path? = some word) :
    request = .path word := by
  cases request with
  | path own => rw [Option.some.inj isPath]
  | switch switch => cases isPath
  | setting setting value => cases isPath

theorem Request.Fits.withPath (fits : request.Fits arguments) (pathless : request.path? = none)
    (path : Option String) : request.Fits { arguments with path } := by
  cases request with
  | switch own => exact trivial
  | setting own value => cases own <;> exact fits
  | path word => cases pathless

theorem foldlM_grant_path (taken : arguments.path.isSome = true) (word : Word)
    (others : List Request) :
    (.path word :: others).foldlM grant arguments = .error (.secondPath word) := by
  rw [List.foldlM_cons, grant, setPath, if_pos taken]
  rfl

/-- The second of two paths is refused, whatever is asked for around them. -/
theorem foldlM_grant_secondPath {text : String} {second : Word}
    (fits : ∀ request ∈ requests, request.path? = none → request.Fits arguments)
    (positive : arguments.timeout ≠ some 0)
    (paths : requests.filterMap Request.path? = [wordOf text, second]) :
    requests.foldlM grant {} = .error (.secondPath second) := by
  obtain ⟨before, first, rest, rfl, silent, isFirst, others⟩ :=
    List.filterMap_eq_cons_iff.mp paths
  obtain ⟨between, last, after, rfl, quiet, isLast, -⟩ := List.filterMap_eq_cons_iff.mp others
  obtain rfl := eq_path_of_path? isFirst
  obtain rfl := eq_path_of_path? isLast
  have whole : before ++ .path (wordOf text) :: (between ++ .path second :: after) =
      (before ++ .path (wordOf text) :: between) ++ .path second :: after := by simp
  rw [whole] at fits ⊢
  -- Up to the second path all is as if the first one was to be the path.
  have early : ∀ request ∈ before ++ .path (wordOf text) :: between,
      request.Fits { arguments with path := some text } := by
    intro request present
    cases path : request.path? with
    | none => exact (fits request (List.mem_append_left _ present) path).withPath path _
    | some word =>
        rcases List.mem_append.mp present with ahead | behind
        · exact absurd path (by simp [silent request ahead])
        · rcases List.mem_cons.mp behind with rfl | later
          · exact ⟨text, rfl, rfl⟩
          · exact absurd path (by simp [quiet request later])
  have paths : (before ++ .path (wordOf text) :: between).filterMap Request.path? =
      [wordOf text] := by
    rw [List.filterMap_append, List.filterMap_eq_nil_iff.mpr silent, List.nil_append,
      List.filterMap_cons, List.filterMap_eq_nil_iff.mpr quiet]
    rfl
  have granted := foldlM_grant early positive (by rw [paths]; rfl)
  have taken : concerns (before ++ .path (wordOf text) :: between) none = true := by
    rw [concerns_path_iff, paths]
    exact List.cons_ne_nil _ _
  rw [List.foldlM_append, granted]
  exact foldlM_grant_path (by simp [only, taken]) second after

end Granting

/-- A command line for some arguments is read as just these arguments.  With one more path than
there is already, wherever it stands, the second one is refused; a word that is no text must not
come first for that. -/
theorem parse_of_asks {words : List Word} {requests : List Request} {arguments : Arguments}
    (asks : Asks words requests) (conveys : Conveys requests arguments) :
    parse words = .ok arguments ∧
      ∀ (longer : List Word) (before after : List Request) (extra : Word),
        Asks longer (before ++ .path extra :: after) → before ++ after = requests →
          arguments.path.isSome = true →
            ((∃ text, extra = wordOf text) ∨ ∃ request ∈ before, request.path?.isSome = true) →
              ∃ first second,
                (before ++ .path extra :: after).filterMap Request.path? = [first, second] ∧
                  parse longer = .error (.secondPath second) := by
  constructor
  · have once : (requests.filterMap Request.path?).length ≤ 1 := by
      rw [conveys.path]
      exact Option.length_toList_le
    rw [parse, asks.readWords_eq, foldlM_grant conveys.fits conveys.positive once,
      conveys.only_eq]
  · intro longer before after extra spelled apart held readable
    subst apart
    obtain ⟨path, held⟩ := Option.isSome_iff_exists.mp held
    have fits : ∀ request ∈ before ++ .path extra :: after, request.path? = none →
        request.Fits arguments := by
      intro request present pathless
      apply conveys.fits
      rcases List.mem_append.mp present with ahead | behind
      · exact List.mem_append_left _ ahead
      · rcases List.mem_cons.mp behind with rfl | later
        · cases pathless
        · exact List.mem_append_right _ later
    have refused : ∀ (text : String) (second : Word),
        (before ++ .path extra :: after).filterMap Request.path? = [wordOf text, second] →
          parse longer = .error (.secondPath second) := by
      intro text second paths
      rw [parse, spelled.readWords_eq]
      exact foldlM_grant_secondPath fits conveys.positive paths
    have paths := conveys.path
    rw [held, List.filterMap_append, Option.map_some, Option.toList_some,
      List.append_eq_singleton_iff] at paths
    rcases paths with ⟨none, one⟩ | ⟨one, none⟩
    · -- The additional path comes first, so it is a text.
      rcases readable with ⟨text, rfl⟩ | ⟨request, ahead, isPath⟩
      · have both : (before ++ .path (wordOf text) :: after).filterMap Request.path? =
            [wordOf text, wordOf path] := by
          rw [List.filterMap_append, List.filterMap_cons, none, one]
          rfl
        exact ⟨_, _, both, refused _ _ both⟩
      · rw [List.filterMap_eq_nil_iff] at none
        rw [none request ahead] at isPath
        cases isPath
    · have both : (before ++ .path extra :: after).filterMap Request.path? =
          [wordOf path, extra] := by
        rw [List.filterMap_append, List.filterMap_cons, none, one]
        rfl
      exact ⟨_, _, both, refused _ _ both⟩

/-- Two values that look like the end of the options, and a path that looks like an option. -/
theorem parse_of_asks_misleading :
    let words := ["--json", "-dt", "7", "--serial", "--", "-l--", "--", "-x"].map wordOf
    let requests : List Request := [.switch .json, .switch .devices,
      .setting .timeout (wordOf "7"), .setting .serial (wordOf "--"),
      .setting .logLevel (wordOf "--"), .path (wordOf "-x")]
    let arguments : Arguments :=
      { serial := some "--", timeout := some 7, logLevel := some "--", listsDevices := true
        printsJson := true, path := some "-x" }
    Asks words requests ∧ Conveys requests arguments ∧ parse words = .ok arguments ∧
      parse (wordOf "/sdcard" :: words) = .error (.secondPath (wordOf "-x")) := by
  intro words requests arguments
  have asks : Asks words requests := by
    refine .cons (.switch .json) ?_
    refine .cons (@Spells.shortApart [.devices] ['d'] (by decide) .timeout (wordOf "7")) ?_
    refine .cons (.apart .serial (wordOf "--")) ?_
    refine .cons (@Spells.attached [] [] (by decide) .logLevel (wordOf "--") (by decide)
      (by decide)) ?_
    exact .paths [wordOf "-x"]
  have conveys : Conveys requests arguments := by
    refine ⟨?_, ?_, rfl, by decide⟩
    · intro switch
      cases switch <;> decide
    · intro setting
      cases setting <;> decide
  have read := parse_of_asks asks conveys
  have more : Asks (wordOf "/sdcard" :: words) ([] ++ .path (wordOf "/sdcard") :: requests) :=
    .cons (.path (.inr (by decide))) asks
  obtain ⟨first, second, paths, refused⟩ :=
    read.2 _ [] requests (wordOf "/sdcard") more rfl rfl (.inl ⟨_, rfl⟩)
  obtain rfl : wordOf "-x" = second := (List.cons.inj (List.cons.inj paths).2).1
  exact ⟨asks, conveys, read.1, refused⟩

end DeviceBrowser.Arguments
