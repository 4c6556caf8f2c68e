import LiveTail.Config.Validate
import LiveTail.Proofs.Rounding
/-! What a validation gives. Each check looks at one value and leaves the rest of the configuration
alone, so the outcome is told value by value; only the two delays are held against each other, after
either of them may have been left at its default. -/
namespace LiveTail

namespace Config

/-! ### What passes -/

theorem isDelay_iff {ms : ℕ} : isDelay ms = true ↔ 100 ≤ ms ∧ ms ≤ 600000 := by
  rw [isDelay, leastDelayMs, greatestDelayMs, Bool.and_eq_true, decide_eq_true_iff,
    decide_eq_true_iff]

theorem isRowCap_iff {n : ℕ} : isRowCap n = true ↔ n ≤ 1000000 := by
  rw [isRowCap, greatestMaxRows, decide_eq_true_iff]

theorem isPageUrl_iff {url : String} :
    isPageUrl url = true ↔ ∃ ch ∈ url.toList, Text.isBlank ch = false := by
  simp only [isPageUrl, Text.isAllBlank, Bool.not_eq_true', List.all_eq_false, Bool.not_eq_true]

theorem isLevel_iff {level : String} : isLevel level = true ↔
    ∃ name ∈ ["error", "warn", "info", "debug", "trace"], Text.isNamed level name = true := by
  simp only [isLevel, levelNames, List.any_eq_true]

theorem fontSizeOf_value {points : ℤ} (h : |points| ≤ 2 ^ 24) :
    (fontSizeOf points).value? = some (points : ℚ) :=
  Binary.ofInt_value BinaryFormat.proper_single h

/-- Neither NaN nor an infinity lies between two numbers. -/
theorem exists_value_of_le {x lo hi : Binary} {a b : ℚ} (hlo : lo.value? = some a)
    (hhi : hi.value? = some b) (hx : lo.le x = true) (hx' : x.le hi = true) :
    ∃ q, x.value? = some q := by
  obtain ⟨s, m, e, rfl, -⟩ := Binary.exists_finite hlo
  obtain ⟨s', n, d, rfl, -⟩ := Binary.exists_finite hhi
  cases x with
  | nan => cases hx
  | infinite t =>
    cases t with
    | false => cases hx'
    | true => cases hx
  | finite t k f => exact ⟨_, rfl⟩

theorem isFontSize_iff {size : Binary} :
    isFontSize size = true ↔ ∃ q, size.value? = some q ∧ 10 ≤ q ∧ q ≤ 24 := by
  have hleast : leastFontSize.value? = some 10 := fontSizeOf_value (by norm_num)
  have hgreatest : greatestFontSize.value? = some 24 := fontSizeOf_value (by norm_num)
  rw [isFontSize, Bool.and_eq_true]
  constructor
  · rintro ⟨hlow, hhigh⟩
    obtain ⟨q, hq⟩ := exists_value_of_le hleast hgreatest hlow hhigh
    exact ⟨q, hq, (Binary.le_iff hleast hq).1 hlow, (Binary.le_iff hq hgreatest).1 hhigh⟩
  · rintro ⟨q, hq, hlow, hhigh⟩
    exact ⟨(Binary.le_iff hleast hq).2 hlow, (Binary.le_iff hq hgreatest).2 hhigh⟩

theorem isFontSize_default : isFontSize (fontSizeOf 14) = true := by
  have hvalue : (fontSizeOf 14).value? = some 14 := fontSizeOf_value (by norm_num)
  exact isFontSize_iff.2 ⟨14, hvalue, by norm_num, by norm_num⟩

/-! ### One check -/

/-- The warning about a value that does not pass. -/
def refusal {α : Type} (passes : α → Bool) (shown : α → String) (field expected : String) :
    Option α → List ConfigWarning
  | none => []
  | some v => if passes v then [] else [.outOfRange field (shown v) expected]

theorem filter_of_passes {α : Type} {passes : α → Bool} {value : Option α}
    (h : ∀ v, value = some v → passes v = true) : value.filter passes = value := by
  cases value with
  | none => rfl
  | some v => rw [Option.filter_some, if_pos (h v rfl)]

theorem refusal_of_passes {α : Type} {passes : α → Bool} {value : Option α}
    (shown : α → String) (field expected : String) (h : ∀ v, value = some v → passes v = true) :
    refusal passes shown field expected value = [] := by
  cases value with
  | none => rfl
  | some v => rw [refusal, if_pos (h v rfl)]

theorem checkValue_eq {α : Type} (passes : α → Bool) (put : Config → α → Config)
    (shown : α → String) (field expected : String) (value : Option α) (c : Checked) :
    checkValue passes put shown field expected value c =
      ((value.filter passes).elim c.1 (put c.1),
        c.2 ++ refusal passes shown field expected value) := by
  cases value with
  | none => rw [checkValue, refusal, Option.filter_none, Option.elim_none, List.append_nil]
  | some v =>
    rw [checkValue, refusal, Option.filter_some]
    split
    · rw [Option.elim_some, List.append_nil]
    · rfl

end Config

/-- What can be set in a configuration. -/
inductive ConfigField where
  | pageUrl | reconnect | initialMs | longestMs | maxRows | theme | fontSize | level | file
  deriving DecidableEq, Repr

/-- The order in which they are looked at. -/
def ConfigField.all : List ConfigField :=
  [.pageUrl, .reconnect, .initialMs, .longestMs, .maxRows, .theme, .fontSize, .level, .file]

namespace RawConfig

open Config

variable (raw : RawConfig)

/-- The warnings of the check of one value. -/
def complaint : ConfigField → List ConfigWarning
  | .pageUrl => refusal isPageUrl (fun _ => "") "connection.page_url" "a non-empty http(s) URL"
      raw.connection.pageUrl
  | .initialMs => refusal isDelay showNat "connection.reconnect_initial_ms" delayRange
      raw.connection.initialMs
  | .longestMs => refusal isDelay showNat "connection.reconnect_max_ms" delayRange
      raw.connection.longestMs
  | .maxRows => refusal isRowCap showNat "display.max_rows"
      ("0 (unlimited) to " ++ showNat greatestMaxRows) raw.display.maxRows
  | .theme => refusal (fun theme => (dark? theme).isSome) id "display.theme"
      "\"dark\" or \"light\"" raw.display.theme
  | .fontSize => refusal isFontSize showFont "display.font_size"
      (showFont leastFontSize ++ "-" ++ showFont greatestFontSize) raw.display.fontSize
  | .level => refusal isLevel id "logging.level" "error, warn, info, debug, or trace"
      raw.logging.level
  | .reconnect | .file => []

/-- The first delay. -/
def initialMs : ℕ := (raw.connection.initialMs.filter isDelay).getD 1000

/-- The longest delay before it is held against the first one. -/
def longestMs : ℕ := (raw.connection.longestMs.filter isDelay).getD 30000

/-- The warning about a longest delay that is less than the first one. -/
def orderComplaint : List ConfigWarning :=
  if raw.longestMs < raw.initialMs then
    [.outOfRange "connection.reconnect_max_ms" (showNat raw.longestMs)
      (">= reconnect_initial_ms (" ++ showNat raw.initialMs ++ ")")]
  else []

/-- The configuration that is used. -/
def settled : Config where
  pageUrl := raw.connection.pageUrl.filter isPageUrl
  reconnect := raw.connection.reconnect.getD false
  initialMs := raw.initialMs
  longestMs := max raw.initialMs raw.longestMs
  maxRows := (raw.display.maxRows.filter isRowCap).getD 0
  dark := (raw.display.theme.bind dark?).getD true
  fontSize := (raw.display.fontSize.filter isFontSize).getD (fontSizeOf 14)
  logLevel := raw.logging.level.filter isLevel
  logFile := raw.logging.file.filter (!·.isEmpty)

/-- All warnings about one value; the longest delay is looked at twice. -/
def warningsOn (f : ConfigField) : List ConfigWarning :=
  raw.complaint f ++ if f = .longestMs then raw.orderComplaint else []

section

variable (c : Checked)

theorem checkPageUrl_eq : checkPageUrl raw.connection.pageUrl c =
    ({ c.1 with pageUrl := (raw.connection.pageUrl.filter isPageUrl).or c.1.pageUrl },
      c.2 ++ raw.complaint .pageUrl) := by
  rw [checkPageUrl, checkValue_eq, complaint]
  cases raw.connection.pageUrl.filter isPageUrl <;> rfl

theorem checkReconnect_eq : checkReconnect raw.connection.reconnect c =
    ({ c.1 with reconnect := raw.connection.reconnect.getD c.1.reconnect },
      c.2 ++ raw.complaint .reconnect) := by
  rw [complaint, List.append_nil]
  cases raw.connection.reconnect <;> rfl

theorem checkInitial_eq : checkInitial raw.connection.initialMs c =
    ({ c.1 with initialMs := (raw.connection.initialMs.filter isDelay).getD c.1.initialMs },
      c.2 ++ raw.complaint .initialMs) := by
  rw [checkInitial, checkValue_eq, complaint]
  cases raw.connection.initialMs.filter isDelay <;> rfl

theorem checkLongest_eq : checkLongest raw.connection.longestMs c =
    ({ c.1 with longestMs := (raw.connection.longestMs.filter isDelay).getD c.1.longestMs },
      c.2 ++ raw.complaint .longestMs) := by
  rw [checkLongest, checkValue_eq, complaint]
  cases raw.connection.longestMs.filter isDelay <;> rfl

/-- The longest delay becomes the first one if it is less. -/
theorem checkOrder_eq (hinitial : c.1.initialMs = raw.initialMs)
    (hlongest : c.1.longestMs = raw.longestMs) :
    checkOrder c = ({ c.1 with longestMs := max raw.initialMs raw.longestMs },
      c.2 ++ raw.orderComplaint) := by
  rw [checkOrder, orderComplaint, ← hinitial, ← hlongest]
  split
  · rename_i hless
    rw [max_eq_left hless.le]
    rfl
  · rename_i hnot
    rw [max_eq_right (not_lt.1 hnot), List.append_nil]

theorem checkMaxRows_eq : checkMaxRows raw.display.maxRows c =
    ({ c.1 with maxRows := (raw.display.maxRows.filter isRowCap).getD c.1.maxRows },
      c.2 ++ raw.complaint .maxRows) := by
  rw [checkMaxRows, checkValue_eq, complaint]
  cases raw.display.maxRows.filter isRowCap <;> rfl

theorem checkTheme_eq : checkTheme raw.display.theme c =
    ({ c.1 with dark := (raw.display.theme.bind dark?).getD c.1.dark },
      c.2 ++ raw.complaint .theme) := by
  rw [checkTheme, checkValue_eq, complaint]
  cases raw.display.theme with
  | none => rfl
  | some theme =>
    rw [Option.filter_some, Option.bind_some]
    cases hdark : dark? theme with
    | none => rfl
    | some b => simp only [Option.isSome_some, if_true, Option.elim_some, hdark]

theorem checkFontSize_eq : checkFontSize raw.display.fontSize c =
    ({ c.1 with fontSize := (raw.display.fontSize.filter isFontSize).getD c.1.fontSize },
      c.2 ++ raw.complaint .fontSize) := by
  rw [checkFontSize, checkValue_eq, complaint]
  cases raw.display.fontSize.filter isFontSize <;> rfl

theorem checkLevel_eq : checkLevel raw.logging.level c =
    ({ c.1 with logLevel := (raw.logging.level.filter isLevel).or c.1.logLevel },
      c.2 ++ raw.complaint .level) := by
  rw [checkLevel, checkValue_eq, complaint]
  cases raw.logging.level.filter isLevel <;> rfl

theorem checkFile_eq : checkFile raw.logging.file c =
    ({ c.1 with logFile := (raw.logging.file.filter (!·.isEmpty)).or c.1.logFile },
      c.2 ++ raw.complaint .file) := by
  rw [complaint, List.append_nil]
  cases raw.logging.file with
  | none => rfl
  | some file =>
    rw [checkFile, Option.filter_some]
    cases file.isEmpty <;> rfl

end

/-- A validation, value by value. -/
theorem validate_eq : validate raw = (raw.settled, ConfigField.all.flatMap raw.warningsOn) := by
  rw [validate, checkPageUrl_eq, checkReconnect_eq, checkInitial_eq, checkLongest_eq,
    checkOrder_eq raw _ rfl rfl, checkMaxRows_eq, checkTheme_eq, checkFontSize_eq, checkLevel_eq,
    checkFile_eq]
  simp only [settled, initialMs, longestMs, defaults, Option.or_none, ConfigField.all, warningsOn,
    List.flatMap_cons, List.flatMap_nil, List.nil_append, List.append_nil, List.append_assoc,
    reduceCtorEq, if_true, if_false]

end RawConfig

/-! ### The outcome is in range, and is kept by another validation -/

/-- Every value of a configuration is one that may be used. -/
structure Config.InRange (c : Config) : Prop where
  least_initial : 100 ≤ c.initialMs
  initial_longest : c.initialMs ≤ c.longestMs
  longest_greatest : c.longestMs ≤ 600000
  maxRows : c.maxRows ≤ 1000000
  fontSize : ∃ q, c.fontSize.value? = some q ∧ 10 ≤ q ∧ q ≤ 24
  logLevel : ∀ level, c.logLevel = some level →
    ∃ name ∈ ["error", "warn", "info", "debug", "trace"], Text.isNamed level name = true
  pageUrl : ∀ url, c.pageUrl = some url → ∃ ch ∈ url.toList, Text.isBlank ch = false
  logFile : ∀ file, c.logFile = some file → file ≠ ""

/-- A configuration with every value written out. -/
def Config.toRaw (c : Config) : RawConfig where
  connection := ⟨c.pageUrl, some c.reconnect, some c.initialMs, some c.longestMs⟩
  display := ⟨some c.maxRows, some (if c.dark then "dark" else "light"), some c.fontSize⟩
  logging := ⟨c.logLevel, c.logFile⟩

namespace RawConfig

open Config

variable (raw : RawConfig)

theorem initialMs_range : 100 ≤ raw.initialMs ∧ raw.initialMs ≤ 600000 := by
  rw [initialMs]
  cases hms : raw.connection.initialMs.filter isDelay with
  | none => decide
  | some ms => exact isDelay_iff.1 (Option.filter_eq_some_iff.1 hms).2

theorem longestMs_range : 100 ≤ raw.longestMs ∧ raw.longestMs ≤ 600000 := by
  rw [longestMs]
  cases hms : raw.connection.longestMs.filter isDelay with
  | none => decide
  | some ms => exact isDelay_iff.1 (Option.filter_eq_some_iff.1 hms).2

theorem inRange_settled : raw.settled.InRange where
  least_initial := raw.initialMs_range.1
  initial_longest := le_max_left _ _
  longest_greatest := max_le raw.initialMs_range.2 raw.longestMs_range.2
  maxRows := by
    rw [settled]
    cases hrows : raw.display.maxRows.filter isRowCap with
    | none => exact Nat.zero_le _
    | some n => exact isRowCap_iff.1 (Option.filter_eq_some_iff.1 hrows).2
  fontSize := by
    rw [settled]
    cases hsize : raw.display.fontSize.filter isFontSize with
    | none => exact isFontSize_iff.1 isFontSize_default
    | some size => exact isFontSize_iff.1 (Option.filter_eq_some_iff.1 hsize).2
  logLevel _ h := isLevel_iff.1 (Option.filter_eq_some_iff.1 h).2
  pageUrl _ h := isPageUrl_iff.1 (Option.filter_eq_some_iff.1 h).2
  logFile file h := by
    rintro rfl
    cases (Option.filter_eq_some_iff.1 h).2

end RawConfig

namespace Config

theorem dark?_name (dark : Bool) : dark? (if dark then "dark" else "light") = some dark := by
  cases dark <;> rfl

/-- Nothing is left to a second validation. -/
theorem validate_toRaw {c : Config} (h : c.InRange) : validate c.toRaw = (c, []) := by
  have hpage : ∀ url, c.pageUrl = some url → isPageUrl url = true :=
    fun url hurl => isPageUrl_iff.2 (h.pageUrl url hurl)
  have hinitial : ∀ ms, some c.initialMs = some ms → isDelay ms = true := by
    rintro _ ⟨⟩
    exact isDelay_iff.2 ⟨h.least_initial, h.initial_longest.trans h.longest_greatest⟩
  have hlongest : ∀ ms, some c.longestMs = some ms → isDelay ms = true := by
    rintro _ ⟨⟩
    exact isDelay_iff.2 ⟨h.least_initial.trans h.initial_longest, h.longest_greatest⟩
  have hrows : ∀ n, some c.maxRows = some n → isRowCap n = true := by
    rintro _ ⟨⟩
    exact isRowCap_iff.2 h.maxRows
  have htheme : ∀ theme, some (if c.dark then "dark" else "light") = some theme →
      (dark? theme).isSome = true := by
    rintro _ ⟨⟩
    rw [dark?_name, Option.isSome_some]
  have hsize : ∀ size, some c.fontSize = some size → isFontSize size = true := by
    rintro _ ⟨⟩
    exact isFontSize_iff.2 h.fontSize
  have hlevel : ∀ level, c.logLevel = some level → isLevel level = true :=
    fun level hl => isLevel_iff.2 (h.logLevel level hl)
  have hfile : ∀ file, c.logFile = some file → (!file.isEmpty) = true := by
    intro file hf
    rw [Bool.not_eq_true', String.isEmpty_eq_false_iff]
    exact h.logFile file hf
  -- so nothing falls back to a default, and the two delays are in order already
  have hfirst : c.toRaw.initialMs = c.initialMs :=
    congrArg (·.getD 1000) (filter_of_passes hinitial)
  have hlast : c.toRaw.longestMs = c.longestMs :=
    congrArg (·.getD 30000) (filter_of_passes hlongest)
  have hsettled : c.toRaw.settled = c := by
    rw [RawConfig.settled, hfirst, hlast, max_eq_right h.initial_longest]
    simp only [toRaw, filter_of_passes hpage, filter_of_passes hrows, filter_of_passes hsize,
      filter_of_passes hlevel, filter_of_passes hfile, Option.bind_some, dark?_name,
      Option.getD_some]
  have hcomplaint : ∀ f, c.toRaw.complaint f = [] := by
    intro f
    cases f with
    | pageUrl => exact refusal_of_passes _ _ _ hpage
    | reconnect => rfl
    | initialMs => exact refusal_of_passes _ _ _ hinitial
    | longestMs => exact refusal_of_passes _ _ _ hlongest
    | maxRows => exact refusal_of_passes _ _ _ hrows
    | theme => exact refusal_of_passes _ _ _ htheme
    | fontSize => exact refusal_of_passes _ _ _ hsize
    | level => exact refusal_of_passes _ _ _ hlevel
    | file => rfl
  have horder : c.toRaw.orderComplaint = [] := by
    rw [RawConfig.orderComplaint, hfirst, hlast, if_neg (not_lt.2 h.initial_longest)]
  have hwarnings : ConfigField.all.flatMap c.toRaw.warningsOn = [] := by
    rw [List.flatMap_eq_nil_iff]
    intro f _
    rw [RawConfig.warningsOn, hcomplaint, horder, ite_self, List.append_nil]
  rw [RawConfig.validate_eq, hsettled, hwarnings]

/-- Without anything set the outcome is the default one. -/
theorem validate_empty : validate {} = (defaults, []) := rfl

/-- A configuration that is loaded is one that was validated, of the file or of nothing. -/
theorem load_eq_validate (fs : FileSystem) (configDir : String) :
    ∃ raw, (load fs configDir).1 = (validate raw).1 := by
  have hdefault : (defaults : Config) = (validate {}).1 := by rw [validate_empty]
  simp only [load]
  split
  · exact ⟨_, hdefault⟩
  · split
    · exact ⟨_, hdefault⟩
    · split
      · exact ⟨_, hdefault⟩
      · rename_i raw _
        exact ⟨raw, rfl⟩

/-- Whatever is written, and whatever is found where the file should be, the configuration that is
used is in range, and writing it out and validating it again changes nothing and gives no
warning. -/
theorem settled_in_range :
    (∀ raw : RawConfig, (validate raw).1.InRange ∧
      validate (validate raw).1.toRaw = ((validate raw).1, [])) ∧
    ∀ (fs : FileSystem) (configDir : String), (load fs configDir).1.InRange ∧
      validate (load fs configDir).1.toRaw = ((load fs configDir).1, []) := by
  have hvalidate : ∀ raw : RawConfig, (validate raw).1.InRange ∧
      validate (validate raw).1.toRaw = ((validate raw).1, []) := by
    intro raw
    have hrange : (validate raw).1.InRange := by
      rw [RawConfig.validate_eq]
      exact raw.inRange_settled
    exact ⟨hrange, validate_toRaw hrange⟩
  refine ⟨hvalidate, ?_⟩
  intro fs configDir
  obtain ⟨raw, hraw⟩ := load_eq_validate fs configDir
  rw [hraw]
  exact hvalidate raw

end Config

end LiveTail
