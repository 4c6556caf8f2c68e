import LiveTail.Config.Raw
import LiveTail.Files.System
import LiveTail.Number.Shortest
import LiveTail.Text.Blank
import LiveTail.Text.Fold
/-! The configuration that is used: every value in its range, and a warning for each one that was
not. -/
namespace LiveTail

/-- The configuration with every value in its range. -/
structure Config where
  pageUrl : Option String
  reconnect : Bool
  initialMs : Nat
  longestMs : Nat
  maxRows : Nat
  dark : Bool
  fontSize : Binary
  logLevel : Option String
  logFile : Option String
  deriving DecidableEq, Repr

/-- Why a value or the whole configuration was not taken over. -/
inductive ConfigWarning where
  | unparseable (path : String)
  | outOfRange (field value expected : String)
  | unreadable (path : String) (cause : FileFault)
  deriving DecidableEq, Repr

namespace ConfigWarning

/-- The place of what a reader of TOML says about a text that it refuses. -/
def tomlReason : String := "<toml>"

def message : ConfigWarning → String
  | .unparseable path => "Config parse error '" ++ path ++ "': " ++ tomlReason
  | .outOfRange field value expected =>
    "Config '" ++ field ++ "' = '" ++ value ++ "' is out of range. Expected: " ++ expected
  | .unreadable path cause => "Config I/O error '" ++ path ++ "': " ++ cause.message

/-- The messages of the faults behind this one. -/
def causes : ConfigWarning → List String
  | .unparseable _ => [tomlReason]
  | .unreadable _ cause => [cause.message]
  | .outOfRange .. => []

end ConfigWarning

namespace Config

def leastDelayMs : Nat := 100

def greatestDelayMs : Nat := 600000

def greatestMaxRows : Nat := 1000000

/-- Font sizes are 32-bit numbers. -/
def fontSizeOf (points : Int) : Binary := .ofInt .single points

def leastFontSize : Binary := fontSizeOf 10

def greatestFontSize : Binary := fontSizeOf 24

/-- What is used for values that are not given. -/
def defaults : Config :=
  ⟨none, false, 1000, 30000, 0, true, fontSizeOf 14, none, none⟩

instance : Inhabited Config := ⟨defaults⟩

def levelNames : List String := ["error", "warn", "info", "debug", "trace"]

def showNat (n : Nat) : String := .ofList (Text.numeral n)

def showFont (x : Binary) : String := .ofList (x.display .single)

/-- A configuration so far, and the warnings so far. -/
abbrev Checked := Config × List ConfigWarning

def warn (c : Checked) (field value expected : String) : Checked :=
  (c.1, c.2 ++ [.outOfRange field value expected])

/-- Looks at one value: if it is given it is put in its place, or told about if it does not pass. -/
def checkValue {α : Type} (passes : α → Bool) (put : Config → α → Config) (shown : α → String)
    (field expected : String) (value : Option α) (c : Checked) : Checked :=
  match value with
  | none => c
  | some v => if passes v then (put c.1 v, c.2) else warn c field (shown v) expected

def isPageUrl (url : String) : Bool := !Text.isAllBlank url.toList

/-- A page URL that does not pass is shown as nothing. -/
def checkPageUrl : Option String → Checked → Checked :=
  checkValue isPageUrl (fun c url => { c with pageUrl := some url }) (fun _ => "")
    "connection.page_url" "a non-empty http(s) URL"

def checkReconnect (value : Option Bool) (c : Checked) : Checked :=
  match value with
  | none => c
  | some b => ({ c.1 with reconnect := b }, c.2)

def isDelay (ms : Nat) : Bool := leastDelayMs ≤ ms && ms ≤ greatestDelayMs

def delayRange : String := showNat leastDelayMs ++ "-" ++ showNat greatestDelayMs ++ " milliseconds"

def checkInitial : Option Nat → Checked → Checked :=
  checkValue isDelay (fun c ms => { c with initialMs := ms }) showNat
    "connection.reconnect_initial_ms" delayRange

def checkLongest : Option Nat → Checked → Checked :=
  checkValue isDelay (fun c ms => { c with longestMs := ms }) showNat
    "connection.reconnect_max_ms" delayRange

/-- The longest delay is at least the first one. -/
def checkOrder (c : Checked) : Checked :=
  if c.1.longestMs < c.1.initialMs then
    let w := warn c "connection.reconnect_max_ms" (showNat c.1.longestMs)
      (">= reconnect_initial_ms (" ++ showNat c.1.initialMs ++ ")")
    ({ w.1 with longestMs := w.1.initialMs }, w.2)
  else c

def isRowCap (n : Nat) : Bool := n ≤ greatestMaxRows

def checkMaxRows : Option Nat → Checked → Checked :=
  checkValue isRowCap (fun c n => { c with maxRows := n }) showNat
    "display.max_rows" ("0 (unlimited) to " ++ showNat greatestMaxRows)

/-- Whether a theme is the dark one; none if there is no such theme. -/
def dark? (theme : String) : Option Bool :=
  if Text.isNamed theme "dark" then some true
  else if Text.isNamed theme "light" then some false
  else none

def checkTheme : Option String → Checked → Checked :=
  checkValue (fun theme => (dark? theme).isSome)
    (fun c theme => { c with dark := (dark? theme).getD c.dark }) id
    "display.theme" "\"dark\" or \"light\""

def isFontSize (size : Binary) : Bool := leastFontSize.le size && size.le greatestFontSize

def checkFontSize : Option Binary → Checked → Checked :=
  checkValue isFontSize (fun c size => { c with fontSize := size }) showFont
    "display.font_size" (showFont leastFontSize ++ "-" ++ showFont greatestFontSize)

def isLevel (level : String) : Bool := levelNames.any (Text.isNamed level)

def checkLevel : Option String → Checked → Checked :=
  checkValue isLevel (fun c level => { c with logLevel := some level }) id
    "logging.level" "error, warn, info, debug, or trace"

/-- No log file and an empty name mean the same. -/
def checkFile (value : Option String) (c : Checked) : Checked :=
  match value with
  | none => c
  | some file => if file.isEmpty then c else ({ c.1 with logFile := some file }, c.2)

/-- Checks all values in order; one out of range leaves the default in its place. -/
def validate (raw : RawConfig) : Config × List ConfigWarning :=
  let c := checkPageUrl raw.connection.pageUrl (defaults, [])
  let c := checkReconnect raw.connection.reconnect c
  let c := checkInitial raw.connection.initialMs c
  let c := checkLongest raw.connection.longestMs c
  let c := checkOrder c
  let c := checkMaxRows raw.display.maxRows c
  let c := checkTheme raw.display.theme c
  let c := checkFontSize raw.display.fontSize c
  let c := checkLevel raw.logging.level c
  checkFile raw.logging.file c

/-- The file of the configuration in its directory. -/
def filePath (configDir : String) : String := Path.join configDir "config.toml"

/-- The configuration of a directory. Without a file it is the default one; a file that cannot be
read gives the default one and a warning. -/
def load (fs : FileSystem) (configDir : String) : Config × List ConfigWarning :=
  let path := filePath configDir
  if !fs.isThere path then (defaults, [])
  else match fs.readText path with
    | .error e => (defaults, [.unreadable path e])
    | .ok text =>
      match RawConfig.ofText? text with
      | none => (defaults, [.unparseable path])
      | some raw => validate raw

end Config

end LiveTail
