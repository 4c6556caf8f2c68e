import LiveTail.Connection.State
import LiveTail.Log.Severity
import LiveTail.Text.Numeral
/-! The colours of the window. -/
namespace LiveTail

/-- A colour by its parts, each below 256. -/
structure Colour where
  red : Nat
  green : Nat
  blue : Nat
  deriving DecidableEq, Repr

namespace Colour

def hexPair (n : Nat) : List Char := Text.padStart 2 '0' (Text.hexNumeral n)

/-- A number sign and two hexadecimal digits for each part. -/
def toText (c : Colour) : String :=
  .ofList ('#' :: hexPair c.red ++ hexPair c.green ++ hexPair c.blue)

end Colour

/-- A window is dark or light. -/
inductive Theme where
  | dark
  | light
  deriving DecidableEq, Repr

namespace Theme

def toggle : Theme → Theme
  | .dark => .light
  | .light => .dark

def severityColour (t : Theme) : Severity → Colour
  | .critical => ⟨220, 38, 38⟩
  | .error => ⟨239, 68, 68⟩
  | .warning => ⟨217, 119, 6⟩
  | .info =>
    match t with
    | .dark => ⟨96, 165, 250⟩
    | .light => ⟨37, 99, 235⟩
  | .debug => ⟨107, 114, 128⟩
  | .unknown => ⟨156, 163, 175⟩

/-- Offset, prefix and message of a row. -/
def rowColour : Theme → Colour
  | .dark => ⟨229, 231, 235⟩
  | .light => ⟨17, 24, 39⟩

/-- The placeholder of a missing prefix. -/
def placeholderColour : Theme → Colour
  | .dark => ⟨107, 114, 128⟩
  | .light => ⟨156, 163, 175⟩

/-- The text typed into the query input. -/
def inputColour : Theme → Colour
  | .dark => ⟨180, 180, 180⟩
  | .light => ⟨60, 60, 60⟩

def bannerColour : Colour := ⟨254, 226, 226⟩

def stateColour : ConnectionState → Colour
  | .connecting => ⟨234, 179, 8⟩
  | .connected => ⟨34, 197, 94⟩
  | .disconnected => ⟨220, 38, 38⟩

end Theme

end LiveTail
