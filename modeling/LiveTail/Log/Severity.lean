import LiveTail.Text.Blank
/-! The severity of a log event, from the name of its level. -/
namespace LiveTail

/-- Severities, the most serious first. -/
inductive Severity where
  | critical
  | error
  | warning
  | info
  | debug
  | unknown
  deriving DecidableEq, Repr, Inhabited

namespace Severity

/-- All severities in their order. -/
def all : List Severity := [.critical, .error, .warning, .info, .debug, .unknown]

def rank : Severity → Nat
  | .critical => 0
  | .error => 1
  | .warning => 2
  | .info => 3
  | .debug => 4
  | .unknown => 5

instance : Ord Severity := ⟨fun a b => compare a.rank b.rank⟩

def label : Severity → String
  | .critical => "Critical"
  | .error => "Error"
  | .warning => "Warning"
  | .info => "Info"
  | .debug => "Debug"
  | .unknown => "Unknown"

def ofLabel? (s : String) : Option Severity := all.find? (fun v => v.label == s)

/-- The severity of a level name; its case and white space around it do not count. -/
def ofLevel (level : String) : Severity :=
  let name := String.ofList ((Text.trim level.toList).map Char.toLower)
  if ["panic", "fatal", "critical", "crit"].contains name then .critical
  else if ["error", "err"].contains name then .error
  else if ["warning", "warn"].contains name then .warning
  else if ["info", "information"].contains name then .info
  else if ["debug", "trace"].contains name then .debug
  else .unknown

end Severity

end LiveTail
