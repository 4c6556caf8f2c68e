import LiveTail.Program
import LiveTail.Text.Numeral
/-! The switches of the command line, and the help on them. -/
namespace LiveTail

/-- The switches of the program; one of them takes a value. -/
inductive Switch where
  | query
  | reconnect
  | debug
  | help
  | version
  deriving DecidableEq, Repr

namespace Switch

/-- All switches, in the order in which the help lists them. -/
def all : List Switch := [.query, .reconnect, .debug, .help, .version]

def short : Switch → Char
  | .query => 'q'
  | .reconnect => 'r'
  | .debug => 'd'
  | .help => 'h'
  | .version => 'V'

def long : Switch → String
  | .query => "query"
  | .reconnect => "reconnect"
  | .debug => "debug"
  | .help => "help"
  | .version => "version"

def takesValue (s : Switch) : Bool := s = .query

def ofShort? (c : Char) : Option Switch := all.find? (fun s => s.short = c)

def ofLong? (name : String) : Option Switch := all.find? (fun s => s.long = name)

/-- The long form, with a place for the value. -/
def shown (s : Switch) : String :=
  "--" ++ s.long ++ if s.takesValue then " <QUERY>" else ""

/-- What the switch does. The short help and the long one point to each other. -/
def about (detailed : Bool) : Switch → String
  | .query => "Selector to send once the socket opens"
  | .reconnect => "Reconnect automatically with exponential backoff"
  | .debug => "Enable debug logging (equivalent to RUST_LOG=debug)"
  | .help =>
    if detailed then "Print help (see a summary with '-h')"
    else "Print help (see more with '--help')"
  | .version => "Print version"

end Switch

/-! ### Help -/

/-- The place of the page among the arguments. -/
def pagePlace : String := "[PAGE_URL]"

def aboutPage : String :=
  "URL of the weblog page, e.g. http://host:8080/weblog/ (the socket is derived from it)"

/-- How the program is used, with the switches that are listed or with any. -/
def usageLine (switches : Option (List Switch)) : String :=
  let options := match switches with
    | none => " [OPTIONS]"
    | some l => String.join (l.map (fun s => " " ++ s.shown))
  "Usage: " ++ Program.name ++ options ++ " " ++ pagePlace

/-- Both forms of a switch. -/
def switchForms (s : Switch) : String := "-" ++ s.short.toString ++ ", " ++ s.shown

def optionsWidth : Nat := ((Switch.all.map (fun s => (switchForms s).length)).max?).getD 0

/-- A line for each switch. -/
def summary : String :=
  "Live log-tailing client for weblog streaming backends\n\n" ++ usageLine none ++
  "\n\nArguments:\n  " ++ pagePlace ++ "  " ++ aboutPage ++ "\n\nOptions:\n" ++
  String.join (Switch.all.map (fun s =>
    "  " ++ .ofList (Text.padEnd optionsWidth ' ' (switchForms s).toList) ++ "  " ++
      s.about false ++ "\n"))

/-- A paragraph for each switch. -/
def manual : String :=
  Program.title ++ " - live viewer for a weblog streaming backend.\n\n" ++
  "Connects to the socket served next to PAGE_URL and shows log events as they arrive, " ++
  "newest first.\n\n" ++ usageLine none ++
  "\n\nArguments:\n  " ++ pagePlace ++ "\n          " ++ aboutPage ++ "\n\nOptions:\n" ++
  "\n".intercalate (Switch.all.map (fun s =>
    "  " ++ switchForms s ++ "\n          " ++ s.about true ++ "\n"))

end LiveTail
