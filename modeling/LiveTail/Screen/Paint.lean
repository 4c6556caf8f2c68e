import LiveTail.Screen.State
import LiveTail.Text.Lines
import LiveTail.Time.Printer
/-! What the window shows: its texts in the order in which they are painted, each with what it
belongs to. -/
namespace LiveTail

inductive MenuItem where
  | reconnect
  | disconnect
  | exit
  | darkMode
  deriving DecidableEq, Repr

def MenuItem.title : MenuItem → String
  | .reconnect => "Reconnect"
  | .disconnect => "Disconnect"
  | .exit => "Exit"
  | .darkMode => "Dark mode"

inductive Menu where
  | connection
  | view
  deriving DecidableEq, Repr

def Menu.title : Menu → String
  | .connection => "Connection"
  | .view => "View"

/-- The items of a menu, from the top. -/
def Menu.items : Menu → List MenuItem
  | .connection => [.reconnect, .disconnect, .exit]
  | .view => [.darkMode]

/-- What a painted text belongs to. -/
inductive Widget where
  | label
  | menu (menu : Menu)
  | item (item : MenuItem)
  | reconnect
  | input
  | search
  | row (seq : Nat)
  deriving DecidableEq, Repr

/-- A part of a text in one format; without a colour it has that of the theme. -/
structure Span where
  text : String
  colour : Option Colour := none
  italic : Bool := false
  deriving DecidableEq, Repr

/-- A painted text. -/
structure Painted where
  spans : List Span
  widget : Widget := .label
  tooltip : Option String := none
  deriving DecidableEq, Repr

namespace Painted

/-- The words of all parts. -/
def text (p : Painted) : String := String.join (p.spans.map Span.text)

def plain (text : String) : Painted := ⟨[{ text := text }], .label, none⟩

def coloured (text : String) (colour : Colour) : Painted := ⟨[{ text, colour }], .label, none⟩

def of (p : Painted) (widget : Widget) : Painted := { p with widget := widget }

def hint (p : Painted) (tooltip : String) : Painted := { p with tooltip := some tooltip }

end Painted

namespace Screen

open Painted

def menuBar : List Painted :=
  [.connection, .view].map (fun m => (plain m.title).of (.menu m))

def openMenu (m : Menu) : List Painted :=
  m.items.map (fun i => (plain i.title).of (.item i))

/-- The banner is there while the connection is down, with the reason if one is known. -/
def banner (s : Screen) : List Painted :=
  if s.session.state ≠ .disconnected then []
  else
    coloured "Disconnected" Theme.bannerColour ::
      (s.session.transportError.toList.map (coloured · Theme.bannerColour)) ++
      [(plain "Reconnect").of .reconnect]

/-- The query input, with a hint as long as it is empty, and its button. -/
def queryBar (s : Screen) : List Painted :=
  let hint := if s.input.isEmpty then [(plain "selector, e.g. level = \"error\"").of .input] else []
  let search := (plain "Search").of .search
  plain "Query:" :: hint ++
    [(coloured s.input s.theme.inputColour).of .input,
      if s.session.state = .connected then search
      else search.hint "Queries are only delivered while connected"]

def countText (n : Nat) : String := .ofList (Text.numeral n)

/-- Connection, status line and error of the backend, then counts. -/
def statusBar (s : Screen) : List Painted :=
  let state := s.session.state
  let table := s.session.stream.table
  let base := s.session.stream.base
  let dropped := s.session.protocolErrors
  [(coloured ("\u25cf " ++ state.label) (Theme.stateColour state)).hint state.marker,
    plain s.status] ++
  (s.session.serverError.toList.map (coloured · (s.theme.severityColour .error))) ++
  [plain (countText table.size ++ " rows (" ++ countText table.received ++ " received)"),
    (plain ("base " ++ .ofList base.clockText)).hint
      ("Row offsets are seconds from " ++ base.fullText)] ++
  (if dropped = 0 then []
    else [(plain (countText dropped ++ " frames dropped")).hint
      "Undecodable frames; see the log for details"]) ++
  (if s.warnings.isEmpty then []
    else [(plain (countText s.warnings.length ++ " config warning(s)")).hint
      ("\n".intercalate s.warnings)])

/-- Everything that is known about the selected row. -/
def detail (s : Screen) : List Painted :=
  match s.selectedRow? with
  | none => [plain "Select a row to view details."]
  | some r =>
    [plain "Time:", plain r.time.toText,
      plain "Offset:", plain (.ofList (Text.signedNumeral r.offset) ++ " s"),
      plain "Level:", plain (r.level ++ " (" ++ r.severity.label ++ ")")] ++
    r.fields.flatMap (fun f => [plain (f.1 ++ ":"), plain f.2]) ++
    [plain "Message:", plain r.message]

/-- A text at the left of a column, which is followed by a blank. -/
def column (width : Nat) (text : String) : String :=
  .ofList (Text.padEnd width ' ' text.toList ++ [' '])

/-- The line of a row: offset, level, prefix and the first line of the message. -/
def rowLine (theme : Theme) (r : LogRow) : Painted :=
  let body := some theme.rowColour
  let offset := Text.padStart 7 ' ' r.offsetLabel.toList ++ [' ']
  let lead := column 12 r.lead.text
  { spans := [{ text := .ofList offset, colour := body },
      { text := column 8 r.level, colour := theme.severityColour r.severity },
      if r.lead = .missing then
        { text := lead, colour := theme.placeholderColour, italic := true }
      else { text := lead, colour := body },
      { text := .ofList (Text.firstLine r.message.toList), colour := body }]
    widget := .row r.seq
    tooltip := r.time.fullText }

def tableLines (s : Screen) : List Painted :=
  let rows := s.session.stream.table.rows
  if rows.isEmpty then [plain "Waiting for log events\u2026"]
  else rows.map (rowLine s.theme)

/-- All texts of the window, but for menus and tooltips. -/
def paint (s : Screen) : List Painted :=
  menuBar ++ s.banner ++ s.queryBar ++ s.statusBar ++ s.detail ++ s.tableLines

end Screen

end LiveTail
