import LiveTail.Connection.Rehearsal
import LiveTail.Prefs
import LiveTail.Screen.Paint
/-! The window and what its user does: clicks, typing, and the way out. -/
namespace LiveTail

/-- A window: what it shows, the menu that is open, and whether the query input has the focus. -/
structure Window where
  screen : Screen
  menu : Option Menu := none
  focused : Bool := false
  deriving DecidableEq, Repr

namespace Window

/-- How many events one frame takes from the worker. -/
def eventsPerFrame : Nat := 500

/-- What happens before each painting. -/
def frame (w : Window) : Window := { w with screen := (w.screen.pump (some eventsPerFrame)).2 }

/-- The texts of the window; an open menu lies above all else. -/
def paint (w : Window) : List Painted :=
  w.screen.paint ++ (w.menu.toList.flatMap Screen.openMenu)

/-- Whether the words occur in a text. -/
def occursIn (words : List Char) : List Char → Bool
  | [] => words.isEmpty
  | c :: r => words.isPrefixOf (c :: r) || occursIn words r

/-- The painted text that some words name: of those equal to them or else of those that hold them,
the one of a number, counted from 0. -/
def find? (w : Window) (words : String) (nth : Nat) : Option Painted :=
  let equal := w.paint.filter (fun p => p.text = words)
  if equal.isEmpty then
    (w.paint.filter (fun p => occursIn words.toList p.text.toList))[nth]?
  else equal[nth]?

/-- Changes what is shown. -/
def modify (w : Window) (f : Screen → Screen) : Window := { w with screen := f w.screen }

/-- Whether an item of a menu can be chosen now. -/
def isEnabled (w : Window) : MenuItem → Bool
  | .reconnect => w.screen.session.state = .disconnected
  | .disconnect => w.screen.session.state ≠ .disconnected
  | .exit | .darkMode => true

/-- Chooses an item of a menu. The menu closes only for what changes the connection. -/
def choose (w : Window) (item : MenuItem) : Window :=
  if !w.isEnabled item then w
  else match item with
    | .reconnect => { w.modify Screen.reconnect with menu := none }
    | .disconnect => { w.modify Screen.disconnect with menu := none }
    | .darkMode => w.modify (fun s => { s with theme := s.theme.toggle })
    | .exit => w

/-- A click. It gives the query input the focus or takes it away. -/
def click (w : Window) (widget : Widget) : Window :=
  let w := { w with focused := widget == .input }
  match widget with
  | .label | .input => w
  | .menu m => { w with menu := if w.menu = some m then none else some m }
  | .item i => w.choose i
  | .reconnect => w.modify Screen.reconnect
  | .search => w.modify Screen.submit
  | .row seq => w.modify (·.toggleRow seq)

/-- The pointer comes to rest on something. With a menu open, another title opens its own. -/
def pointAt (w : Window) (widget : Widget) : Window :=
  match widget with
  | .menu m => { w with menu := w.menu.map (fun _ => m) }
  | _ => w

/-- The tooltip of a text; there are none while a menu is open. -/
def tooltip? (w : Window) (p : Painted) : Option Painted :=
  if w.menu.isSome then none else p.tooltip.map .plain

/-- Text typed behind what stands in the query input, if that has the focus. -/
def type (w : Window) (text : String) : Window :=
  if w.focused then w.modify (fun s => { s with input := s.input ++ text }) else w

/-- The Enter key submits what stands in the query input and leaves it the focus. -/
def enter (w : Window) : Window := if w.focused then w.modify Screen.submit else w

/-- The preferences that are saved on the way out. -/
def preferences (w : Window) : Preferences :=
  .new (some w.screen.pageUrl) w.screen.session.lastQuery

/-- The window closes: preferences are saved as far as possible, and the connection ends. -/
def close (w : Window) (prefsPath : String) (fs : FileSystem) : Window × FileSystem :=
  (w.modify (fun s => { s with session := s.session.close }), (w.preferences.save prefsPath fs).2)

/-! ### Rehearsal -/

/-- Paints frames until no events are left; before each frame the workers come to rest. -/
def runFrames : Nat → Window → Backend → Window × Backend
  | 0, w, b => (w, b)
  | n + 1, w, b =>
    let (w, b) := settle w b
    if (w.screen.session.connection.current.map (fun l => l.events.isEmpty)).getD true then
      (w.frame, b)
    else runFrames n w.frame b
where
  /-- Lets the workers go on until they rest. -/
  settle (w : Window) (b : Backend) : Window × Backend :=
    let (c, b) := b.settle w.screen.session.connection
    (w.modify (fun s => { s with session := { s.session with connection := c } }), b)

/-- Paints frames until no events are left. A frame takes at least one event, and there are no more
of them than the calls that the worker can make. -/
def rehearse (w : Window) (b : Backend) : Window × Backend :=
  match w.screen.session.connection.current with
  | none => runFrames 1 w b
  | some l => runFrames (l.events.length + b.callLimit l + 1) w b

end Window

end LiveTail
