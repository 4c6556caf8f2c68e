import LiveTail.Entries
import LiveTail.Number.Binary
/-! TOML documents as trees, and how statements add to them: a table is defined once. -/
namespace LiveTail

/-- How a table came to be: by its own header or at the top, above another table's header, by a
dotted key, or in braces. -/
inductive TomlOrigin where
  | header
  | above
  | dotted
  | inline
  deriving DecidableEq, Repr

/-- A TOML value. A date or time is checked, and not kept. -/
inductive Toml where
  | text (s : String)
  | integer (n : Int)
  | float (x : Binary)
  | boolean (b : Bool)
  | moment
  | array (items : List Toml)
  | table (origin : TomlOrigin) (entries : List (String × Toml))
  | tables (items : List Toml)
  deriving Repr, Inhabited

namespace Toml

/-- The entries of a table and its origin. -/
structure Table where
  origin : TomlOrigin
  entries : Entries Toml

def Table.toValue (t : Table) : Toml := .table t.origin t.entries

def Table.empty (origin : TomlOrigin) : Table := ⟨origin, []⟩

/-- Changes the table at the end of a path; tables on the way that are missing are made. A dotted
key does not go into tables that have a header, and nothing goes into braces. -/
def Table.update (viaKey : Bool) (f : Table → Option Table) : List String → Table → Option Table
  | [], t => f t
  | k :: path, t =>
    match t.entries.get? k with
    | none => do
      let sub ← Table.update viaKey f path (.empty (if viaKey then .dotted else .above))
      return { t with entries := t.entries.insert k sub.toValue }
    | some (.table origin entries) =>
      if origin = .inline || (viaKey && origin = .header) then none
      else do
        let sub ← Table.update viaKey f path ⟨origin, entries⟩
        return { t with entries := t.entries.insert k sub.toValue }
    | some (.tables items) =>
      match items.reverse with
      | .table origin entries :: before => do
        let sub ← Table.update viaKey f path ⟨origin, entries⟩
        return { t with entries := t.entries.insert k (.tables (sub.toValue :: before).reverse) }
      | _ => none
    | some _ => none

/-- Sets a new name of a table. -/
def Table.define (name : String) (v : Toml) (t : Table) : Option Table :=
  match t.entries.get? name with
  | some _ => none
  | none => some { t with entries := t.entries.insert name v }

/-- Sets the value of a key, whose path leads only through tables made by dotted keys. -/
def Table.assign (path : List String) (name : String) (v : Toml) (t : Table) : Option Table :=
  t.update true (fun sub =>
    if (sub.origin == .dotted) == path.isEmpty then none else sub.define name v) path

/-- Opens the table of a header. -/
def Table.openTable (path : List String) (name : String) (t : Table) : Option Table :=
  t.update false (fun parent =>
    match parent.entries.get? name with
    | none =>
      some { parent with entries := parent.entries.insert name (.table .header []) }
    | some (.table .above entries) =>
      some { parent with entries := parent.entries.insert name (.table .header entries) }
    | some _ => none) path

/-- Opens one more table of an array of tables. -/
def Table.openNext (path : List String) (name : String) (t : Table) : Option Table :=
  t.update false (fun parent =>
    match parent.entries.get? name with
    | none =>
      some { parent with
        entries := parent.entries.insert name (.tables [.table .header []]) }
    | some (.tables items) =>
      some { parent with
        entries := parent.entries.insert name (.tables (items ++ [.table .header []])) }
    | some _ => none) path

end Toml

end LiveTail
