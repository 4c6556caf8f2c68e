import LiveTail.Json.Skip
/-! Records written as JSON: an object with known fields, or an array of them in order. A record is
read into a value of a type `σ`, which each field that is read changes. -/
namespace LiveTail.Json

/-- A field of a record: its name, whether it must be there, and how its value is read. -/
structure Field (σ : Type) where
  name : String
  required : Bool
  read : Nat → List Char → Except Stop ((σ → σ) × List Char)

/-- A kind of record: its name in messages, and its fields in order. -/
structure Schema (σ : Type) where
  name : String
  fields : List (Field σ)

/-- Refuses a value of another kind: scalars are read first, arrays and objects are not entered. -/
def readMismatch {α : Type} (expected : String) (cs : List Char) : Except Stop (α × List Char) :=
  match cs with
  | [] => .error (.next .endInValue [])
  | c :: r =>
    if c = '[' then .error (.shape (.invalidType .sequence expected) (c :: r))
    else if c = '\x7b' then .error (.shape (.invalidType .map expected) (c :: r))
    else do
      let (v, r) ← readScalar c r
      .error (.shape (.invalidType (.ofValue v) expected) r)

/-- Places a fault at the end of the array or object around it, whose closing is tried first. -/
def Stop.placeBy (close : List Char → List Char) (s : Stop) : Stop :=
  if s.placed then s else { s with left := close s.left, placed := true }

/-- The text behind the closing brace, if it comes next. -/
def passObjectEnd (cs : List Char) : List Char :=
  match skipSpace cs with
  | '\x7d' :: r => r
  | r => r

/-- The text behind the closing bracket or a comma, if it comes next. -/
def passListEnd (cs : List Char) : List Char :=
  match skipSpace cs with
  | ']' :: r => r
  | ',' :: r => skipSpace r
  | r => r

namespace Schema

variable {σ : Type}

def field? (s : Schema σ) (name : String) : Option (Field σ) :=
  s.fields.find? (fun f => f.name == name)

/-- The first field that must be there and was not seen. -/
def missing? (s : Schema σ) (seen : List String) : Option String :=
  (s.fields.find? (fun f => f.required && !seen.contains f.name)).map Field.name

/-- Reads the fields of an object up to its closing brace; fields of other names are passed over. -/
def readFields (s : Schema σ) (depth : Nat) :
    Nat → Bool → List String → σ → List Char → Except Stop (σ × List Char)
  | 0, _, _, _, cs => .error (.next .endInObject cs)
  | fuel + 1, first, seen, a, cs => do
    match ← nextKey first cs with
    | .done r =>
      match s.missing? seen with
      | some name => .error (.unplaced (.missingField name) r)
      | none => return (a, r)
    | .more r =>
      let (key, r) ← readString r
      match s.field? (.ofList key) with
      | some f =>
        if seen.contains f.name then .error (.unplaced (.duplicateField f.name) r)
        else
          let r ← readColon r
          let (change, r) ← f.read depth r
          s.readFields depth fuel false (f.name :: seen) (change a) r
      | none =>
        let r ← readColon r
        let r ← skipNested r
        s.readFields depth fuel false seen a r

/-- Reads the fields of an array; those at the end that need not be there may be left out. -/
def readSequence (s : Schema σ) (depth : Nat) :
    List (Field σ) → Bool → σ → List Char → Except Stop (σ × List Char)
  | [], _, a, cs => .ok (a, cs)
  | f :: fs, first, a, cs => do
    match ← nextItem first cs with
    | .done r =>
      if f.required then
        let n := s.fields.length
        .error (.unplaced (.invalidLength (n - (fs.length + 1)) ("struct " ++ s.name ++ " with " ++
          .ofList (Text.numeral n) ++ " elements")) r)
      else s.readSequence depth fs first a r
    | .more r =>
      let (change, r) ← f.read depth r
      s.readSequence depth fs false (change a) r

/-- Reads a record at the top of a text. -/
def read (s : Schema σ) (a : σ) (cs : List Char) : Except Stop (σ × List Char) :=
  match skipSpace cs with
  | [] => .error (.next .endInValue [])
  | c :: r =>
    if c = '[' then
      match s.readSequence (depthLimit - 1) s.fields true a r with
      | .ok (a, r) => (closeList r).map (a, ·)
      | .error e => .error (e.placeBy passListEnd)
    else if c = '\x7b' then
      match s.readFields (depthLimit - 1) (enough r) true [] a r with
      | .ok (a, r) => (closeObject r).map (a, ·)
      | .error e => .error (e.placeBy passObjectEnd)
    else readMismatch ("struct " ++ s.name) (c :: r)

/-- The record of a whole text. -/
def ofText (s : Schema σ) (a : σ) (text : String) : Except Fault σ :=
  readEnd text.toList (s.read a text.toList)

end Schema

end LiveTail.Json
