import LiveTail.Json.Lexer
/-! The grammar of JSON texts. Arrays and objects may be nested 127 deep; of equal keys the last one
counts. -/
namespace LiveTail.Json

/-- How many arrays and objects may lie in one another. -/
def depthLimit : Nat := 127

/-- What comes next in an array or object: its closing bracket, or one more item or key. -/
inductive Next where
  | done (left : List Char)
  | more (left : List Char)

/-- Looks for the next item of an array; `first` tells that none has been read yet. -/
def nextItem (first : Bool) (cs : List Char) : Except Stop Next :=
  match skipSpace cs with
  | [] => .error (.next .endInList [])
  | c :: r =>
    if c = ']' then .ok (.done (c :: r))
    else if first then .ok (.more (c :: r))
    else if c = ',' then
      match skipSpace r with
      | [] => .error (.next .endInValue [])
      | d :: r => if d = ']' then .error (.next .trailingComma (d :: r)) else .ok (.more (d :: r))
    else .error (.next .expectedListEnd (c :: r))

/-- The quote that opens a key. -/
def openKey : List Char → Except Stop Next
  | [] => .error (.next .endInValue [])
  | c :: r =>
    if c = '"' then .ok (.more r)
    else if c = '\x7d' then .error (.next .trailingComma (c :: r))
    else .error (.next .keyNotText (c :: r))

/-- Looks for the next key of an object, and goes behind its opening quote. -/
def nextKey (first : Bool) (cs : List Char) : Except Stop Next :=
  match skipSpace cs with
  | [] => .error (.next .endInObject [])
  | c :: r =>
    if c = '\x7d' then .ok (.done (c :: r))
    else if first then openKey (c :: r)
    else if c = ',' then openKey (skipSpace r)
    else .error (.next .expectedObjectEnd (c :: r))

/-- The colon between a key and its value. -/
def readColon (cs : List Char) : Except Stop (List Char) :=
  match skipSpace cs with
  | [] => .error (.next .endInObject [])
  | c :: r => if c = ':' then .ok r else .error (.next .expectedColon (c :: r))

/-- The closing bracket of an array. -/
def closeList (cs : List Char) : Except Stop (List Char) :=
  match skipSpace cs with
  | [] => .error (.next .endInList [])
  | c :: r =>
    if c = ']' then .ok r
    else if c = ',' then
      match skipSpace r with
      | [] => .error (.next .trailingCharacters [])
      | d :: r =>
        if d = ']' then .error (.next .trailingComma (d :: r))
        else .error (.next .trailingCharacters (d :: r))
    else .error (.next .trailingCharacters (c :: r))

/-- The closing brace of an object. -/
def closeObject (cs : List Char) : Except Stop (List Char) :=
  match skipSpace cs with
  | [] => .error (.next .endInObject [])
  | c :: r =>
    if c = '\x7d' then .ok r
    else if c = ',' then .error (.next .trailingComma (c :: r))
    else .error (.next .trailingCharacters (c :: r))

/-- Reads a value that is neither an array nor an object, from its first character on. -/
def readScalar (c : Char) (r : List Char) : Except Stop (Json × List Char) :=
  if c = 'n' then (readLiteral ['u', 'l', 'l'] r).map (Json.null, ·)
  else if c = 't' then (readLiteral ['r', 'u', 'e'] r).map (Json.boolean true, ·)
  else if c = 'f' then (readLiteral ['a', 'l', 's', 'e'] r).map (Json.boolean false, ·)
  else if c = '-' then (readNumber true r).map (fun p => (.number p.1, p.2))
  else if c.isDigit then (readNumber false (c :: r)).map (fun p => (.number p.1, p.2))
  else if c = '"' then (readString r).map (fun p => (.text (.ofList p.1), p.2))
  else .error (.next .expectedValue (c :: r))

mutual

/-- Reads a value; `depth` tells how many more arrays and objects may open. -/
def readValue : Nat → Nat → List Char → Except Stop (Json × List Char)
  | 0, _, cs => .error (.next .endInValue cs)
  | fuel + 1, depth, cs =>
    match skipSpace cs with
    | [] => .error (.next .endInValue [])
    | c :: r =>
      if c = '[' then
        match depth with
        | 0 => .error (.next .tooDeep (c :: r))
        | depth + 1 => do
          let (items, r) ← readItems fuel depth true r
          return (.array items, ← closeList r)
      else if c = '\x7b' then
        match depth with
        | 0 => .error (.next .tooDeep (c :: r))
        | depth + 1 => do
          let (members, r) ← readMembers fuel depth true r
          return (.ofMembers members, ← closeObject r)
      else readScalar c r

/-- Reads the items of an array, up to its closing bracket. -/
def readItems : Nat → Nat → Bool → List Char → Except Stop (List Json × List Char)
  | 0, _, _, cs => .error (.next .endInList cs)
  | fuel + 1, depth, first, cs => do
    match ← nextItem first cs with
    | .done r => return ([], r)
    | .more r =>
      let (v, r) ← readValue fuel depth r
      let (rest, r) ← readItems fuel depth false r
      return (v :: rest, r)

/-- Reads the members of an object in their order, up to its closing brace. -/
def readMembers : Nat → Nat → Bool → List Char → Except Stop (List (String × Json) × List Char)
  | 0, _, _, cs => .error (.next .endInObject cs)
  | fuel + 1, depth, first, cs => do
    match ← nextKey first cs with
    | .done r => return ([], r)
    | .more r =>
      let (key, r) ← readString r
      let r ← readColon r
      let (v, r) ← readValue fuel depth r
      let (rest, r) ← readMembers fuel depth false r
      return ((.ofList key, v) :: rest, r)

end

/-- More steps than the reading of a text can take. -/
def enough (cs : List Char) : Nat := 2 * cs.length + 2

/-- Reads a value inside other values. -/
def readNested (depth : Nat) (cs : List Char) : Except Stop (Json × List Char) :=
  readValue (enough cs) depth cs

/-- What is read has to be the whole text, up to white space. -/
def readEnd {α : Type} (text : List Char) (result : Except Stop (α × List Char)) : Except Fault α :=
  match result with
  | .error e => .error (e.locate text)
  | .ok (a, r) =>
    match skipSpace r with
    | [] => .ok a
    | r => .error (Stop.locate text (.next .trailingCharacters r))

/-- The value of a JSON text. -/
def ofText (text : String) : Except Fault Json :=
  readEnd text.toList (readNested depthLimit text.toList)

end LiveTail.Json
