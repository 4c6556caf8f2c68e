import LiveTail.Toml.Lexer
/-! The grammar of TOML documents. -/
namespace LiveTail.Toml

mutual

/-- Reads a value; `depth` tells how many more arrays and tables may open. -/
def readValue? : Nat → Nat → List Char → Option (Toml × List Char)
  | 0, _, _ => none
  | fuel + 1, depth, cs =>
    match cs with
    | [] => none
    | c :: r =>
      if c = '"' || c = '\'' then (readString? cs).map (fun p => (.text (.ofList p.1), p.2))
      else if c = '[' then
        match depth with
        | 0 => none
        | depth + 1 => (readItems? fuel depth r).map (fun p => (.array p.1, p.2))
      else if c = '\x7b' then
        match depth with
        | 0 => none
        | depth + 1 =>
          match skipBlanks r with
          | '\x7d' :: r => some (.table .inline [], r)
          | r =>
            (readPairs? fuel depth (.empty .inline) r).map (fun p => (p.1.toValue, p.2))
      else readWord? cs

/-- Reads the items of an array and its closing bracket; line ends and comments may stand between
them, and a comma behind the last. -/
def readItems? : Nat → Nat → List Char → Option (List Toml × List Char)
  | 0, _, _ => none
  | fuel + 1, depth, cs =>
    match skipLines false cs with
    | ']' :: r => some ([], r)
    | cs => do
      let (v, r) ← readValue? fuel depth cs
      match skipLines false r with
      | ',' :: r =>
        let (items, r) ← readItems? fuel depth r
        return (v :: items, r)
      | ']' :: r => return ([v], r)
      | _ => none

/-- Reads the pairs of a table in braces and its closing brace, all on one line. -/
def readPairs? : Nat → Nat → Table → List Char → Option (Table × List Char)
  | 0, _, _, _ => none
  | fuel + 1, depth, t, cs => do
    let (path, name, r) ← readKey? nestingLimit cs
    match r with
    | '=' :: r =>
      let (v, r) ← readValue? fuel depth (skipBlanks r)
      let t ← t.assign path name v
      match skipBlanks r with
      | ',' :: r => readPairs? fuel depth t r
      | '\x7d' :: r => return (t, r)
      | _ => none
    | _ => none

end

/-- The end of a statement: white space, a comment, and a line end or the end of the text. -/
def endLine? (cs : List Char) : Option (List Char) :=
  match skipComment (skipBlanks cs) with
  | [] => some []
  | r => readLineEnd? r

/-- The document so far, and the path of the table that statements add to. -/
structure Reading where
  root : Table
  here : List String

/-- Reads a header behind its brackets. -/
def readHeader? (s : Reading) (cs : List Char) : Option (Reading × List Char) := do
  let (path, name, r) ← readKey? nestingLimit cs
  match r with
  | ']' :: r => return (⟨← s.root.openTable path name, path ++ [name]⟩, r)
  | _ => none

/-- Reads a header of an array of tables behind its brackets. -/
def readNextHeader? (s : Reading) (cs : List Char) : Option (Reading × List Char) := do
  let (path, name, r) ← readKey? nestingLimit cs
  match r with
  | ']' :: ']' :: r => return (⟨← s.root.openNext path name, path ++ [name]⟩, r)
  | _ => none

/-- Reads a key and its value into the table that is open. -/
def readPair? (s : Reading) (cs : List Char) : Option (Reading × List Char) := do
  let (path, name, r) ← readKey? nestingLimit cs
  match r with
  | '=' :: r =>
    let (v, r) ← readValue? (r.length + 1) nestingLimit (skipBlanks r)
    let root ← s.root.update false (Table.assign path name v) s.here
    return (⟨root, s.here⟩, r)
  | _ => none

/-- Reads statements up to the end. -/
def readStatements? : Nat → Reading → List Char → Option Table
  | 0, _, _ => none
  | fuel + 1, s, cs =>
    match skipLines false cs with
    | [] => some s.root
    | '[' :: '[' :: r => do
      let (s, r) ← readNextHeader? s r
      readStatements? fuel s (← endLine? r)
    | '[' :: r => do
      let (s, r) ← readHeader? s r
      readStatements? fuel s (← endLine? r)
    | cs => do
      let (s, r) ← readPair? s cs
      readStatements? fuel s (← endLine? r)

/-- The table of a document; none if the text is not TOML. -/
def ofText? (text : String) : Option (Entries Toml) :=
  let cs := match text.toList with
    | '\ufeff' :: r => r
    | r => r
  (readStatements? (cs.length + 1) ⟨.empty .header, []⟩ cs).map Table.entries

end LiveTail.Toml
