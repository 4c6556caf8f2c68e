import LiveTail.Number.Reader
import LiveTail.Time.Calendar
import LiveTail.Toml.Value
import LiveTail.Number.Word
/-! The words of TOML: white space, comments, keys, strings, numbers, dates and times. A reader
gives what it read and the text that is left; there is no answer for a text that is not TOML. -/
namespace LiveTail.Toml

def skipBlanks (cs : List Char) : List Char := cs.dropWhile (fun c => c = ' ' || c = '\t')

/-- Takes a line end. -/
def readLineEnd? : List Char → Option (List Char)
  | '\n' :: r | '\r' :: '\n' :: r => some r
  | _ => none

/-- Characters of comments and literal strings: no controls but the tab. -/
def isPlain (c : Char) : Bool := c = '\t' || (0x20 ≤ c.toNat && c.toNat ≠ 0x7f)

/-- Passes over a comment, if there is one, up to the line end. -/
def skipComment (cs : List Char) : List Char :=
  match cs with
  | '#' :: r => r.dropWhile isPlain
  | r => r

/-- Passes over white space, comments and line ends; `inComment` tells that a comment has begun. -/
def skipLines : Bool → List Char → List Char
  | _, [] => []
  | _, '\n' :: r => skipLines false r
  | _, '\r' :: '\n' :: r => skipLines false r
  | inComment, c :: r =>
    if inComment then if isPlain c then skipLines true r else c :: r
    else if c = '#' then skipLines true r
    else if c = ' ' || c = '\t' then skipLines false r
    else c :: r

/-! ### Strings -/

/-- The character of an escape behind its backslash. -/
def readEscape? (cs : List Char) : Option (Char × List Char) :=
  let code (n : Nat) (r : List Char) : Option (Char × List Char) := do
    let ds := r.take n
    let value ← ds.foldlM (fun v c => (Text.hexDigit? c).map (v * 16 + ·)) 0
    if ds.length = n && (value < 0xD800 || (0xE000 ≤ value && value < 0x110000)) then
      some (.ofNat value, r.drop n)
    else none
  match cs with
  | 'b' :: r => some ('\x08', r)
  | 't' :: r => some ('\t', r)
  | 'n' :: r => some ('\n', r)
  | 'f' :: r => some ('\x0c', r)
  | 'r' :: r => some ('\r', r)
  | '"' :: r => some ('"', r)
  | '\\' :: r => some ('\\', r)
  | 'u' :: r => code 4 r
  | 'U' :: r => code 8 r
  | _ => none

/-- Reads a string on one line behind its opening quote. -/
def readBasic? : Nat → List Char → Option (List Char × List Char)
  | 0, _ => none
  | _, [] => none
  | fuel + 1, c :: r =>
    if c = '"' then some ([], r)
    else if c = '\\' then do
      let (x, r) ← readEscape? r
      let (s, r) ← readBasic? fuel r
      return (x :: s, r)
    else if isPlain c then do
      let (s, r) ← readBasic? fuel r
      return (c :: s, r)
    else none

/-- Reads a literal string on one line behind its opening quote. -/
def readLiteral? (cs : List Char) : Option (List Char × List Char) :=
  match cs.dropWhile (fun c => isPlain c && c ≠ '\'') with
  | '\'' :: r => some (cs.takeWhile (fun c => isPlain c && c ≠ '\''), r)
  | _ => none

/-- Passes over white space and line ends. -/
def skipBlankLines : List Char → List Char
  | ' ' :: r | '\t' :: r | '\n' :: r => skipBlankLines r
  | '\r' :: '\n' :: r => skipBlankLines r
  | cs => cs

/-- Passes over white space and line ends behind a backslash at the end of a line. -/
def skipContinuation? (cs : List Char) : Option (List Char) :=
  (readLineEnd? (skipBlanks cs)).map skipBlankLines

/-- Quotes inside a string over several lines: up to two stand for themselves, three end the string,
and up to two may stand right before those. -/
def readQuotes (q : Char) (cs : List Char) : List Char × Option (List Char) :=
  let n := (cs.takeWhile (· = q)).length
  if n < 3 then (List.replicate n q, none)
  else
    let inside := min (n - 3) 2
    (List.replicate inside q, some (cs.drop (inside + 3)))

/-- Reads a string over several lines behind its opening quotes; `q` is the quote, and a literal one
has no escapes. -/
def readLong? (q : Char) : Nat → List Char → Option (List Char × List Char)
  | 0, _ => none
  | _, [] => none
  | fuel + 1, c :: r =>
    if c = q then
      match readQuotes q (c :: r) with
      | (s, some r) => some (s, r)
      | (s, none) => do
        let (t, r) ← readLong? q fuel ((c :: r).drop s.length)
        return (s ++ t, r)
    else if c = '\\' && q = '"' then
      match skipContinuation? r with
      | some r => readLong? q fuel r
      | none => do
        let (x, r) ← readEscape? r
        let (s, r) ← readLong? q fuel r
        return (x :: s, r)
    else match readLineEnd? (c :: r) with
      | some r => do
        let (s, r) ← readLong? q fuel r
        return ('\n' :: s, r)
      | none =>
        if isPlain c then do
          let (s, r) ← readLong? q fuel r
          return (c :: s, r)
        else none

/-- A line end right behind the opening quotes does not count. -/
def dropFirstLineEnd (cs : List Char) : List Char := (readLineEnd? cs).getD cs

/-- Reads a string from its opening quote on. -/
def readString? (cs : List Char) : Option (List Char × List Char) :=
  match cs with
  | '"' :: '"' :: '"' :: r => readLong? '"' (r.length + 1) (dropFirstLineEnd r)
  | '\'' :: '\'' :: '\'' :: r => readLong? '\'' (r.length + 1) (dropFirstLineEnd r)
  | '"' :: r => readBasic? (r.length + 1) r
  | '\'' :: r => readLiteral? r
  | _ => none

/-! ### Keys -/

def isBareKeyChar (c : Char) : Bool := c.isAlphanum || c = '_' || c = '-'

/-- Reads one part of a key. -/
def readKeyPart? (cs : List Char) : Option (String × List Char) :=
  match cs with
  | '"' :: r => (readBasic? (r.length + 1) r).map (fun p => (.ofList p.1, p.2))
  | '\'' :: r => (readLiteral? r).map (fun p => (.ofList p.1, p.2))
  | cs =>
    let name := cs.takeWhile isBareKeyChar
    if name.isEmpty then none else some (.ofList name, cs.dropWhile isBareKeyChar)

/-- How many arrays may lie in one another, and how long keys may be. -/
def nestingLimit : Nat := 79

/-- Reads a key: parts with points between them, in white space. The last part comes apart. -/
def readKey? : Nat → List Char → Option (List String × String × List Char)
  | 0, _ => none
  | fuel + 1, cs => do
    let (part, r) ← readKeyPart? (skipBlanks cs)
    match skipBlanks r with
    | '.' :: r =>
      let (path, last, r) ← readKey? fuel r
      return (part :: path, last, r)
    | r => return ([], part, r)

/-! ### Numbers, dates and times -/

/-- Characters of numbers, dates, times and names. -/
def isWordChar (c : Char) : Bool :=
  c.isAlphanum || c = '_' || c = '+' || c = '-' || c = '.' || c = ':'

/-- Digits with single underscores between them, at least one. -/
def isDigits (isDigit : Char → Bool) : List Char → Bool
  | [] => false
  | [c] => isDigit c
  | c :: '_' :: r => isDigit c && isDigits isDigit r
  | c :: r => isDigit c && isDigits isDigit r

def dropUnderscores (cs : List Char) : List Char := cs.filter (· ≠ '_')

/-- The number of digits of a base. -/
def valueIn (base : Nat) (cs : List Char) : Nat :=
  (dropUnderscores cs).foldl (fun n c => n * base + (Text.hexDigit? c).getD 0) 0

/-- Decimal digits of a whole number: no zero before others. -/
def isWhole (cs : List Char) : Bool :=
  isDigits Char.isDigit cs &&
    match cs with
    | '0' :: _ :: _ => false
    | _ => true

def dropSign (cs : List Char) : List Char :=
  match cs with
  | '+' :: r | '-' :: r => r
  | r => r

/-- An integer in one of the four bases, within 64 bits. -/
def readInteger? (cs : List Char) : Option Int :=
  let based (base : Nat) (isDigit : Char → Bool) (r : List Char) : Option Int :=
    let n : Int := valueIn base r
    if isDigits isDigit r && Word.holdsSigned n then some n else none
  match cs with
  | '0' :: 'x' :: r => based 16 (fun c => (Text.hexDigit? c).isSome) r
  | '0' :: 'o' :: r => based 8 (fun c => '0' ≤ c && c ≤ '7') r
  | '0' :: 'b' :: r => based 2 (fun c => c = '0' || c = '1') r
  | cs =>
    let n : Int := valueIn 10 (dropSign cs)
    let n := if cs.head? = some '-' then -n else n
    if isWhole (dropSign cs) && Word.holdsSigned n then some n else none

/-- Whether a text has the form of a number with a fraction or an exponent. -/
def isFloat (cs : List Char) : Bool :=
  let cs := dropSign cs
  let isPart (c : Char) : Bool := c.isDigit || c = '_'
  let whole := cs.takeWhile isPart
  let rest := cs.dropWhile isPart
  let isExponent (r : List Char) : Bool := isDigits Char.isDigit (dropSign r)
  isWhole whole &&
    match rest with
    | '.' :: r =>
      isDigits Char.isDigit (r.takeWhile isPart) &&
        match r.dropWhile isPart with
        | [] => true
        | 'e' :: r | 'E' :: r => isExponent r
        | _ => false
    | 'e' :: r | 'E' :: r => isExponent r
    | _ => false

/-- A floating-point number; one that is too large is refused. -/
def readFloat? (cs : List Char) : Option Binary :=
  if ["inf", "nan"].contains (String.ofList (dropSign cs)) then Binary.ofText? .double cs
  else if isFloat cs then
    (Binary.ofText? .double (dropUnderscores cs)).filter (fun x => x ≠ .infinite false)
  else none

/-- The number of exactly `n` digits at the start of a text. -/
def readFixed? (n : Nat) (cs : List Char) : Option (Nat × List Char) :=
  let ds := cs.take n
  if ds.length = n && ds.all Char.isDigit then some (Text.digitsValue ds, cs.drop n) else none

/-- Passes over a date. -/
def skipDate? (cs : List Char) : Option (List Char) := do
  let (y, r) ← readFixed? 4 cs
  match r with
  | '-' :: r =>
    let (m, r) ← readFixed? 2 r
    match r with
    | '-' :: r =>
      let (d, r) ← readFixed? 2 r
      if (Date.mk y m d).isValid then some r else none
    | _ => none
  | _ => none

/-- Passes over hours and minutes. -/
def skipMinutes? (cs : List Char) : Option (List Char) := do
  let (h, r) ← readFixed? 2 cs
  match r with
  | ':' :: r =>
    let (m, r) ← readFixed? 2 r
    if h < 24 && m < 60 then some r else none
  | _ => none

/-- Passes over a time of day. -/
def skipTime? (cs : List Char) : Option (List Char) := do
  match ← skipMinutes? cs with
  | ':' :: r =>
    let (s, r) ← readFixed? 2 r
    if 60 < s then none
    else match r with
      | '.' :: r =>
        if (r.takeWhile Char.isDigit).isEmpty then none else some (r.dropWhile Char.isDigit)
      | r => some r
  | _ => none

/-- Whether a text is a time of day with or without a zone. -/
def isZonedTime (cs : List Char) : Bool :=
  match skipTime? cs with
  | some [] | some ['Z'] | some ['z'] => true
  | some ('+' :: r) | some ('-' :: r) => skipMinutes? r = some []
  | _ => false

/-- Whether a word is a date, a time, or both with a letter between them. -/
def isMoment (cs : List Char) : Bool :=
  match skipDate? cs with
  | some [] => true
  | some ('T' :: r) | some ('t' :: r) => isZonedTime r
  | some _ => false
  | none => skipTime? cs = some []

/-- The value of a word, and what is left behind it. A time may follow its date behind a blank. -/
def readWord? (cs : List Char) : Option (Toml × List Char) :=
  let word := cs.takeWhile isWordChar
  let rest := cs.dropWhile isWordChar
  if word = "true".toList then some (.boolean true, rest)
  else if word = "false".toList then some (.boolean false, rest)
  else match readInteger? word with
    | some n => some (.integer n, rest)
    | none =>
      match readFloat? word with
      | some x => some (.float x, rest)
      | none =>
        if isMoment word then
          match skipDate? word, rest with
          | some [], ' ' :: d :: r =>
            if d.isDigit then
              if isZonedTime ((d :: r).takeWhile isWordChar) then
                some (.moment, (d :: r).dropWhile isWordChar)
              else none
            else some (.moment, rest)
          | _, _ => some (.moment, rest)
        else none

end LiveTail.Toml
