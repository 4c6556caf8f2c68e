import LiveTail.Json.Reader
/-! Passing over the value of an unknown field. Less is asked of it than of a value that is kept: it
may be nested at any depth, its numbers have any size, and escapes need not form characters. -/
namespace LiveTail.Json

/-- Passes over a string behind its opening quote. -/
def skipString : List Char → Except Stop (List Char)
  | [] => .error (.here .endInString [])
  | c :: r =>
    if c = '"' then .ok r
    else if c = '\\' then
      match r with
      | [] => .error (.here .endInString [])
      | l :: r =>
        if (Quoted.unletter? l).isSome then skipString r
        else if l = 'u' then
          match r with
          | h₁ :: h₂ :: h₃ :: h₄ :: r =>
            if (hex4? h₁ h₂ h₃ h₄).isSome then skipString r
            else .error (hexStop (h₁ :: h₂ :: h₃ :: h₄ :: r))
          | r => .error (hexStop r)
        else .error (.next .invalidEscape (l :: r))
    else if c.toNat < 0x20 then .error (.here .controlCharacter (c :: r))
    else skipString r

/-- Passes over an exponent behind its letter. -/
def skipExponent (cs : List Char) : Except Stop (List Char) :=
  let cs := match cs with
    | '+' :: r | '-' :: r => r
    | r => r
  if startsDigit cs then .ok (cs.dropWhile Char.isDigit) else .error (.next .invalidNumber cs)

/-- Passes over what follows the whole part of a number. -/
def skipTail (cs : List Char) : Except Stop (List Char) :=
  match cs with
  | '.' :: r =>
    if startsDigit r then
      match r.dropWhile Char.isDigit with
      | 'e' :: r | 'E' :: r => skipExponent r
      | r => .ok r
    else .error (.next .invalidNumber r)
  | 'e' :: r | 'E' :: r => skipExponent r
  | r => .ok r

/-- Passes over a number from its first digit on. -/
def skipNumber (cs : List Char) : Except Stop (List Char) :=
  match cs with
  | '0' :: r => if startsDigit r then .error (.next .invalidNumber r) else skipTail r
  | cs =>
    if startsDigit cs then skipTail (cs.dropWhile Char.isDigit)
    else .error (.next .invalidNumber cs)

/-- Passes over a value that is neither an array nor an object. -/
def skipScalar (c : Char) (r : List Char) : Except Stop (List Char) :=
  if c = 'n' then readLiteral ['u', 'l', 'l'] r
  else if c = 't' then readLiteral ['r', 'u', 'e'] r
  else if c = 'f' then readLiteral ['a', 'l', 's', 'e'] r
  else if c = '-' then skipNumber r
  else if c.isDigit then skipNumber (c :: r)
  else if c = '"' then skipString r
  else .error (.next .expectedValue (c :: r))

mutual

/-- Passes over a value. -/
def skipValue : Nat → List Char → Except Stop (List Char)
  | 0, cs => .error (.next .endInValue cs)
  | fuel + 1, cs =>
    match skipSpace cs with
    | [] => .error (.next .endInValue [])
    | c :: r =>
      if c = '[' then
        match skipSpace r with
        | [] => .error (.next .endInList [])
        | d :: r => if d = ']' then .ok r else skipItems fuel (d :: r)
      else if c = '\x7b' then
        match skipSpace r with
        | [] => .error (.next .endInObject [])
        | d :: r => if d = '\x7d' then .ok r else skipMembers fuel (d :: r)
      else skipScalar c r

/-- Passes over at least one item and the closing bracket. -/
def skipItems : Nat → List Char → Except Stop (List Char)
  | 0, cs => .error (.next .endInList cs)
  | fuel + 1, cs => do
    let r ← skipValue fuel cs
    match skipSpace r with
    | [] => .error (.next .endInList [])
    | c :: r =>
      if c = ']' then .ok r
      else if c = ',' then skipItems fuel r
      else .error (.next .expectedListEnd (c :: r))

/-- Passes over at least one member and the closing brace. -/
def skipMembers : Nat → List Char → Except Stop (List Char)
  | 0, cs => .error (.next .endInObject cs)
  | fuel + 1, cs => do
    match skipSpace cs with
    | [] => .error (.next .endInObject [])
    | c :: r =>
      if c = '"' then
        let r ← skipString r
        let r ← readColon r
        let r ← skipValue fuel r
        match skipSpace r with
        | [] => .error (.next .endInObject [])
        | c :: r =>
          if c = '\x7d' then .ok r
          else if c = ',' then skipMembers fuel r
          else .error (.next .expectedObjectEnd (c :: r))
      else .error (.next .keyNotText (c :: r))

end

/-- Passes over a value inside other values. -/
def skipNested (cs : List Char) : Except Stop (List Char) := skipValue (enough cs) cs

end LiveTail.Json
