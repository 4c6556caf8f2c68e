import LiveTail.Json.Fault
import LiveTail.Number.Word
/-! The words of a JSON text: white space, literal names, numbers and strings. A reader takes a text
and gives what it read with the text that is left; a fault keeps the text that was left at it, from
which its position follows. -/
namespace LiveTail.Json

/-- A fault, the text that was left, and how many bytes of that text count as read. A fault without
a place gets one from the object or array around it. -/
structure Stop where
  cause : Cause
  left : List Char
  ahead : Nat
  placed : Bool

namespace Stop

/-- A fault right before the text that is left. -/
def here (cause : SyntaxFault) (left : List Char) : Stop := ⟨.malformed cause, left, 0, true⟩

/-- A fault at the next byte of the text that is left. -/
def next (cause : SyntaxFault) (left : List Char) : Stop := ⟨.malformed cause, left, 1, true⟩

/-- A value of another shape, noted right behind it. -/
def shape (cause : ShapeFault) (left : List Char) : Stop := ⟨.mismatched cause, left, 0, true⟩

/-- A value of another shape, to be placed at the end of what is around it. -/
def unplaced (cause : ShapeFault) (left : List Char) : Stop := ⟨.mismatched cause, left, 0, false⟩

end Stop

namespace Position

/-- The position behind one more character. -/
def advance (p : Position) (c : Char) : Position :=
  if c = '\n' then ⟨p.line + 1, 0⟩ else ⟨p.line, p.column + c.utf8Size⟩

/-- The position behind some more bytes of a text, as far as the text goes. -/
def advanceBytes (p : Position) : Nat → List Char → Position
  | 0, _ => p
  | _, [] => p
  | n, c :: r =>
    if c.utf8Size ≤ n then (p.advance c).advanceBytes (n - c.utf8Size) r
    else ⟨p.line, p.column + n⟩

end Position

/-- Where in a text a fault is. -/
def Stop.locate (text : List Char) (s : Stop) : Fault :=
  let read := text.take (text.length - s.left.length)
  ⟨s.cause, some ((read.foldl Position.advance ⟨1, 0⟩).advanceBytes s.ahead s.left)⟩

/-- White space between the words. -/
def isSpace (c : Char) : Bool := c = ' ' || c = '\n' || c = '\t' || c = '\r'

def skipSpace (cs : List Char) : List Char := cs.dropWhile isSpace

/-- Reads the rest of a literal name. -/
def readLiteral : List Char → List Char → Except Stop (List Char)
  | [], cs => .ok cs
  | _ :: _, [] => .error (.here .endInValue [])
  | e :: es, c :: cs =>
    if c = e then readLiteral es cs else .error (.next .expectedLiteral (c :: cs))

/-! ### Numbers -/

/-- The limit of the digits that are gathered: further ones only move the exponent. -/
def significandLimit : Nat := Word.count 64

/-- Gathers digits, up to the first that would pass the limit. -/
def gather (n : Nat) : List Char → Nat × List Char
  | [] => (n, [])
  | c :: cs =>
    if c.isDigit && n * 10 + Text.digitValue c < significandLimit then
      gather (n * 10 + Text.digitValue c) cs
    else (n, c :: cs)

/-- Whether a digit comes next. -/
def startsDigit : List Char → Bool
  | c :: _ => c.isDigit
  | [] => false

/-- Multiplies or divides by a power of ten, rounding after each step: in one step up to `10 ^ 308`,
and with divisions by `10 ^ 308` before it beyond. None is an overflow. -/
def scale (x : Binary) (e : Int) : Option Binary :=
  if _h : e < -308 then
    if x.isZero then some x
    else scale (x.div .double (.ofDecimal .double false 1 308)) (e + 308)
  else if 308 < e then
    if x.isZero then some x else none
  else if 0 ≤ e then
    let y := x.mul .double (.ofDecimal .double false 1 e)
    if y.isFinite then some y else none
  else some (x.div .double (.ofDecimal .double false 1 (-e)))
termination_by e.natAbs
decreasing_by omega

/-- The floating-point number of a significand and a decimal exponent. -/
def floatOf (negative : Bool) (significand : Nat) (exponent : Int) (left : List Char) :
    Except Stop (JsonNumber × List Char) :=
  match scale (.ofInt .double significand) exponent with
  | some x => .ok (.float (if negative then x.negate else x), left)
  | none => .error (.here .numberOutOfRange left)

/-- The largest exponent that is gathered. -/
def exponentLimit : Nat := Word.count 31

/-- Gathers the digits of an exponent, up to the first that would reach the limit. -/
def gatherExponent (n : Nat) : List Char → Nat × List Char
  | [] => (n, [])
  | c :: cs =>
    if c.isDigit && n * 10 + Text.digitValue c < exponentLimit then
      gatherExponent (n * 10 + Text.digitValue c) cs
    else (n, c :: cs)

/-- An exponent within 32 bits. -/
def clampExponent (e : Int) : Int := max (-(Word.count 31 : Int)) (min e (Word.count 31 - 1))

/-- Reads an exponent, behind its letter. -/
def readExponent (negative : Bool) (significand : Nat) (exponent : Int) (cs : List Char) :
    Except Stop (JsonNumber × List Char) :=
  let (down, cs) := match cs with
    | '+' :: r => (false, r)
    | '-' :: r => (true, r)
    | r => (false, r)
  match cs with
  | [] => .error (.here .endInValue [])
  | c :: r =>
    if c.isDigit then
      match gatherExponent (Text.digitValue c) r with
      | (n, d :: r) =>
        if d.isDigit then
          if significand ≠ 0 && !down then .error (.here .numberOutOfRange r)
          else .ok (.float (Binary.zero .double negative), r.dropWhile Char.isDigit)
        else
          let e : Int := n
          floatOf negative significand (clampExponent (if down then exponent - e else exponent + e))
            (d :: r)
      | (n, []) =>
        let e : Int := n
        floatOf negative significand
          (clampExponent (if down then exponent - e else exponent + e)) []
    else .error (.next .invalidNumber (c :: r))

/-- What may follow the digits: an exponent, or the end of the number. -/
def readScale (negative : Bool) (significand : Nat) (exponent : Int) (cs : List Char) :
    Except Stop (JsonNumber × List Char) :=
  match cs with
  | 'e' :: r | 'E' :: r => readExponent negative significand exponent r
  | cs => floatOf negative significand exponent cs

/-- How many digits come next. -/
def digitCount (cs : List Char) : Nat := (cs.takeWhile Char.isDigit).length

/-- Reads a fraction, behind its point. -/
def readFraction (negative : Bool) (significand : Nat) (exponent : Int) (cs : List Char) :
    Except Stop (JsonNumber × List Char) :=
  match gather significand cs with
  | (n, r) =>
    let places : Int := digitCount cs - digitCount r
    if startsDigit r then readScale negative n (exponent - places) (r.dropWhile Char.isDigit)
    else if places = 0 then
      .error (.next (if r.isEmpty then .endInValue else .invalidNumber) r)
    else readScale negative n (exponent - places) r

/-- An integer, or a floating-point number if the integer has no room: below `-2 ^ 63`, and the
negative zero. -/
def wholeNumber (negative : Bool) (n : Nat) : JsonNumber :=
  if !negative then .integer n
  else if 0 < n && n ≤ Word.count 63 then .integer (-n)
  else .float (.negate (.ofInt .double n))

/-- Reads what follows the whole part of a number. -/
def readTail (negative : Bool) (n : Nat) (cs : List Char) : Except Stop (JsonNumber × List Char) :=
  match cs with
  | '.' :: r => readFraction negative n 0 r
  | 'e' :: r | 'E' :: r => readExponent negative n 0 r
  | cs => .ok (wholeNumber negative n, cs)

/-- Reads a number from its first digit on. -/
def readNumber (negative : Bool) (cs : List Char) : Except Stop (JsonNumber × List Char) :=
  match cs with
  | [] => .error (.here .endInValue [])
  | c :: r =>
    if c = '0' then
      if startsDigit r then .error (.next .invalidNumber r) else readTail negative 0 r
    else if c.isDigit then
      match gather (Text.digitValue c) r with
      | (n, r) =>
        if startsDigit r then
          let extra := r.takeWhile Char.isDigit
          match r.dropWhile Char.isDigit with
          | '.' :: r => readFraction negative n extra.length r
          | r => readScale negative n extra.length r
        else readTail negative n r
    else .error (.next .invalidNumber (c :: r))

/-! ### Strings -/

/-- The number of four hexadecimal digits. -/
def hex4? (a b c d : Char) : Option Nat := do
  let a ← Text.hexDigit? a
  let b ← Text.hexDigit? b
  let c ← Text.hexDigit? c
  let d ← Text.hexDigit? d
  return ((a * 16 + b) * 16 + c) * 16 + d

def isHighSurrogate (n : Nat) : Bool := 0xD800 ≤ n && n < 0xDC00

def isLowSurrogate (n : Nat) : Bool := 0xDC00 ≤ n && n < 0xE000

/-- The fault of an escape that has no four hexadecimal digits. -/
def hexStop (cs : List Char) : Stop :=
  if (String.ofList cs).utf8ByteSize < 4 then .here .endInString []
  else ⟨.malformed .invalidEscape, cs, 4, true⟩

/-- Adds a character in front of what a reader of a string gives. -/
def push (c : Char) : Except Stop (List Char × List Char) → Except Stop (List Char × List Char)
  | .ok (s, r) => .ok (c :: s, r)
  | .error e => .error e

/-- Reads a string behind its opening quote. -/
def readString : List Char → Except Stop (List Char × List Char)
  | [] => .error (.here .endInString [])
  | c :: r =>
    if c = '"' then .ok ([], r)
    else if c = '\\' then
      match r with
      | [] => .error (.here .endInString [])
      | l :: r =>
        match Quoted.unletter? l with
        | some x => push x (readString r)
        | none =>
          if l = 'u' then
            match r with
            | h₁ :: h₂ :: h₃ :: h₄ :: r =>
              match hex4? h₁ h₂ h₃ h₄ with
              | none => .error (hexStop (h₁ :: h₂ :: h₃ :: h₄ :: r))
              | some n =>
                if isLowSurrogate n then .error (.here .loneSurrogate r)
                else if isHighSurrogate n then
                  match r with
                  | [] => .error (.here .endInString [])
                  | b :: r =>
                    if b = '\\' then
                      match r with
                      | [] => .error (.here .endInString [])
                      | u :: r =>
                        if u = 'u' then
                          match r with
                          | l₁ :: l₂ :: l₃ :: l₄ :: r =>
                            match hex4? l₁ l₂ l₃ l₄ with
                            | none => .error (hexStop (l₁ :: l₂ :: l₃ :: l₄ :: r))
                            | some m =>
                              if isLowSurrogate m then
                                push (.ofNat (0x10000 + (n - 0xD800) * 0x400 + (m - 0xDC00)))
                                  (readString r)
                              else .error (.here .loneSurrogate r)
                          | r => .error (hexStop r)
                        else .error (.next .endedEscape (u :: r))
                    else .error (.next .endedEscape (b :: r))
                else push (.ofNat n) (readString r)
            | r => .error (hexStop r)
          else .error (.next .invalidEscape (l :: r))
    else if c.toNat < 0x20 then .error (.next .controlCharacter (c :: r))
    else push c (readString r)

end LiveTail.Json
