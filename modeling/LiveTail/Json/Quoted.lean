import LiveTail.Text.Numeral
/-! JSON strings: quotes, backslashes and control characters are escaped, all else stands as it
is. -/
namespace LiveTail.Json.Quoted

/-- The letter that stands for a character behind a backslash. -/
def letter? (c : Char) : Option Char :=
  if c = '"' then some '"'
  else if c = '\\' then some '\\'
  else if c = '\x08' then some 'b'
  else if c = '\x0c' then some 'f'
  else if c = '\n' then some 'n'
  else if c = '\r' then some 'r'
  else if c = '\t' then some 't'
  else none

/-- The written form of one character. -/
def escape (c : Char) : List Char :=
  match letter? c with
  | some l => ['\\', l]
  | none =>
    if c.toNat < 0x20 then '\\' :: 'u' :: Text.padStart 4 '0' (Text.hexNumeral c.toNat) else [c]

/-- The written form of a text, without the quotes around it. -/
def encode (cs : List Char) : List Char := cs.flatMap escape

/-- The character that a letter stands for behind a backslash. -/
def unletter? (l : Char) : Option Char :=
  if l = '"' then some '"'
  else if l = '\\' then some '\\'
  else if l = '/' then some '/'
  else if l = 'b' then some '\x08'
  else if l = 'f' then some '\x0c'
  else if l = 'n' then some '\n'
  else if l = 'r' then some '\r'
  else if l = 't' then some '\t'
  else none

theorem unletter?_letter? {c l : Char} (h : letter? c = some l) : unletter? l = some c := by
  simp only [letter?] at h
  split at h
  · cases h; rename_i hc; subst hc; rfl
  split at h
  · cases h; rename_i hc; subst hc; rfl
  split at h
  · cases h; rename_i hc; subst hc; rfl
  split at h
  · cases h; rename_i hc; subst hc; rfl
  split at h
  · cases h; rename_i hc; subst hc; rfl
  split at h
  · cases h; rename_i hc; subst hc; rfl
  split at h
  · cases h; rename_i hc; subst hc; rfl
  · cases h

end LiveTail.Json.Quoted
