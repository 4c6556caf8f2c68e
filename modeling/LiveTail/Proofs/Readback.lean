import LiveTail.Json.Record
/-! The words of a JSON text are read back as they were written: a text in quotes, whatever
characters it has, and a whole number that a word of 64 bits holds, with a sign or without. -/
namespace LiveTail

namespace Text

theorem hexDigit?_digitChar : ∀ d < 16, hexDigit? d.digitChar = some d := by decide

theorem padStart_hexNumeral {n : Nat} (hn : n < 256) :
    padStart 4 '0' (hexNumeral n) = ['0', '0', (n / 16).digitChar, (n % 16).digitChar] := by
  by_cases hlt : n < 16
  · have hdigits : hexNumeral n = [n.digitChar] := Nat.toDigits_of_lt_base hlt
    have hhigh : n / 16 = 0 := by omega
    have hlow : n % 16 = n := by omega
    rw [hdigits, hhigh, hlow]
    rfl
  · have hdigits : hexNumeral n = [(n / 16).digitChar, (n % 16).digitChar] := by
      rw [hexNumeral, Nat.toDigits_of_base_le (by decide) (by omega),
        Nat.toDigits_of_lt_base (by omega), List.singleton_append]
    rw [hdigits]
    rfl

/-- The number that digits stand for behind the digits of `n`. -/
def digitsFrom (n : Nat) (cs : List Char) : Nat := cs.foldl (fun n c => n * 10 + digitValue c) n

theorem digitsFrom_cons (n : Nat) (c : Char) (cs : List Char) :
    digitsFrom n (c :: cs) = digitsFrom (n * 10 + digitValue c) cs := by
  rw [digitsFrom, List.foldl_cons, digitsFrom]

theorem le_digitsFrom (n : Nat) (cs : List Char) : n ≤ digitsFrom n cs := by
  induction cs generalizing n with
  | nil => exact Nat.le_refl n
  | cons c cs ih =>
    have hstep := ih (n * 10 + digitValue c)
    rw [digitsFrom_cons]
    omega

theorem digitsFrom_numeral (n : Nat) : digitsFrom 0 (numeral n) = n := by
  have hsame : digitsFrom 0 (numeral n) = Nat.ofDigitChars 10 (Nat.toDigits 10 n) 0 := by
    rw [Nat.ofDigitChars_eq_foldl, digitsFrom, numeral]
    congr 1
    funext m c
    rw [digitValue, Nat.mul_comm]
  rw [hsame, Nat.ofDigitChars_ten_toDigits]

theorem isDigit_of_mem_numeral {n : Nat} {c : Char} (h : c ∈ numeral n) : c.isDigit = true :=
  Nat.isDigit_of_mem_toDigits (by decide) (by decide) h

theorem numeral_eq_cons {n : Nat} (hn : n ≠ 0) : ∃ c cs, numeral n = c :: cs ∧ c ≠ '0' := by
  induction n using Nat.strongRecOn with
  | ind n ih =>
    by_cases hlt : n < 10
    · refine ⟨n.digitChar, [], Nat.toDigits_of_lt_base hlt, ?_⟩
      intro hzero
      have hvalue := Nat.toNat_digitChar_sub_48_of_lt_ten hlt
      rw [hzero] at hvalue
      exact hn hvalue.symm
    · -- the first digit is that of the number without its last digit
      obtain ⟨c, cs, hcs, hc⟩ := ih (n / 10) (by omega) (by omega)
      refine ⟨c, cs ++ [(n % 10).digitChar], ?_, hc⟩
      rw [numeral, Nat.toDigits_of_base_le (by decide) (by omega), ← numeral, hcs,
        List.cons_append]

end Text

namespace Json

/-! ### Strings -/

@[simp] theorem push_ok (c : Char) (cs r : List Char) :
    push c (.ok (cs, r)) = .ok (c :: cs, r) := rfl

theorem hex4?_digitChar {n : Nat} (hn : n < 256) :
    hex4? '0' '0' (n / 16).digitChar (n % 16).digitChar = some n := by
  have hzero : Text.hexDigit? '0' = some 0 := by decide
  have hhigh := Text.hexDigit?_digitChar (n / 16) (by omega)
  have hlow := Text.hexDigit?_digitChar (n % 16) (by omega)
  simp only [hex4?, hzero, hhigh, hlow, bind, Option.bind, pure]
  congr 1
  omega

theorem readString_letter {l c : Char} (r : List Char) (h : Quoted.unletter? l = some c) :
    readString ('\\' :: l :: r) = push c (readString r) := by
  rw [readString.eq_def]
  simp [h]

theorem readString_hex {h₁ h₂ h₃ h₄ : Char} {n : Nat} (r : List Char)
    (h : hex4? h₁ h₂ h₃ h₄ = some n) (hn : n < 0xD800) :
    readString ('\\' :: 'u' :: h₁ :: h₂ :: h₃ :: h₄ :: r) = push (.ofNat n) (readString r) := by
  have hletter : Quoted.unletter? 'u' = none := by decide
  have hlow : isLowSurrogate n = false := by simp [isLowSurrogate]; omega
  have hhigh : isHighSurrogate n = false := by simp [isHighSurrogate]; omega
  rw [readString.eq_def]
  simp [hletter, h, hlow, hhigh]

theorem readString_plain {c : Char} (r : List Char) (hquote : c ≠ '"') (hslash : c ≠ '\\')
    (hc : ¬ c.toNat < 0x20) : readString (c :: r) = push c (readString r) := by
  rw [readString.eq_def]
  simp only [hquote, hslash, hc, if_false]

theorem readString_escape (c : Char) (r : List Char) :
    readString (Quoted.escape c ++ r) = push c (readString r) := by
  unfold Quoted.escape
  cases hl : Quoted.letter? c with
  | some l => exact readString_letter r (Quoted.unletter?_letter? hl)
  | none =>
    by_cases hc : c.toNat < 0x20
    · have hread := readString_hex r (hex4?_digitChar (n := c.toNat) (by omega)) (by omega)
      rw [Char.ofNat_toNat] at hread
      simp only [hc, if_true]
      rw [Text.padStart_hexNumeral (by omega)]
      exact hread
    · have hquote : c ≠ '"' := by
        rintro rfl
        simp [Quoted.letter?] at hl
      have hslash : c ≠ '\\' := by
        rintro rfl
        simp [Quoted.letter?] at hl
      simp only [hc, if_false]
      exact readString_plain r hquote hslash hc

/-- Behind its opening quote a text ends at its own closing quote, and is read as it was. -/
theorem readString_encode (cs r : List Char) :
    readString (Quoted.encode cs ++ '"' :: r) = .ok (cs, r) := by
  induction cs with
  | nil =>
    rw [Quoted.encode, List.flatMap_nil, List.nil_append, readString.eq_def]
    rfl
  | cons c cs ih =>
    have hencode : Quoted.encode (c :: cs) = Quoted.escape c ++ Quoted.encode cs :=
      List.flatMap_cons
    rw [hencode, List.append_assoc, readString_escape, ih, push_ok]

theorem quote_append (s : String) (r : List Char) :
    quote s ++ r = '"' :: (Quoted.encode s.toList ++ '"' :: r) := by
  simp [quote]

/-! ### Whole numbers -/

/-- Nothing at the beginning of a text carries on a number. -/
def endsNumber : List Char → Bool
  | [] => true
  | c :: _ => !c.isDigit && c ≠ '.' && c ≠ 'e' && c ≠ 'E'

theorem startsDigit_of_endsNumber {r : List Char} (h : endsNumber r = true) :
    startsDigit r = false := by
  cases r with
  | nil => rfl
  | cons c r =>
    simp [endsNumber] at h
    exact h.1.1.1

theorem gather_append (n : Nat) (ds r : List Char) (hds : ∀ c ∈ ds, c.isDigit = true)
    (hlimit : Text.digitsFrom n ds < significandLimit) :
    gather n (ds ++ r) = gather (Text.digitsFrom n ds) r := by
  induction ds generalizing n with
  | nil => rfl
  | cons c ds ih =>
    rw [Text.digitsFrom_cons] at hlimit ⊢
    -- further digits only make the number greater, so this one is within the limit as well
    have hstep := Text.le_digitsFrom (n * 10 + Text.digitValue c) ds
    have hnext : n * 10 + Text.digitValue c < significandLimit := by omega
    have hc : c.isDigit = true := hds c List.mem_cons_self
    rw [List.cons_append, gather, if_pos (by simp [hc, hnext])]
    exact ih _ (fun d hd => hds d (List.mem_cons_of_mem _ hd)) hlimit

theorem gather_of_startsDigit (n : Nat) {r : List Char} (h : startsDigit r = false) :
    gather n r = (n, r) := by
  cases r with
  | nil => rfl
  | cons c r =>
    have hc : c.isDigit = false := h
    rw [gather, if_neg (by simp [hc])]

/-- The digits of a number are read whatever its sign is, and what follows them decides. -/
theorem readNumber_numeral_append (negative : Bool) {n : Nat} (hn : n < significandLimit)
    {r : List Char} (h : startsDigit r = false) :
    readNumber negative (Text.numeral n ++ r) = readTail negative n r := by
  by_cases hzero : n = 0
  · subst hzero
    have hnumeral : Text.numeral 0 = ['0'] := rfl
    rw [hnumeral, List.singleton_append, readNumber]
    simp only [h, if_true, Bool.false_eq_true, if_false]
  · obtain ⟨c, cs, hcs, hc⟩ := Text.numeral_eq_cons hzero
    have hdigits : ∀ d ∈ c :: cs, d.isDigit = true := fun d hd =>
      Text.isDigit_of_mem_numeral (hcs ▸ hd)
    have hvalue : Text.digitsFrom (Text.digitValue c) cs = n := by
      have hfrom := Text.digitsFrom_numeral n
      rwa [hcs, Text.digitsFrom_cons, Nat.zero_mul, Nat.zero_add] at hfrom
    have hgather : gather (Text.digitValue c) (cs ++ r) = (n, r) := by
      rw [gather_append _ cs r (fun d hd => hdigits d (List.mem_cons_of_mem _ hd))
        (hvalue.symm ▸ hn), hvalue, gather_of_startsDigit n h]
    rw [hcs, List.cons_append, readNumber]
    simp only [hc, hdigits c List.mem_cons_self, hgather, h, if_true, if_false,
      Bool.false_eq_true]

theorem readTail_of_endsNumber (negative : Bool) (n : Nat) {r : List Char}
    (h : endsNumber r = true) : readTail negative n r = .ok (wholeNumber negative n, r) := by
  unfold readTail
  split
  · simp [endsNumber] at h
  · simp [endsNumber] at h
  · simp [endsNumber] at h
  · rfl

theorem readNumber_numeral (negative : Bool) {n : Nat} (hn : n < significandLimit)
    {r : List Char} (h : endsNumber r = true) :
    readNumber negative (Text.numeral n ++ r) = .ok (wholeNumber negative n, r) := by
  rw [readNumber_numeral_append negative hn (startsDigit_of_endsNumber h)]
  exact readTail_of_endsNumber negative n h

/-! ### Scalars -/

theorem ne_of_isDigit {c d : Char} (hc : c.isDigit = true) (hd : d.isDigit = false) : c ≠ d := by
  rintro rfl
  rw [hc] at hd
  cases hd

theorem isSpace_of_isDigit {c : Char} (hc : c.isDigit = true) : isSpace c = false := by
  have hne {d : Char} (hd : d.isDigit = false) : c ≠ d := ne_of_isDigit hc hd
  simp [isSpace, hne (by decide : ' '.isDigit = false), hne (by decide : '\n'.isDigit = false),
    hne (by decide : '\t'.isDigit = false), hne (by decide : '\r'.isDigit = false)]

theorem readScalar_of_isDigit {c : Char} (hc : c.isDigit = true) (r : List Char) :
    readScalar c r = (readNumber false (c :: r)).map (fun p => (.number p.1, p.2)) := by
  unfold readScalar
  rw [if_neg (ne_of_isDigit hc (by decide)), if_neg (ne_of_isDigit hc (by decide)),
    if_neg (ne_of_isDigit hc (by decide)), if_neg (ne_of_isDigit hc (by decide)), if_pos hc]

end Json

end LiveTail
