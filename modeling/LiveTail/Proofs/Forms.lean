import LiveTail.Time.Reader
import Mathlib.Data.List.TakeWhile
/-! The forms in which an instant can be written do not overlap: no text is a date with a zone, a
number of milliseconds and a date without a zone in more than one way, so it does not matter in
which order they are tried. A number has no colon. A date with a zone is read by the looser readers
of the other dates in the very same steps, and then its zone is left over. -/
namespace LiveTail

namespace Text

theorem trimStart_append {blank cs : List Char} (hblank : ∀ c ∈ blank, isBlank c = true) {c : Char}
    (hc : isBlank c = false) : trimStart (blank ++ c :: cs) = c :: cs := by
  rw [trimStart, List.dropWhile_append_of_pos hblank, List.dropWhile_cons_of_neg (by simp [hc])]

theorem trimStart_of_not_blank {c : Char} (cs : List Char) (hc : isBlank c = false) :
    trimStart (c :: cs) = c :: cs :=
  trimStart_append (fun _ h => absurd h List.not_mem_nil) hc

theorem isBlank_of_isDigit {c : Char} (hc : c.isDigit = true) : isBlank c = false := by
  have hrange : 48 ≤ c.toNat ∧ c.toNat ≤ 57 := by
    simpa [Char.isDigit, UInt32.le_iff_toNat_le] using hc
  simp only [isBlank, Bool.or_eq_false_iff, Bool.and_eq_false_iff, decide_eq_false_iff_not,
    beq_eq_false_iff_ne]
  omega

/-- A whole number is written by digits behind an optional sign. -/
inductive Numeral : List Char → Int → Prop
  | plain {ds} : ds ≠ [] → (∀ c ∈ ds, c.isDigit = true) → Numeral ds (digitsValue ds)
  | plus {ds} : ds ≠ [] → (∀ c ∈ ds, c.isDigit = true) → Numeral ('+' :: ds) (digitsValue ds)
  | minus {ds} : ds ≠ [] → (∀ c ∈ ds, c.isDigit = true) → Numeral ('-' :: ds) (-digitsValue ds)

theorem readDigits_eq_some_iff (negative : Bool) (ds : List Char) (n : Int) :
    (if (ds.isEmpty || !ds.all Char.isDigit) = true then none
      else if Word.holdsSigned (if negative = true then -(digitsValue ds : Int) else digitsValue ds)
      then some (if negative = true then -(digitsValue ds : Int) else digitsValue ds)
      else none) = some n ↔
    (ds ≠ [] ∧ ∀ c ∈ ds, c.isDigit = true) ∧
      n = (if negative = true then -(digitsValue ds : Int) else digitsValue ds) ∧
      Word.holdsSigned n = true := by
  by_cases hds : ds ≠ [] ∧ ∀ c ∈ ds, c.isDigit = true
  · have hread : (ds.isEmpty || !ds.all Char.isDigit) = false := by simpa using hds
    rw [hread, if_neg Bool.false_ne_true, iff_true_intro hds, true_and]
    grind
  · have hread : (ds.isEmpty || !ds.all Char.isDigit) = true := by
      by_contra hfalse
      exact hds (by simpa using hfalse)
    rw [if_pos hread]
    simp only [hds, false_and, reduceCtorEq]

theorem readInt64?_eq_some_iff (cs : List Char) (n : Int) :
    readInt64? cs = some n ↔ Numeral cs n ∧ Word.holdsSigned n = true := by
  constructor
  · intro h
    unfold readInt64? at h
    dsimp only at h
    split at h
    · obtain ⟨⟨hne, hds⟩, rfl, hn⟩ := (readDigits_eq_some_iff false _ n).1 h
      exact ⟨.plus hne hds, hn⟩
    · obtain ⟨⟨hne, hds⟩, rfl, hn⟩ := (readDigits_eq_some_iff true _ n).1 h
      exact ⟨.minus hne hds, hn⟩
    · obtain ⟨⟨hne, hds⟩, rfl, hn⟩ := (readDigits_eq_some_iff false _ n).1 h
      exact ⟨.plain hne hds, hn⟩
  · rintro ⟨hnumeral, hn⟩
    cases hnumeral with
    | plus hne hds => exact (readDigits_eq_some_iff false _ _).2 ⟨⟨hne, hds⟩, rfl, hn⟩
    | minus hne hds => exact (readDigits_eq_some_iff true _ _).2 ⟨⟨hne, hds⟩, rfl, hn⟩
    | plain hne hds =>
      unfold readInt64?
      dsimp only
      split
      · exact absurd (hds '+' List.mem_cons_self) (by decide)
      · exact absurd (hds '-' List.mem_cons_self) (by decide)
      · exact (readDigits_eq_some_iff false _ _).2 ⟨⟨hne, hds⟩, rfl, hn⟩

theorem Numeral.colon_not_mem {cs : List Char} {n : Int} (h : Numeral cs n) : ':' ∉ cs := by
  have hdigits {ds : List Char} (hds : ∀ c ∈ ds, c.isDigit = true) : ':' ∉ ds :=
    fun hmem => absurd (hds ':' hmem) (by decide)
  cases h with
  | plain _ hds => exact hdigits hds
  | plus _ hds => exact List.not_mem_cons_of_ne_of_not_mem (by decide) (hdigits hds)
  | minus _ hds => exact List.not_mem_cons_of_ne_of_not_mem (by decide) (hdigits hds)

end Text

namespace Instant

/-! ### What the readers take -/

section

variable {n : Nat} {c : Char} {cs r : List Char} {x : Nat}

theorem eq_cons_of_readChar? (h : readChar? c cs = some r) : cs = c :: r := by
  unfold readChar? at h
  split at h
  · split at h
    · rename_i hc
      rw [hc, Option.some.inj h]
    · cases h
  · cases h

theorem readFixed?_eq_some (h : readFixed? n cs = some (x, r)) :
    (cs.take n).length = n ∧ (∀ c ∈ cs.take n, c.isDigit = true) ∧
      x = Text.digitsValue (cs.take n) ∧ r = cs.drop n := by
  unfold readFixed? at h
  dsimp only at h
  split at h
  · rename_i hds
    simp only [Bool.and_eq_true, decide_eq_true_eq, List.all_eq_true] at hds
    simp only [Option.some.injEq, Prod.mk.injEq] at h
    exact ⟨hds.1, hds.2, h.1.symm, h.2.symm⟩
  · cases h

theorem exists_digit_of_readFixed? (hn : n ≠ 0) (h : readFixed? n cs = some (x, r)) :
    ∃ c r, cs = c :: r ∧ c.isDigit = true := by
  obtain ⟨hlength, hdigits, -⟩ := readFixed?_eq_some h
  obtain ⟨n, rfl⟩ := Nat.exists_eq_succ_of_ne_zero hn
  cases cs with
  | nil => cases hlength
  | cons c r => exact ⟨c, r, rfl, hdigits c List.mem_cons_self⟩

/-- A fixed number of digits is what the reader of at most as many takes. -/
theorem readUpTo?_of_readFixed? (hn : n ≠ 0) (h : readFixed? n cs = some (x, r)) :
    readUpTo? n cs = some (x, r) := by
  obtain ⟨hlength, hdigits, rfl, rfl⟩ := readFixed?_eq_some h
  have hall : (cs.take n).takeWhile Char.isDigit = cs.take n :=
    List.takeWhile_eq_self_iff.2 hdigits
  have hne : (cs.take n).isEmpty = false := by
    rw [List.isEmpty_eq_false_iff, ← List.length_pos_iff, hlength]
    omega
  simp only [readUpTo?, hall, hne, hlength, Bool.false_eq_true, if_false]

theorem readPart?_of_readFixed? (h : readFixed? 2 cs = some (x, r)) :
    readPart? cs = some (x, r) := by
  obtain ⟨c, r', rfl, hc⟩ := exists_digit_of_readFixed? (by decide) h
  rw [readPart?, Text.trimStart_of_not_blank r' (Text.isBlank_of_isDigit hc)]
  exact readUpTo?_of_readFixed? (by decide) h

theorem readYear?_of_readFixed? (h : readFixed? 4 cs = some (x, r)) :
    readYear? cs = some ((x : Int), r) := by
  obtain ⟨c, r', rfl, hc⟩ := exists_digit_of_readFixed? (by decide) h
  rw [readYear?, Text.trimStart_of_not_blank r' (Text.isBlank_of_isDigit hc)]
  split
  · rename_i heq
    cases heq
    cases hc
  · rename_i heq
    cases heq
    cases hc
  · rw [readUpTo?_of_readFixed? (by decide) h]
    rfl

theorem suffix_of_readUpTo? (h : readUpTo? n cs = some (x, r)) : r <:+ cs := by
  unfold readUpTo? at h
  dsimp only at h
  split at h
  · cases h
  · simp only [Option.some.injEq, Prod.mk.injEq] at h
    exact h.2 ▸ List.drop_suffix _ _

theorem suffix_of_readPart? (h : readPart? cs = some (x, r)) : r <:+ cs :=
  (suffix_of_readUpTo? h).trans (List.dropWhile_suffix _)

theorem suffix_of_readYear? {y : Int} (h : readYear? cs = some (y, r)) : r <:+ cs := by
  have htrim : Text.trimStart cs <:+ cs := List.dropWhile_suffix _
  have hdigits {k : Nat} {ds : List Char} {f : Nat × List Char → Int × List Char}
      (hf : ∀ p, (f p).2 = p.2) (hd : (readUpTo? k ds).map f = some (y, r)) : r <:+ ds := by
    obtain ⟨p, hp, hr⟩ := Option.map_eq_some_iff.1 hd
    have hrest : p.2 = r := by rw [← hf p, hr]
    exact hrest ▸ suffix_of_readUpTo? hp
  unfold readYear? at h
  split at h
  · rename_i heq
    exact ((hdigits (fun _ => rfl) h).trans (List.suffix_cons _ _)).trans (heq ▸ htrim)
  · rename_i heq
    exact ((hdigits (fun _ => rfl) h).trans (List.suffix_cons _ _)).trans (heq ▸ htrim)
  · exact (hdigits (fun _ => rfl) h).trans htrim

theorem suffix_of_separator {s : Separator} (h : s.read? cs = some r) : r <:+ cs := by
  cases s with
  | blank => exact Option.some.inj h ▸ List.dropWhile_suffix _
  | letter => exact eq_cons_of_readChar? h ▸ List.suffix_cons _ _

end

/-! ### Dates and times of day -/

/-- A date is read: a year and two parts behind it, with hyphens between them. -/
inductive ReadsDate (year : List Char → Option (Int × List Char))
    (part : List Char → Option (Nat × List Char)) : List Char → Date → List Char → Prop
  | mk {cs c₁ c₂ c₃ c₄ r y mo d} : year cs = some (y, c₁) → readChar? '-' c₁ = some c₂ →
      part c₂ = some (mo, c₃) → readChar? '-' c₃ = some c₄ → part c₄ = some (d, r) →
      ReadsDate year part cs ⟨y, mo, d⟩ r

/-- A time of day is read, without its fraction: three parts, with colons between them. -/
inductive ReadsClock (part : List Char → Option (Nat × List Char)) :
    List Char → Nat → Nat → Nat → List Char → Prop
  | mk {cs c₁ c₂ c₃ c₄ r h mi s} : part cs = some (h, c₁) → readChar? ':' c₁ = some c₂ →
      part c₂ = some (mi, c₃) → readChar? ':' c₃ = some c₄ → part c₄ = some (s, r) →
      ReadsClock part cs h mi s r

section

variable {year : List Char → Option (Int × List Char)}
  {part : List Char → Option (Nat × List Char)} {cs r r' : List Char} {d d' : Date}
  {h mi s h' mi' s' : Nat}

theorem ReadsDate.unique (hd : ReadsDate year part cs d r) (hd' : ReadsDate year part cs d' r') :
    d = d' ∧ r = r' := by
  cases hd
  cases hd'
  grind

theorem ReadsClock.unique (hc : ReadsClock part cs h mi s r)
    (hc' : ReadsClock part cs h' mi' s' r') : h = h' ∧ mi = mi' ∧ s = s' ∧ r = r' := by
  cases hc
  cases hc'
  grind

theorem ReadsDate.suffix (hd : ReadsDate readYear? readPart? cs d r) : r <:+ cs := by
  cases hd with
  | mk hy h₁ hm h₂ hd =>
    have hchar {c : Char} {a b : List Char} (hab : readChar? c a = some b) : b <:+ a :=
      eq_cons_of_readChar? hab ▸ List.suffix_cons _ _
    exact (suffix_of_readPart? hd).trans <| (hchar h₂).trans <| (suffix_of_readPart? hm).trans <|
      (hchar h₁).trans (suffix_of_readYear? hy)

theorem ReadsClock.colon_mem (hc : ReadsClock readPart? cs h mi s r) : ':' ∈ cs := by
  cases hc with
  | mk hh h₁ =>
    rw [eq_cons_of_readChar? h₁] at hh
    exact (suffix_of_readPart? hh).subset List.mem_cons_self

end

/-- A year of four digits and parts of two, as a date with a zone has them. -/
abbrev readYear4? (cs : List Char) : Option (Int × List Char) :=
  (readFixed? 4 cs).map fun p => ((p.1 : Int), p.2)

theorem ReadsDate.loose {cs r : List Char} {d : Date}
    (hd : ReadsDate readYear4? (readFixed? 2) cs d r) : ReadsDate readYear? readPart? cs d r := by
  cases hd with
  | mk hy h₁ hm h₂ hd =>
    obtain ⟨p, hp, hpair⟩ := Option.map_eq_some_iff.1 hy
    cases hpair
    exact .mk (readYear?_of_readFixed? hp) h₁ (readPart?_of_readFixed? hm) h₂
      (readPart?_of_readFixed? hd)

theorem ReadsClock.loose {cs r : List Char} {h mi s : Nat}
    (hc : ReadsClock (readFixed? 2) cs h mi s r) : ReadsClock readPart? cs h mi s r := by
  cases hc with
  | mk hh h₁ hm h₂ hs =>
    exact .mk (readPart?_of_readFixed? hh) h₁ (readPart?_of_readFixed? hm) h₂
      (readPart?_of_readFixed? hs)

/-- What the steps are by which a date with a zone is read. -/
theorem exists_of_ofZoned? {cs : List Char} {t : Instant} (ht : ofZoned? cs = some t) :
    ∃ d mark c₁ h mi s c₂ n c₃ zone, ReadsDate readYear4? (readFixed? 2) cs d (mark :: c₁) ∧
      (mark = 'T' ∨ mark = 't' ∨ mark = ' ') ∧ ReadsClock (readFixed? 2) c₁ h mi s c₂ ∧
      readFraction? c₂ = some (n, c₃) ∧ readZone? c₃ = some (zone, []) := by
  simp only [ofZoned?, bind, Option.bind_eq_some_iff, Prod.exists] at ht
  obtain ⟨y, a₁, hy, a₂, h₁, mo, a₃, hm, a₄, h₂, d, a₅, hd, ht⟩ := ht
  split at ht
  · cases ht
  rename_i mark c₁
  split at ht
  case isFalse => cases ht
  case isTrue hmark =>
    simp only [Option.bind_eq_some_iff, Prod.exists] at ht
    obtain ⟨h, b₁, hh, b₂, h₃, mi, b₃, hmi, b₄, h₄, s, b₅, hs, n, c₃, hn, zone, r, hzone, ht⟩ := ht
    split at ht
    case isFalse => cases ht
    case isTrue hempty =>
      rw [List.isEmpty_iff.1 hempty] at hzone
      have hyear : readYear4? cs = some ((y : Int), a₁) := by
        rw [readYear4?, hy, Option.map_some]
      have hmarks : mark = 'T' ∨ mark = 't' ∨ mark = ' ' := by simpa [or_assoc] using hmark
      exact ⟨_, mark, c₁, h, mi, s, b₅, n, c₃, zone, .mk hyear h₁ hm h₂ hd, hmarks,
        .mk hh h₃ hmi h₄ hs, hn, hzone⟩

/-- What the steps are by which a date without a zone is read. -/
theorem ofLocal?_eq_some_iff {separator : Separator} {fraction : Bool} {cs : List Char}
    {t : Instant} : ofLocal? separator fraction cs = some t ↔
    ∃ d c₁ c₂ h mi s c₃ n, ReadsDate readYear? readPart? cs d c₁ ∧ separator.read? c₁ = some c₂ ∧
      ReadsClock readPart? c₂ h mi s c₃ ∧
      (if fraction then readFraction? c₃ else some (0, c₃)) = some (n, []) ∧
      ofDateTime? d ⟨h, mi, s, n⟩ 0 = some t := by
  constructor
  · intro ht
    simp only [ofLocal?, bind, Option.bind_eq_some_iff, Prod.exists] at ht
    obtain ⟨y, a₁, hy, a₂, h₁, mo, a₃, hm, a₄, h₂, d, c₁, hd, c₂, hsep, h, b₁, hh, b₂, h₃, mi, b₃,
      hmi, b₄, h₄, s, c₃, hs, ht⟩ := ht
    -- what is left of the two branches for the fraction is the same
    have hrest : ∃ n r, (if fraction then readFraction? c₃ else some (0, c₃)) = some (n, r) ∧
        r.isEmpty = true ∧ ofDateTime? ⟨y, mo, d⟩ ⟨h, mi, s, n⟩ 0 = some t := by
      cases fraction with
      | true =>
        rw [if_pos rfl] at ht
        obtain ⟨⟨n, r⟩, hn, ht⟩ := Option.bind_eq_some_iff.1 ht
        split at ht
        · exact ⟨n, r, hn, ‹_›, ht⟩
        · cases ht
      | false =>
        rw [if_neg Bool.false_ne_true] at ht
        obtain ⟨⟨n, r⟩, hn, ht⟩ := Option.bind_eq_some_iff.1 ht
        split at ht
        · exact ⟨n, r, hn, ‹_›, ht⟩
        · cases ht
    obtain ⟨n, r, hn, hr, ht⟩ := hrest
    rw [List.isEmpty_iff.1 hr] at hn
    exact ⟨_, c₁, c₂, h, mi, s, c₃, n, .mk hy h₁ hm h₂ hd, hsep, .mk hh h₃ hmi h₄ hs, hn, ht⟩
  · rintro ⟨_, c₁, c₂, h, mi, s, c₃, n, ⟨hy, h₁, hm, h₂, hd⟩, hsep, ⟨hh, h₃, hmi, h₄, hs⟩, hn, ht⟩
    simp only [ofLocal?, bind, hy, h₁, hm, h₂, hd, hsep, hh, h₃, hmi, h₄, hs, Option.bind_some]
    cases fraction with
    | true =>
      rw [if_pos rfl] at hn ⊢
      rw [hn]
      exact ht
    | false =>
      cases hn
      exact ht

/-! ### No overlap -/

theorem colon_mem_of_ofLocal? {separator : Separator} {fraction : Bool} {cs : List Char}
    {t : Instant} (ht : ofLocal? separator fraction cs = some t) : ':' ∈ cs := by
  obtain ⟨_, _, _, _, _, _, _, _, hdate, hsep, hclock, -⟩ := ofLocal?_eq_some_iff.1 ht
  exact ((suffix_of_separator hsep).trans hdate.suffix).subset hclock.colon_mem

theorem colon_mem_of_ofZoned? {cs : List Char} {t : Instant} (ht : ofZoned? cs = some t) :
    ':' ∈ cs := by
  obtain ⟨_, _, _, _, _, _, _, _, _, _, hdate, -, hclock, -⟩ := exists_of_ofZoned? ht
  exact hdate.loose.suffix.subset (List.mem_cons_of_mem _ hclock.loose.colon_mem)

theorem readPart?_eq_none {c : Char} (cs : List Char) (hblank : Text.isBlank c = false)
    (hdigit : c.isDigit = false) : readPart? (c :: cs) = none := by
  rw [readPart?, Text.trimStart_of_not_blank cs hblank, readUpTo?]
  simp [hdigit]

theorem ReadsClock.ne_cons {cs r : List Char} {h mi s : Nat} (hc : ReadsClock readPart? cs h mi s r)
    {c : Char} (hblank : Text.isBlank c = false) (hdigit : c.isDigit = false) (cs' : List Char) :
    cs ≠ c :: cs' := by
  rintro rfl
  cases hc with
  | mk hh =>
    rw [readPart?_eq_none cs' hblank hdigit] at hh
    cases hh

/-- What stands behind the date of a text with a zone is read by a separator up to the time of day,
or else not so that a time of day is left. -/
theorem eq_of_separator {separator : Separator} {mark : Char} {c₁ c₂ r r' : List Char}
    {h mi s h' mi' s' : Nat} (hmark : mark = 'T' ∨ mark = 't' ∨ mark = ' ')
    (hzoned : ReadsClock (readFixed? 2) c₁ h mi s r) (hsep : separator.read? (mark :: c₁) = some c₂)
    (hclock : ReadsClock readPart? c₂ h' mi' s' r') : c₂ = c₁ := by
  have hfirst : ∃ c cs, c₁ = c :: cs ∧ c.isDigit = true := by
    cases hzoned with
    | mk hh => exact exists_digit_of_readFixed? (by decide) hh
  obtain ⟨c, cs, rfl, hc⟩ := hfirst
  cases separator with
  | letter =>
    have hread : readChar? 'T' (mark :: c :: cs) = some c₂ := hsep
    exact (List.cons.inj (eq_cons_of_readChar? hread)).2.symm
  | blank =>
    have htrim : Text.trimStart (mark :: c :: cs) = c₂ := Option.some.inj hsep
    rcases hmark with rfl | rfl | rfl
    · exact absurd htrim.symm (hclock.ne_cons (by decide) (by decide) _)
    · exact absurd htrim.symm (hclock.ne_cons (by decide) (by decide) _)
    · rw [← htrim]
      exact Text.trimStart_of_not_blank cs (Text.isBlank_of_isDigit hc)

/-- A date with a zone leaves its zone to a reader that knows none. -/
theorem ofLocal?_of_ofZoned? {cs : List Char} {t : Instant} (ht : ofZoned? cs = some t)
    (separator : Separator) (fraction : Bool) : ofLocal? separator fraction cs = none := by
  rw [Option.eq_none_iff_forall_ne_some]
  intro t' ht'
  obtain ⟨d, mark, c₁, h, mi, s, c₂, n, c₃, zone, hdate, hmark, hclock, hn, hzone⟩ :=
    exists_of_ofZoned? ht
  obtain ⟨_, _, e₁, _, _, _, e₂, n', hdate', hsep, hclock', hn', -⟩ := ofLocal?_eq_some_iff.1 ht'
  obtain ⟨-, rfl⟩ := hdate.loose.unique hdate'
  obtain rfl := eq_of_separator hmark hclock hsep hclock'
  obtain ⟨-, -, -, rfl⟩ := hclock.loose.unique hclock'
  have hnil : c₃ = [] := by
    cases fraction with
    | true =>
      rw [if_pos rfl, hn] at hn'
      cases hn'
      rfl
    | false =>
      cases hn'
      cases hn
      rfl
  rw [hnil] at hzone
  cases hzone

/-- The letter is no white space, so a time of day stands behind one separator only. -/
theorem separator_unique {separator separator' : Separator} {fraction fraction' : Bool}
    {cs : List Char} {t t' : Instant} (ht : ofLocal? separator fraction cs = some t)
    (ht' : ofLocal? separator' fraction' cs = some t') : separator = separator' := by
  have hletter {c₁ c₂ c₂' r : List Char} {h mi s : Nat}
      (hblank : Separator.blank.read? c₁ = some c₂) (hclock : ReadsClock readPart? c₂ h mi s r)
      (hmark : Separator.letter.read? c₁ = some c₂') : False := by
    have htrim : Text.trimStart c₁ = c₂ := Option.some.inj hblank
    have hread : readChar? 'T' c₁ = some c₂' := hmark
    rw [eq_cons_of_readChar? hread] at htrim
    exact hclock.ne_cons (by decide) (by decide) _ htrim.symm
  obtain ⟨_, _, _, _, _, _, _, _, hdate, hsep, hclock, -⟩ := ofLocal?_eq_some_iff.1 ht
  obtain ⟨_, _, _, _, _, _, _, _, hdate', hsep', hclock', -⟩ := ofLocal?_eq_some_iff.1 ht'
  obtain ⟨-, rfl⟩ := hdate.unique hdate'
  cases separator <;> cases separator'
  · rfl
  · exact (hletter hsep hclock hsep').elim
  · exact (hletter hsep' hclock' hsep).elim
  · rfl

/-- A form without a fraction is a case of the form that may have one. -/
theorem ofLocal?_fraction {separator : Separator} {cs : List Char} {t : Instant}
    (ht : ofLocal? separator false cs = some t) : ofLocal? separator true cs = some t := by
  obtain ⟨d, c₁, c₂, h, mi, s, c₃, n, hdate, hsep, hclock, hn, ht⟩ := ofLocal?_eq_some_iff.1 ht
  cases hn
  exact ofLocal?_eq_some_iff.2 ⟨d, c₁, c₂, h, mi, s, [], 0, hdate, hsep, hclock, rfl, ht⟩

/-! ### The order of the forms -/

/-- A form in which an instant may be written. -/
inductive Form where
  | zoned
  | millis
  | unzoned (separator : Separator) (fraction : Bool)
  deriving DecidableEq, Repr

namespace Form

/-- The instant of a text that is in a form. A number of milliseconds is in its form even if there
is no such instant. -/
def read? : Form → List Char → Option (Option Instant)
  | zoned, cs => (ofZoned? cs).map some
  | millis, cs => (Text.readInt64? cs).map ofMillis?
  | unzoned separator fraction, cs => (ofLocal? separator fraction cs).map some

/-- The kinds of form. -/
inductive Kind where
  | zoned
  | millis
  | unzoned
  deriving DecidableEq, Repr

def kind : Form → Kind
  | zoned => .zoned
  | millis => .millis
  | unzoned _ _ => .unzoned

/-- The forms in the order in which they are tried. -/
def all : List Form := [zoned, millis] ++ localForms.map fun f => unzoned f.1 f.2

/-- Tries forms in an order; the first that a text is in decides. -/
def firstOf? (order : List Form) (cs : List Char) : Option Instant :=
  (order.findSome? (·.read? cs)).join

theorem ofText?_eq_firstOf? (text : String) :
    ofText? text = firstOf? all (Text.trim text.toList) := by
  rw [ofText?, firstOf?, all, List.findSome?_append, List.findSome?_map]
  cases hzoned : ofZoned? (Text.trim text.toList) with
  | some t => simp [read?, hzoned]
  | none =>
    cases hmillis : Text.readInt64? (Text.trim text.toList) with
    | some ms => simp [read?, hzoned, hmillis]
    | none =>
      have hlocal : ((fun f => read? f (Text.trim text.toList)) ∘
          fun f : Separator × Bool => unzoned f.1 f.2) =
          Option.map some ∘ fun f => ofLocal? f.1 f.2 (Text.trim text.toList) := rfl
      rw [hlocal, ← List.map_findSome?]
      cases localForms.findSome? fun f => ofLocal? f.1 f.2 (Text.trim text.toList) <;>
        simp [read?, hzoned, hmillis]

variable {f g : Form} {cs : List Char} {x y : Option Instant}

theorem colon_mem_iff_of_read? (hf : f.read? cs = some x) : ':' ∈ cs ↔ f.kind ≠ .millis := by
  cases f with
  | zoned =>
    obtain ⟨t, ht, -⟩ := Option.map_eq_some_iff.1 hf
    exact iff_of_true (colon_mem_of_ofZoned? ht) (by simp [kind])
  | millis =>
    obtain ⟨n, hn, -⟩ := Option.map_eq_some_iff.1 hf
    exact iff_of_false ((Text.readInt64?_eq_some_iff cs n).1 hn).1.colon_not_mem (by simp [kind])
  | unzoned separator fraction =>
    obtain ⟨t, ht, -⟩ := Option.map_eq_some_iff.1 hf
    exact iff_of_true (colon_mem_of_ofLocal? ht) (by simp [kind])

theorem kind_of_read? (hf : f.read? cs = some x) (hg : g.read? cs = some y) : f.kind = g.kind := by
  have hcolon := (colon_mem_iff_of_read? hf).symm.trans (colon_mem_iff_of_read? hg)
  have hzone {separator : Separator} {fraction : Bool} {x y : Option Instant}
      (hz : zoned.read? cs = some x) : (unzoned separator fraction).read? cs ≠ some y := by
    obtain ⟨t, ht, -⟩ := Option.map_eq_some_iff.1 hz
    simp [read?, ofLocal?_of_ofZoned? ht]
  cases f <;> cases g
  case zoned.unzoned => exact absurd hg (hzone hf)
  case unzoned.zoned => exact absurd hf (hzone hg)
  all_goals simp_all [kind]

/-- All forms that a text is in give it the same instant. -/
theorem eq_of_read? (hf : f.read? cs = some x) (hg : g.read? cs = some y) : x = y := by
  have hkind := kind_of_read? hf hg
  have hlocal {separator : Separator} {fraction : Bool} {x : Option Instant}
      (h : (unzoned separator fraction).read? cs = some x) :
      (unzoned separator true).read? cs = some x := by
    obtain ⟨t, ht, rfl⟩ := Option.map_eq_some_iff.1 h
    cases fraction with
    | true => exact h
    | false => rw [read?, ofLocal?_fraction ht, Option.map_some]
  cases f <;> cases g <;> simp only [kind, reduceCtorEq] at hkind
  case zoned.zoned => exact Option.some.inj (hf.symm.trans hg)
  case millis.millis => exact Option.some.inj (hf.symm.trans hg)
  case unzoned.unzoned separator fraction separator' fraction' =>
    obtain ⟨t, ht, -⟩ := Option.map_eq_some_iff.1 hf
    obtain ⟨t', ht', -⟩ := Option.map_eq_some_iff.1 hg
    obtain rfl := separator_unique ht ht'
    exact Option.some.inj ((hlocal hf).symm.trans (hlocal hg))

/-- The order of forms does not matter, for those that a text is in agree. -/
theorem firstOf?_perm {order order' : List Form} (h : order.Perm order') (cs : List Char) :
    firstOf? order cs = firstOf? order' cs := by
  suffices hsame : order.findSome? (·.read? cs) = order'.findSome? (·.read? cs) by
    rw [firstOf?, firstOf?, hsame]
  cases hfirst : order.findSome? (·.read? cs) with
  | none =>
    rw [List.findSome?_eq_none_iff] at hfirst
    exact (List.findSome?_eq_none_iff.2 fun f hf => hfirst f (h.mem_iff.2 hf)).symm
  | some x =>
    obtain ⟨f, hf, hx⟩ := List.exists_of_findSome?_eq_some hfirst
    cases hother : order'.findSome? (·.read? cs) with
    | none =>
      rw [List.findSome?_eq_none_iff.1 hother f (h.mem_iff.1 hf)] at hx
      cases hx
    | some y =>
      obtain ⟨g, -, hy⟩ := List.exists_of_findSome?_eq_some hother
      rw [eq_of_read? hx hy]

end Form

end Instant

/-- A text stands for the same instant in whatever order its forms are tried. For a text is in forms
of one kind only: with a zone, as a number of milliseconds, or without a zone. And one in a form
that has no fraction is in the form that may have one, as the same instant. -/
theorem forms_in_any_order (text : String) (order : List Instant.Form)
    (h : order.Perm Instant.Form.all) :
    Instant.ofText? text = Instant.Form.firstOf? order (Text.trim text.toList) ∧
    (∀ (f g : Instant.Form) cs x y, f.read? cs = some x → g.read? cs = some y →
      f.kind = g.kind) ∧
    ∀ separator cs t, Instant.ofLocal? separator false cs = some t →
      Instant.ofLocal? separator true cs = some t := by
  refine ⟨?_, ?_, ?_⟩
  · rw [Instant.Form.ofText?_eq_firstOf?, Instant.Form.firstOf?_perm h]
  · intro f g cs x y hf hg
    exact Instant.Form.kind_of_read? hf hg
  · intro separator cs t ht
    exact Instant.ofLocal?_fraction ht

/-- Read by the last of the forms first. -/
theorem forms_in_any_order_of_reverse :
    Instant.Form.all.reverse.Perm Instant.Form.all ∧
      Instant.ofText? " 2024-1-2 3:4:5" =
        Instant.Form.firstOf? Instant.Form.all.reverse (Text.trim " 2024-1-2 3:4:5".toList) ∧
      Instant.ofText? " 2024-1-2 3:4:5" = Instant.of? 19724 11045 0 := by
  have hperm : Instant.Form.all.reverse.Perm Instant.Form.all := List.reverse_perm _
  obtain ⟨hsame, -⟩ := forms_in_any_order " 2024-1-2 3:4:5" _ hperm
  exact ⟨hperm, hsame, by decide +kernel⟩

end LiveTail
