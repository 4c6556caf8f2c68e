import LiveTail.Proofs.Forms
import LiveTail.Proofs.Rounding
import LiveTail.Proofs.Wording
/-! A time in whole milliseconds may be given as an integer, as a text that holds the integer, or as
the number with a point and a zero: all of them give one instant, or none of them gives any. -/
namespace LiveTail

namespace Text

/-! ### Integers in texts -/

theorem digitsFrom_append (n : Nat) (a b : List Char) :
    digitsFrom n (a ++ b) = digitsFrom (digitsFrom n a) b := by
  rw [digitsFrom, List.foldl_append, digitsFrom, digitsFrom]

theorem digitsFrom_zeros (k : Nat) : digitsFrom 0 (List.replicate k '0') = 0 := by
  induction k with
  | zero => rfl
  | succ k ih =>
    rw [List.replicate_succ, digitsFrom_cons]
    exact ih

/-- The digits of a number behind any number of zeros. -/
def zeroed (k n : Nat) : List Char := List.replicate k '0' ++ numeral n

theorem digitsValue_zeroed (k n : Nat) : digitsValue (zeroed k n) = n := by
  have hsame : digitsValue (zeroed k n) = digitsFrom 0 (zeroed k n) := rfl
  rw [hsame, zeroed, digitsFrom_append, digitsFrom_zeros, digitsFrom_numeral]

theorem zeroed_ne_nil (k n : Nat) : zeroed k n ≠ [] :=
  List.append_ne_nil_of_right_ne_nil _ Nat.toDigits_ne_nil

theorem isDigit_of_mem_zeroed {k n : Nat} {c : Char} (h : c ∈ zeroed k n) : c.isDigit = true := by
  rcases List.mem_append.mp h with h | h
  · rw [List.eq_of_mem_replicate h]
    decide
  · exact isDigit_of_mem_numeral h

/-- The signs that an integer may have. -/
inductive SignOf (n : Int) : List Char → Prop
  | none : 0 ≤ n → SignOf n []
  | plus : 0 ≤ n → SignOf n ['+']
  | minus : n ≤ 0 → SignOf n ['-']

/-- A text holds an integer in decimal: with a sign, any number of zeros in front, and white space
around it. -/
inductive HoldsInteger (n : Int) : List Char → Prop
  | mk {before sign after : List Char} (k : Nat) :
      (∀ c ∈ before, isBlank c = true) → SignOf n sign → (∀ c ∈ after, isBlank c = true) →
      HoldsInteger n (before ++ (sign ++ zeroed k n.natAbs) ++ after)

theorem SignOf.numeral {n : Int} {sign : List Char} (h : SignOf n sign) (k : Nat) :
    Numeral (sign ++ zeroed k n.natAbs) n := by
  have hdigits : ∀ c ∈ zeroed k n.natAbs, c.isDigit = true := fun c hc => isDigit_of_mem_zeroed hc
  have hne := zeroed_ne_nil k n.natAbs
  cases h with
  | none hn =>
    have hread := Numeral.plain hne hdigits
    rwa [digitsValue_zeroed, Int.natAbs_of_nonneg hn] at hread
  | plus hn =>
    have hread := Numeral.plus hne hdigits
    rwa [digitsValue_zeroed, Int.natAbs_of_nonneg hn] at hread
  | minus hn =>
    have hread := Numeral.minus hne hdigits
    rwa [digitsValue_zeroed, Int.ofNat_natAbs_of_nonpos hn, Int.neg_neg] at hread

theorem Numeral.not_blank {cs : List Char} {n : Int} (h : Numeral cs n) :
    ∀ c ∈ cs, isBlank c = false := by
  cases h with
  | plain _ hds => exact fun c hc => isBlank_of_isDigit (hds c hc)
  | plus _ hds =>
    exact List.forall_mem_cons.mpr ⟨by decide, fun c hc => isBlank_of_isDigit (hds c hc)⟩
  | minus _ hds =>
    exact List.forall_mem_cons.mpr ⟨by decide, fun c hc => isBlank_of_isDigit (hds c hc)⟩

theorem Numeral.ne_nil {cs : List Char} {n : Int} (h : Numeral cs n) : cs ≠ [] := by
  cases h with
  | plain hne _ => exact hne
  | plus _ _ => exact List.cons_ne_nil _ _
  | minus _ _ => exact List.cons_ne_nil _ _

/-- White space around a text without any is trimmed, and nothing else. -/
theorem trim_around {before cs after : List Char} (hbefore : ∀ c ∈ before, isBlank c = true)
    (hne : cs ≠ []) (hcs : ∀ c ∈ cs, isBlank c = false) (hafter : ∀ c ∈ after, isBlank c = true) :
    trim (before ++ cs ++ after) = cs := by
  obtain ⟨c, r, rfl⟩ := List.exists_cons_of_ne_nil hne
  have hstart : trimStart (before ++ (c :: r) ++ after) = c :: r ++ after := by
    rw [List.append_assoc]
    exact trimStart_append hbefore (hcs c List.mem_cons_self)
  -- the end is the start of the text the other way round
  have hreverse : (c :: r).reverse ≠ [] := by simp
  obtain ⟨d, s, hd⟩ := List.exists_cons_of_ne_nil hreverse
  have hlast : isBlank d = false := hcs d (List.mem_reverse.mp (hd ▸ List.mem_cons_self))
  have hblank : ∀ c ∈ after.reverse, isBlank c = true :=
    fun c hc => hafter c (List.mem_reverse.mp hc)
  have hend : trimStart (c :: r ++ after).reverse = (c :: r).reverse := by
    rw [List.reverse_append, hd]
    exact trimStart_append hblank hlast
  have htail : dropTail isBlank (c :: r ++ after) = (trimStart (c :: r ++ after).reverse).reverse :=
    rfl
  rw [trim, hstart, htail, hend, List.reverse_reverse]

end Text

theorem Instant.ofText?_of_holdsInteger {s : String} {n : Int} (h : Text.HoldsInteger n s.toList)
    (hn : Word.holdsSigned n = true) : Instant.ofText? s = Instant.ofMillis? n := by
  obtain ⟨cs, htrim, hnumeral⟩ : ∃ cs, Text.trim s.toList = cs ∧ Text.Numeral cs n := by
    generalize s.toList = text at h
    cases h with
    | mk k hbefore hsign hafter =>
      have hnumeral := hsign.numeral k
      exact ⟨_, Text.trim_around hbefore hnumeral.ne_nil hnumeral.not_blank hafter, hnumeral⟩
  -- a date has a colon, so the number is the first form that the text is in
  have hzoned : Instant.ofZoned? cs = none := by
    rw [Option.eq_none_iff_forall_ne_some]
    exact fun t ht => hnumeral.colon_not_mem (Instant.colon_mem_of_ofZoned? ht)
  have hread : Text.readInt64? cs = some n := (Text.readInt64?_eq_some_iff cs n).mpr ⟨hnumeral, hn⟩
  rw [Instant.ofText?, htrim, hzoned]
  dsimp only
  rw [hread]

/-! ### Numbers with a point and a zero -/

namespace Json

theorem digitCount_of_startsDigit {r : List Char} (h : startsDigit r = false) :
    digitCount r = 0 := by
  cases r with
  | nil => rfl
  | cons c r =>
    have hc : c.isDigit = false := h
    simp [digitCount, hc]

/-- A point and a zero behind the whole part shift it by one digit. -/
theorem readTail_point_zero (negative : Bool) {n : Nat} (hn : n * 10 < significandLimit)
    {r : List Char} (h : endsNumber r = true) :
    readTail negative n ('.' :: '0' :: r) = floatOf negative (n * 10) (-1) r := by
  have hstart := startsDigit_of_endsNumber h
  have hgather : gather n ('0' :: r) = (n * 10, r) := by
    have hzero : Text.digitValue '0' = 0 := by decide
    rw [gather, hzero, if_pos (by simpa using hn), Nat.add_zero, gather_of_startsDigit _ hstart]
  have hplaces : digitCount ('0' :: r) = 1 := by
    have hcount := digitCount_of_startsDigit hstart
    rw [digitCount] at hcount ⊢
    simp [hcount]
  have hscale : readScale negative (n * 10) (-1) r = floatOf negative (n * 10) (-1) r := by
    unfold readScale
    split
    · simp [endsNumber] at h
    · simp [endsNumber] at h
    · rfl
  rw [readTail, readFraction, hgather]
  simp only [hplaces, digitCount_of_startsDigit hstart, hstart, Bool.false_eq_true, if_false]
  exact hscale

end Json

theorem Binary.value?_negate {x : Binary} {q : ℚ} (h : x.value? = some q) :
    x.negate.value? = some (-q) := by
  obtain ⟨s, m, e, rfl, rfl⟩ := Binary.exists_finite h
  cases s with
  | false => rfl
  | true => simp [Binary.negate, Binary.value?]

namespace Json

/-- A tenth of ten times a number is the number, as long as the product is exact. -/
theorem exists_scale {n : ℕ} (hn : n * 10 ≤ 2 ^ 53) :
    ∃ x, scale (.ofInt .double (n * 10 : ℕ)) (-1) = some x ∧ x.value? = some (n : ℚ) := by
  have hten : Binary.ofDecimal .double false 1 1 = Binary.ofInt .double 10 := by decide +kernel
  have hdivisor : (Binary.ofInt .double 10).value? = some (10 : ℚ) :=
    Binary.ofInt_value BinaryFormat.proper_double (by decide)
  have hproduct : (Binary.ofInt .double (n * 10 : ℕ)).value? = some ((n * 10 : ℕ) : ℚ) := by
    have hroom : |((n * 10 : ℕ) : ℤ)| ≤ 2 ^ BinaryFormat.double.precision := by
      rw [abs_of_nonneg (Int.natCast_nonneg _)]
      exact_mod_cast hn
    rw [Binary.ofInt_value BinaryFormat.proper_double hroom, Int.cast_natCast]
  have hquotient : ((n * 10 : ℕ) : ℚ) / 10 = n := by
    push_cast
    field_simp
  have hsmall : (n : ℚ) < 2 ^ 53 := by
    have hlt : n < 2 ^ 53 := by omega
    exact_mod_cast hlt
  have hlimit : (2 : ℚ) ^ 53 <
      2 ^ (BinaryFormat.double.maxExponent + BinaryFormat.double.precision - 1) := by
    rw [← zpow_natCast]
    exact zpow_lt_zpow_right₀ one_lt_two (by decide)
  have hrepresents : BinaryFormat.double.Represents n := by
    refine ⟨n, 0, by decide, ?_, by simp⟩
    rw [Nat.abs_cast]
    exact_mod_cast hsmall
  obtain ⟨v, hv, hrounds⟩ := Binary.div_value BinaryFormat.proper_double hproduct hdivisor
    (by norm_num) (by
      rw [hquotient, Nat.abs_cast]
      exact hsmall.trans hlimit)
  rw [hquotient] at hrounds
  have hexact : v = n := hrounds.eq_of_represents hrepresents
  refine ⟨_, ?_, hexact ▸ hv⟩
  rw [scale]
  simp [hten]

theorem exists_floatOf (negative : Bool) {n : ℕ} (hn : n * 10 ≤ 2 ^ 53) :
    ∃ x : Binary, x.value? = some (if negative then -(n : ℚ) else n) ∧
      ∀ r, floatOf negative (n * 10) (-1) r = .ok (.float x, r) := by
  obtain ⟨x, hscale, hx⟩ := exists_scale hn
  have hfloat (r : List Char) : floatOf negative (n * 10) (-1) r =
      .ok (.float (if negative then x.negate else x), r) := by
    rw [floatOf, hscale]
  cases negative with
  | false => exact ⟨x, hx, hfloat⟩
  | true => exact ⟨x.negate, Binary.value?_negate hx, hfloat⟩

/-- An integer with a point and a zero behind it is read as the same number. -/
theorem exists_readsAs_point {n : ℤ} (hn : n.natAbs < 900000000000000) :
    ∃ x : Binary, x.value? = some (n : ℚ) ∧
      ∀ depth, ReadsAs depth (Text.signedNumeral n ++ ['.', '0']) (.number (.float x)) := by
  obtain ⟨x, hx, hfloat⟩ := exists_floatOf (decide (n < 0)) (n := n.natAbs) (by omega)
  have hvalue : (if decide (n < 0) = true then -(n.natAbs : ℚ) else n.natAbs) = n := by
    rw [Nat.cast_natAbs, Int.cast_abs]
    by_cases hneg : n < 0
    · have hcast : (n : ℚ) < 0 := by exact_mod_cast hneg
      rw [if_pos (decide_eq_true hneg), abs_of_neg hcast, neg_neg]
    · have hcast : (0 : ℚ) ≤ n := by exact_mod_cast not_lt.mp hneg
      rw [if_neg (by simpa using hneg), abs_of_nonneg hcast]
  rw [hvalue] at hx
  have hroom : n.natAbs * 10 < significandLimit := by
    have hlimit : significandLimit = 18446744073709551616 := by decide
    omega
  have hdigits : n.natAbs < significandLimit := by omega
  refine ⟨x, hx, fun depth => readsAs_numeral depth hdigits (fun _ _ => rfl) ?_⟩
  intro r hr
  exact (readTail_point_zero _ hroom hr).trans (hfloat r)

theorem ReadsAs.unique {depth : Nat} {cs : List Char} {v w : Json}
    (hv : ReadsAs depth cs v) (hw : ReadsAs depth cs w) : v = w := by
  have hread := hv cs.length [] le_rfl rfl
  rw [hw cs.length [] le_rfl rfl] at hread
  exact (congrArg Prod.fst (Except.ok.inj hread)).symm

theorem readsAs_signed {n : ℤ} (hn : Word.holdsSigned n = true) (depth : Nat) :
    ReadsAs depth (Text.signedNumeral n) (.integer n) := by
  simp only [Word.holdsSigned, Bool.and_eq_true, decide_eq_true_eq] at hn
  have hcount : Word.count 63 < Word.count 64 := by decide
  exact readsAs_integer depth hn.1 (by omega)

end Json

namespace Instant

/-- The values that give a number of milliseconds: what its numeral is read as, what the numeral is
read as with a point and a zero if the number is not too great, and the texts that hold it. -/
inductive GivenBy (n : ℤ) : Json → Prop
  | integer {depth v} : Json.ReadsAs depth (Text.signedNumeral n) v → GivenBy n v
  | point {depth v} : n.natAbs < 900000000000000 →
      Json.ReadsAs depth (Text.signedNumeral n ++ ['.', '0']) v → GivenBy n v
  | text {s} : Text.HoldsInteger n s.toList → GivenBy n (.text s)

theorem GivenBy.toldBy_iff {n : ℤ} {v : Json} (h : GivenBy n v)
    (hn : Word.holdsSigned n = true) (t : Instant) : ToldBy v t ↔ t.IsMillis n := by
  cases h with
  | @integer depth v hread =>
    obtain rfl := hread.unique (Json.readsAs_signed hn depth)
    exact toldBy_integer_iff n t
  | @point depth v hsmall hread =>
    obtain ⟨x, hx, hpoint⟩ := Json.exists_readsAs_point hsmall
    obtain rfl := hread.unique (hpoint depth)
    have hround : x.roundAway = n := (Binary.roundsTo_roundAway hx).unique (roundsTo_intCast n)
    rw [toldBy_float_iff, hround, hx]
    simp
  | @text s hs =>
    rw [← ofMillis?_eq_some_iff, ← ofText?_of_holdsInteger hs hn]
    constructor
    · intro htold
      cases htold with
      | text ht => exact ht
    · exact .text

theorem inRange_of_natAbs_lt {n : ℤ} (hn : n.natAbs < 900000000000000) : InRange n := by
  unfold InRange firstDay lastDay
  omega

end Instant

/-- Every whole number of milliseconds that a word of 64 bits holds may be given as an integer, as a
text that holds it in decimal, and, if it is not too great, with a point and a zero. In the range of
days there are, all of these are read as the one instant that many milliseconds after the epoch, in
whatever message they stand. Out of that range all of them are refused. -/
theorem numeric_times_agree {n : ℤ} (hn : Word.holdsSigned n = true) :
    (∀ depth, Json.ReadsAs depth (Text.signedNumeral n) (.integer n)) ∧
    (n.natAbs < 900000000000000 → Instant.InRange n ∧ ∃ x : Binary, ∀ depth,
      Json.ReadsAs depth (Text.signedNumeral n ++ ['.', '0']) (.number (.float x))) ∧
    (Instant.InRange n → ∃ t : Instant, t.IsMillis n ∧ ∀ v, Instant.GivenBy n v →
      Instant.ofJson v = .ok t ∧
      (∀ frame, Message.Carries "basetime" frame v → Message.decode frame = .ok (.baseTime t)) ∧
      ∀ frame w, Message.Carries "log" frame w → LogEvent.part? w "time" 0 = some v →
        LogEvent.HasParts w → (∃ fields, LogEvent.FieldsIn (LogEvent.part? w "fields" 3) fields) →
        ∃ e, Message.decode frame = .ok (.log e) ∧ e.time = t) ∧
    (¬ Instant.InRange n → ∀ v, Instant.GivenBy n v →
      (∃ fault, Instant.ofJson v = .error fault) ∧
      (∀ frame, Message.Carries "basetime" frame v →
        ∃ fault, Message.decode frame = .error (.malformed "basetime" fault)) ∧
      ∀ frame w, Message.Carries "log" frame w → LogEvent.part? w "time" 0 = some v →
        ∃ fault, Message.decode frame = .error (.malformed "log" fault)) := by
  refine ⟨Json.readsAs_signed hn, ?_, ?_, ?_⟩
  · intro hsmall
    obtain ⟨x, -, hread⟩ := Json.exists_readsAs_point hsmall
    exact ⟨Instant.inRange_of_natAbs_lt hsmall, x, hread⟩
  · intro hrange
    obtain ⟨t, ht⟩ := (Instant.exists_isMillis_iff n).mpr hrange
    refine ⟨t, ht, fun v hv => ?_⟩
    have htold : Instant.ToldBy v t := (hv.toldBy_iff hn t).mpr ht
    refine ⟨(Instant.ofJson_eq_ok_iff v t).mpr htold, ?_, ?_⟩
    · intro frame hframe
      exact (hframe.decode_baseTime_iff _).mpr ⟨t, rfl, htold⟩
    · rintro frame w hframe hw hform ⟨fields, hfields⟩
      exact ⟨⟨t, _, _, fields⟩, (hframe.decode_log_iff _).mpr
        ⟨_, rfl, hform, ⟨v, hw, htold⟩, rfl, rfl, hfields⟩, rfl⟩
  · intro hrange v hv
    have hnone (t : Instant) : ¬ Instant.ToldBy v t := fun htold =>
      hrange ((Instant.exists_isMillis_iff n).mp ⟨t, (hv.toldBy_iff hn t).mp htold⟩)
    refine ⟨?_, ?_, ?_⟩
    · cases hread : Instant.ofJson v with
      | error fault => exact ⟨fault, rfl⟩
      | ok t => exact absurd ((Instant.ofJson_eq_ok_iff v t).mp hread) (hnone t)
    · intro frame hframe
      refine hframe.exists_malformed (by decide) fun m hm => ?_
      obtain ⟨t, -, htold⟩ := (hframe.decode_baseTime_iff m).mp hm
      exact hnone t htold
    · intro frame w hframe hw
      refine hframe.exists_malformed (by decide) fun m hm => ?_
      obtain ⟨e, -, htold⟩ := (hframe.decode_log_iff m).mp hm
      obtain ⟨v', hv', htime⟩ := htold.time
      rw [hw] at hv'
      exact hnone e.time (Option.some.inj hv' ▸ htime)

/-- Three forms of a second and a half before the epoch, the text with a sign, zeros and white
space. -/
theorem numeric_times_agree_of_before_epoch :
    Word.holdsSigned (-1500) = true ∧ Instant.InRange (-1500) ∧
      ∃ (t : Instant) (x : Binary), t.IsMillis (-1500) ∧
        Instant.ofJson (.integer (-1500)) = .ok t ∧ Instant.ofJson (.text " -001500\n") = .ok t ∧
        Json.ReadsAs 0 "-1500.0".toList (.number (.float x)) ∧
        Instant.ofJson (.number (.float x)) = .ok t := by
  have hn : Word.holdsSigned (-1500) = true := by decide
  obtain ⟨hinteger, hpoint, hsame, -⟩ := numeric_times_agree hn
  obtain ⟨hrange, x, hx⟩ := hpoint (by decide)
  obtain ⟨t, ht, hgiven⟩ := hsame hrange
  have htext : Text.HoldsInteger (-1500) " -001500\n".toList :=
    @Text.HoldsInteger.mk (-1500) [' '] ['-'] ['\n'] 2 (List.forall_mem_singleton.mpr (by decide))
      (.minus (by decide)) (List.forall_mem_singleton.mpr (by decide))
  exact ⟨hn, hrange, t, x, ht, (hgiven _ (.integer (hinteger 0))).1, (hgiven _ (.text htext)).1,
    hx 0, (hgiven _ (.point (by decide) (hx 0))).1⟩

end LiveTail
