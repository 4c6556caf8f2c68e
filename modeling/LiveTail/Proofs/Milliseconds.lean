import LiveTail.Time.Wire
import Mathlib.Algebra.Order.Round
import Mathlib.Data.Rat.Cast.Order
import Mathlib.Tactic.FieldSimp
import Mathlib.Tactic.Linarith
import Mathlib.Tactic.NormNum
import Mathlib.Tactic.Ring
/-! Which JSON values tell an instant: whole milliseconds within the range of days there are, other
numbers by the whole number nearest to them, and texts that can be read. -/
namespace LiveTail

/-! ### Rounding -/

/-- `n` lies within a half of `q`, and at exactly a half it lies further from zero. -/
def RoundsTo (q : ℚ) (n : ℤ) : Prop := |q - n| ≤ 1 / 2 ∧ (|q - n| = 1 / 2 → |q| < |(n : ℚ)|)

theorem roundsTo_neg {q : ℚ} {n : ℤ} (h : RoundsTo q n) : RoundsTo (-q) (-n) := by
  have hflip : -q - ((-n : ℤ) : ℚ) = -(q - n) := by
    push_cast
    ring
  unfold RoundsTo
  rw [hflip, abs_neg, abs_neg, Int.cast_neg, abs_neg]
  exact h

theorem RoundsTo.le {q : ℚ} {n k : ℤ} (hn : RoundsTo q n) (hk : RoundsTo q k) : k ≤ n := by
  by_contra hlt
  rw [not_le] at hlt
  obtain ⟨hn₁, hn₂⟩ := hn
  obtain ⟨hk₁, hk₂⟩ := hk
  have hstep : (n : ℚ) + 1 ≤ k := by exact_mod_cast hlt
  -- both are a half away, so `q` lies in the middle between neighbours
  have hupper : q ≤ n + 1 / 2 := by linarith [(abs_le.1 hn₁).2]
  have hlower : (k : ℚ) - 1 / 2 ≤ q := by linarith [(abs_le.1 hk₁).1]
  have hq : q = n + 1 / 2 := by linarith
  have hkn : (k : ℚ) = n + 1 := by linarith
  have hn₃ : |q| < |(n : ℚ)| := hn₂ (by rw [hq, add_sub_cancel_left]; norm_num)
  have hk₃ : |q| < |(k : ℚ)| := hk₂ (by rw [hq, hkn]; norm_num)
  rw [hq] at hn₃ hk₃
  rw [hkn] at hk₃
  rcases le_or_gt 0 n with hsign | hsign
  · have hpos : (0 : ℚ) ≤ n := by exact_mod_cast hsign
    rw [abs_of_nonneg (by linarith), abs_of_nonneg hpos] at hn₃
    linarith
  · have hneg : (n : ℚ) + 1 ≤ 0 := by exact_mod_cast hsign
    rw [abs_of_nonpos (by linarith), abs_of_nonpos hneg] at hk₃
    linarith

theorem RoundsTo.unique {q : ℚ} {n k : ℤ} (hn : RoundsTo q n) (hk : RoundsTo q k) : n = k :=
  le_antisymm (hk.le hn) (hn.le hk)

theorem roundsTo_intCast (n : ℤ) : RoundsTo n n := by
  constructor
  · rw [sub_self, abs_zero]
    norm_num
  · intro h
    rw [sub_self, abs_zero] at h
    norm_num at h

/-- Twice a quotient and one, halved and rounded down, is the number nearest to it. -/
theorem roundsTo_ediv (num den : ℤ) (hnum : 0 ≤ num) (hden : 0 < den) :
    RoundsTo ((num : ℚ) / den) ((2 * num + den) / (2 * den)) := by
  set n : ℤ := (2 * num + den) / (2 * den) with hn
  have hpos : (0 : ℚ) < den := by exact_mod_cast hden
  have hlower : (n : ℚ) ≤ num / den + 1 / 2 := by
    have hle : n * (2 * den) ≤ 2 * num + den := Int.ediv_mul_le _ (by omega)
    have hcast : (n : ℚ) * (2 * den) ≤ 2 * num + den := by exact_mod_cast hle
    have hexpand : (num : ℚ) / den + 1 / 2 = (2 * num + den) / (2 * den) := by
      field_simp
    rw [hexpand, le_div_iff₀ (by linarith)]
    exact hcast
  have hupper : (num : ℚ) / den + 1 / 2 < n + 1 := by
    have hlt : 2 * num + den < (n + 1) * (2 * den) := Int.lt_ediv_add_one_mul_self _ (by omega)
    have hcast : (2 : ℚ) * num + den < (n + 1) * (2 * den) := by exact_mod_cast hlt
    have hexpand : (num : ℚ) / den + 1 / 2 = (2 * num + den) / (2 * den) := by
      field_simp
    rw [hexpand, div_lt_iff₀ (by linarith)]
    exact hcast
  have hq : (0 : ℚ) ≤ (num : ℚ) / den := div_nonneg (by exact_mod_cast hnum) hpos.le
  constructor
  · exact abs_le.2 ⟨by linarith, by linarith⟩
  · intro htie
    -- a half below is out of the question, so the number is the one above
    have habove : (n : ℚ) = num / den + 1 / 2 := by
      rcases (abs_eq (by norm_num)).1 htie with h | h
      · linarith
      · linarith
    rw [habove, abs_of_nonneg hq, abs_of_nonneg (by linarith)]
    linarith

namespace Binary

/-- The exact value of a finite number. -/
def value? : Binary → Option ℚ
  | .finite s m e => some (if s then -(m * 2 ^ e) else m * 2 ^ e)
  | _ => none

theorem magnitude_eq (m : ℕ) (e : ℤ) :
    ((magnitude m e).num : ℚ) / (magnitude m e).den = m * 2 ^ e := by
  unfold magnitude Quotient.ofScaled
  by_cases he : 0 ≤ e
  · rw [if_pos he]
    obtain ⟨k, rfl⟩ := Int.eq_ofNat_of_zero_le he
    simp
  · rw [if_neg he]
    obtain ⟨k, hk⟩ := Int.eq_ofNat_of_zero_le (show 0 ≤ -e by omega)
    have hek : e = -(k : ℤ) := by omega
    rw [hek]
    simp [div_eq_mul_inv]

theorem roundsTo_roundAway {x : Binary} {q : ℚ} (h : x.value? = some q) :
    RoundsTo q x.roundAway := by
  cases x with
  | nan => cases h
  | infinite s => cases h
  | finite s m e =>
    have hround := roundsTo_ediv (magnitude m e).num (magnitude m e).den (by omega)
      (by exact_mod_cast (magnitude m e).den_pos)
    rw [Int.cast_natCast, Int.cast_natCast, magnitude_eq] at hround
    cases s with
    | false =>
      simp only [value?, Option.some.injEq] at h
      rw [← h]
      exact hround
    | true =>
      simp only [value?, Option.some.injEq] at h
      rw [← h]
      exact roundsTo_neg hround

theorem div_le_roundEven (a : Quotient) : a.num / a.den ≤ a.roundEven := by
  unfold Quotient.roundEven
  dsimp only
  split
  · exact Nat.le_refl _
  · split
    · exact Nat.le_succ _
    · split
      · exact Nat.le_refl _
      · exact Nat.le_succ _

theorem log2_ofScaled (n : ℕ) (hn : n ≠ 0) : (Quotient.ofScaled n 0).log2 = n.log2 := by
  have hlog : (1 : ℕ).log2 = 0 := by decide
  have hle : 2 ^ n.log2 ≤ n := Nat.log2_self_le hn
  simp [Quotient.ofScaled, Quotient.log2, hlog, hle]

theorem ofScaled_natCast (m k : ℕ) :
    (Quotient.ofScaled m k).num = m * 2 ^ k ∧ (Quotient.ofScaled m k).den = 1 := by
  unfold Quotient.ofScaled
  rw [if_pos (Int.natCast_nonneg k)]
  simp

theorem ofScaled_neg_natCast (k : ℕ) :
    (Quotient.ofScaled 1 (-(k : ℤ))).num = 1 ∧ (Quotient.ofScaled 1 (-(k : ℤ))).den = 2 ^ k := by
  unfold Quotient.ofScaled
  split
  · have hk : k = 0 := by omega
    subst hk
    simp
  · simp

theorem le_roundAway_finite {m k : ℕ} {e : ℤ} (he : k ≤ e) :
    (m * 2 ^ k : ℤ) ≤ (finite false m e).roundAway := by
  obtain ⟨l, rfl⟩ : ∃ l : ℕ, e = (k + l : ℕ) := ⟨(e - k).toNat, by omega⟩
  have hpow : (2 : ℤ) ^ k ≤ 2 ^ (k + l) := pow_le_pow_right₀ (by norm_num) (by omega)
  have hmul : (m * 2 ^ k : ℤ) ≤ m * 2 ^ (k + l) := mul_le_mul_of_nonneg_left hpow (by omega)
  have hround : (finite false m (k + l : ℕ)).roundAway = m * 2 ^ (k + l) := by
    obtain ⟨hnum, hden⟩ := ofScaled_natCast m (k + l)
    simp only [roundAway, magnitude, hnum, hden]
    push_cast
    omega
  rw [hround]
  exact hmul

/-- A number that is not rounded to infinity has the last place of the exact one at least, and the
digits in front of it. -/
theorem round_cases (f : BinaryFormat) (s : Bool) {a : Quotient} (ha : a.num ≠ 0) {e : ℤ}
    (he : e = max (a.log2 - (f.precision - 1)) f.minExponent) :
    round f s a = .infinite s ∨ ∃ m d, round f s a = .finite s m d ∧ e ≤ d ∧
      min (2 ^ (f.precision - 1)) (a.mul (.ofScaled 1 (-e))).roundEven ≤ m := by
  set r := (a.mul (.ofScaled 1 (-e))).roundEven with hr
  obtain ⟨m, d, hpair, hd, hm⟩ : ∃ m d, (if r = Nat.pow 2 f.precision then
      (Nat.pow 2 (f.precision - 1), e + 1) else (r, e)) = (m, d) ∧ e ≤ d ∧
      min (2 ^ (f.precision - 1)) r ≤ m := by
    split
    · exact ⟨_, _, rfl, by omega, Nat.min_le_left _ _⟩
    · exact ⟨_, _, rfl, Int.le_refl _, Nat.min_le_right _ _⟩
  have hround : round f s a = if f.maxExponent < d then .infinite s else .finite s m d := by
    unfold round
    rw [if_neg ha]
    simp only [← he, ← hr, hpair]
  rw [hround]
  by_cases hlarge : f.maxExponent < d
  · exact .inl (if_pos hlarge)
  · exact .inr ⟨m, d, if_neg hlarge, hd, hm⟩

/-- A whole number of more than 63 bits stays that large as a floating-point number. -/
theorem le_roundAway_ofInt {n : ℤ} (hn : 2 ^ 63 ≤ n) (h : (ofInt .double n).isFinite = true) :
    2 ^ 63 ≤ (ofInt .double n).roundAway := by
  obtain ⟨n, rfl⟩ := Int.eq_ofNat_of_zero_le (show 0 ≤ n by omega)
  have hnat : 2 ^ 63 ≤ n := by exact_mod_cast hn
  have hlog : 63 ≤ n.log2 := (Nat.le_log2 (by omega)).2 hnat
  obtain ⟨k, hk⟩ : ∃ k, n.log2 = k + 52 := ⟨n.log2 - 52, by omega⟩
  let a := Quotient.ofScaled n 0
  have hnum : a.num = n := by simp [a, Quotient.ofScaled]
  have hden : a.den = 1 := rfl
  have hexp : (k : ℤ) = max (a.log2 - ((BinaryFormat.double.precision : ℤ) - 1))
      BinaryFormat.double.minExponent := by
    rw [log2_ofScaled n (by omega), hk]
    simp [BinaryFormat.double]
  -- 53 bits of the number are left in front of the last place
  have hbits : 2 ^ 52 ≤ (a.mul (.ofScaled 1 (-(k : ℤ)))).roundEven := by
    refine Nat.le_trans ?_ (div_le_roundEven _)
    have hle : 2 ^ (k + 52) ≤ n := hk ▸ Nat.log2_self_le (by omega)
    simp only [Quotient.mul, hnum, hden, ofScaled_neg_natCast]
    rw [Nat.le_div_iff_mul_le (by positivity)]
    rwa [Nat.mul_one, Nat.one_mul, ← pow_add, Nat.add_comm]
  have hvalue : ofInt .double (n : ℤ) = round .double false a := by
    rw [ofInt, Int.natAbs_natCast, decide_eq_false (by omega)]
  rw [hvalue] at h ⊢
  rcases round_cases .double false (by omega) hexp with hround | ⟨m, d, hround, hd, hm⟩
  · rw [hround] at h
    cases h
  · rw [hround]
    have hsignificand : 2 ^ 52 ≤ m := Nat.le_trans (Nat.le_min.2 ⟨Nat.le_refl _, hbits⟩) hm
    have hlarge : ((2 ^ 52 : ℕ) * 2 ^ 11 : ℤ) ≤ m * 2 ^ 11 := by
      exact_mod_cast Nat.mul_le_mul_right _ hsignificand
    calc (2 : ℤ) ^ 63 = (2 ^ 52 : ℕ) * (2 : ℤ) ^ 11 := by norm_num
      _ ≤ (m : ℤ) * 2 ^ 11 := hlarge
      _ ≤ (finite false m d).roundAway := le_roundAway_finite (by omega)

end Binary

/-! ### Instants -/

namespace Instant

/-- The instant lies exactly so many milliseconds after the epoch. -/
def IsMillis (t : Instant) (ms : ℤ) : Prop :=
  t.toMillis = ms ∧ t.isLeap = false ∧ t.nano % 1000000 = 0

/-- The milliseconds of the days there are, from -8334601228800000 to 8210266876799999. -/
def InRange (ms : ℤ) : Prop := firstDay * 86400000 ≤ ms ∧ ms < (lastDay + 1) * 86400000

theorem ofMillis?_eq_some_iff (ms : ℤ) (t : Instant) :
    ofMillis? ms = some t ↔ t.IsMillis ms := by
  obtain ⟨day, second, nano, hday, hsecond, hnano⟩ := t
  unfold ofMillis? of? IsMillis toMillis isLeap
  dsimp only
  constructor
  · intro h
    split at h
    · injection h with h
      injection h with h₁ h₂ h₃
      refine ⟨?_, ?_, ?_⟩
      · omega
      · rw [decide_eq_false_iff_not]
        omega
      · omega
    · cases h
  · rintro ⟨hms, hleap, hwhole⟩
    rw [decide_eq_false_iff_not] at hleap
    have h₁ : ms / 86400000 = day := by omega
    have h₂ : (ms % 86400000 / 1000).toNat = second := by omega
    have h₃ : (ms % 1000 * 1000000).toNat = nano := by omega
    simp only [h₁, h₂, h₃]
    rw [dif_pos ⟨hday, hsecond, hnano⟩]

theorem exists_isMillis_iff (ms : ℤ) : (∃ t, IsMillis t ms) ↔ InRange ms := by
  constructor
  · rintro ⟨⟨day, second, nano, hday, hsecond, hnano⟩, hms, hleap, -⟩
    simp only [toMillis, isLeap, decide_eq_false_iff_not] at hms hleap
    unfold InRange
    constructor
    · omega
    · omega
  · rintro ⟨hfirst, hlast⟩
    have hday : firstDay ≤ ms / 86400000 ∧ ms / 86400000 ≤ lastDay := by
      constructor
      · omega
      · omega
    have hsecond : (ms % 86400000 / 1000).toNat < 86400 := by omega
    have hnano : (ms % 1000 * 1000000).toNat < 2000000000 := by omega
    refine ⟨⟨_, _, _, hday, hsecond, hnano⟩, (ofMillis?_eq_some_iff ms _).1 ?_⟩
    rw [ofMillis?, of?, dif_pos ⟨hday, hsecond, hnano⟩]

theorem holdsSigned_of_inRange {n : ℤ} (h : InRange n) : Word.holdsSigned n = true := by
  unfold InRange firstDay lastDay at h
  have hcount : (Word.count 63 : ℤ) = 2 ^ 63 := rfl
  simp only [Word.holdsSigned, hcount, Bool.and_eq_true, decide_eq_true_eq]
  omega

end Instant

/-- The exact value of a number, if it is finite. -/
def JsonNumber.value? : JsonNumber → Option ℚ
  | .integer n => some n
  | .float x => x.value?

/-- An integer that a word of 64 bits with a sign holds. -/
def JsonNumber.IsSigned (x : JsonNumber) : Prop := ∃ n, x = .integer n ∧ Word.holdsSigned n = true

namespace Instant

/-- The instant that a value tells: whole milliseconds, the whole ones nearest to another number, or
what a text says. -/
inductive ToldBy : Json → Instant → Prop
  | whole {n t} : Word.holdsSigned n = true → IsMillis t n → ToldBy (.number (.integer n)) t
  | rounded {x q n t} : ¬ x.IsSigned → x.value? = some q → RoundsTo q n → IsMillis t n →
      ToldBy (.number x) t
  | text {s t} : ofText? s = some t → ToldBy (.text s) t

theorem exists_toldBy_iff (v : Json) : (∃ t, ToldBy v t) ↔
    (∃ n, v = .number (.integer n) ∧ Word.holdsSigned n = true ∧ InRange n) ∨
    (∃ x q n, v = .number x ∧ ¬ x.IsSigned ∧ x.value? = some q ∧ RoundsTo q n ∧ InRange n) ∨
    ∃ s, v = .text s ∧ (ofText? s).isSome = true := by
  constructor
  · rintro ⟨t, h⟩
    cases h with
    | whole hn ht => exact .inl ⟨_, rfl, hn, (exists_isMillis_iff _).1 ⟨t, ht⟩⟩
    | rounded hx hq hround ht =>
      exact .inr (.inl ⟨_, _, _, rfl, hx, hq, hround, (exists_isMillis_iff _).1 ⟨t, ht⟩⟩)
    | text hs => exact .inr (.inr ⟨_, rfl, Option.isSome_of_eq_some hs⟩)
  · rintro (⟨n, rfl, hn, hrange⟩ | ⟨x, q, n, rfl, hx, hq, hround, hrange⟩ | ⟨s, rfl, hs⟩)
    · obtain ⟨t, ht⟩ := (exists_isMillis_iff n).2 hrange
      exact ⟨t, .whole hn ht⟩
    · obtain ⟨t, ht⟩ := (exists_isMillis_iff n).2 hrange
      exact ⟨t, .rounded hx hq hround ht⟩
    · obtain ⟨t, ht⟩ := Option.isSome_iff_exists.1 hs
      exact ⟨t, .text ht⟩

theorem toldBy_integer_iff (n : ℤ) (t : Instant) :
    ToldBy (.number (.integer n)) t ↔ IsMillis t n := by
  constructor
  · intro h
    cases h with
    | whole _ ht => exact ht
    | rounded _ hq hround ht =>
      simp only [JsonNumber.value?, Option.some.injEq] at hq
      subst hq
      rwa [hround.unique (roundsTo_intCast n)] at ht
  · intro ht
    exact .whole (holdsSigned_of_inRange ((exists_isMillis_iff n).1 ⟨t, ht⟩)) ht

theorem toldBy_float_iff (x : Binary) (t : Instant) :
    ToldBy (.number (.float x)) t ↔ ∃ q, x.value? = some q ∧ IsMillis t x.roundAway := by
  constructor
  · intro h
    cases h with
    | rounded _ hq hround ht =>
      refine ⟨_, hq, ?_⟩
      rwa [hround.unique (Binary.roundsTo_roundAway hq)] at ht
  · rintro ⟨q, hq, ht⟩
    refine .rounded ?_ hq (Binary.roundsTo_roundAway hq) ht
    rintro ⟨n, hn, -⟩
    cases hn

theorem ofFloat_eq_ok_iff (x : Binary) (t : Instant) :
    ofFloat x = .ok t ↔ ∃ q, x.value? = some q ∧ IsMillis t x.roundAway := by
  cases x with
  | nan => simp [ofFloat, Binary.isFinite, Binary.value?]
  | infinite s => simp [ofFloat, Binary.isFinite, Binary.value?]
  | finite s m e =>
    rw [← ofMillis?_eq_some_iff]
    simp only [ofFloat, Binary.isFinite, Binary.value?, if_true]
    cases ofMillis? (Binary.finite s m e).roundAway <;> simp

theorem ofJson_integer_eq_ok_iff (n : ℤ) (t : Instant) :
    ofJson (.number (.integer n)) = .ok t ↔ IsMillis t n := by
  rw [ofJson]
  split
  · rw [← ofMillis?_eq_some_iff]
    cases ofMillis? n <;> simp
  · -- both sides fail: neither the number nor its rounding is in range
    rename_i hlarge
    have hn : 2 ^ 63 ≤ n := not_lt.1 hlarge
    have hout : ∀ k, 2 ^ 63 ≤ k → ¬ IsMillis t k := by
      intro k hk ht
      have hrange := (exists_isMillis_iff k).1 ⟨t, ht⟩
      unfold InRange firstDay lastDay at hrange
      omega
    rw [ofFloat_eq_ok_iff]
    constructor
    · rintro ⟨q, hq, ht⟩
      have hfinite : (Binary.ofInt .double n).isFinite = true := by
        cases hx : Binary.ofInt .double n with
        | finite => rfl
        | nan => rw [hx] at hq; cases hq
        | infinite => rw [hx] at hq; cases hq
      exact absurd ht (hout _ (Binary.le_roundAway_ofInt hn hfinite))
    · intro ht
      exact absurd ht (hout n hn)

theorem ofJson_eq_ok_iff (v : Json) (t : Instant) : ofJson v = .ok t ↔ ToldBy v t := by
  cases v with
  | number x =>
    cases x with
    | integer n => rw [ofJson_integer_eq_ok_iff, toldBy_integer_iff]
    | float x => rw [ofJson, ofFloat_eq_ok_iff, toldBy_float_iff]
  | text s =>
    rw [ofJson]
    constructor
    · intro h
      cases hs : ofText? s with
      | some u =>
        rw [hs] at h
        injection h with h
        exact .text (h ▸ hs)
      | none => rw [hs] at h; cases h
    · rintro ⟨⟩
      rename_i hs
      rw [hs]
  | null | boolean | array | object =>
    constructor
    · intro h
      cases h
    · intro h
      cases h

end Instant

end LiveTail
