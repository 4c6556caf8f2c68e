import LiveTail.Proofs.Milliseconds
import LiveTail.Proofs.Nearest
import Mathlib.Algebra.Order.Floor.Ring
import Mathlib.Data.Rat.Floor
/-! Floating-point operations by their exact values. Every one of them gives the number of the
format that is nearest to the exact result, and the even one of two. -/
namespace LiveTail

namespace Quotient

/-- The rational number. -/
def value (a : Quotient) : ℚ := a.num / a.den

theorem value_ofScaled (m : ℕ) (e : ℤ) : (ofScaled m e).value = m * 2 ^ e :=
  Binary.magnitude_eq m e

theorem value_mul (a b : Quotient) : (a.mul b).value = a.value * b.value := by
  simp only [value, mul, Nat.cast_mul]
  rw [mul_div_mul_comm]

theorem value_div (a b : Quotient) (h : 0 < b.num) : (a.div b h).value = a.value / b.value := by
  simp only [value, div, Nat.cast_mul]
  rw [div_div_div_eq]

theorem value_nonneg (a : Quotient) : 0 ≤ a.value :=
  div_nonneg (Nat.cast_nonneg _) (Nat.cast_nonneg _)

theorem roundEven_cases (a : Quotient) :
    (a.roundEven = a.num / a.den ∧ 2 * (a.num % a.den) ≤ a.den) ∨
      (a.roundEven = a.num / a.den + 1 ∧ a.den ≤ 2 * (a.num % a.den)) := by
  unfold roundEven
  dsimp only
  split
  · exact .inl ⟨rfl, by omega⟩
  · split
    · exact .inr ⟨rfl, by omega⟩
    · split
      · exact .inl ⟨rfl, by omega⟩
      · exact .inr ⟨rfl, by omega⟩

theorem even_roundEven (a : Quotient) (h : 2 * (a.num % a.den) = a.den) : Even a.roundEven := by
  unfold roundEven
  dsimp only
  rw [if_neg (by omega), if_neg (by omega)]
  split
  · exact Nat.even_iff.2 ‹_›
  · exact Nat.even_iff.2 (by omega)

/-- How far the nearest whole number lies below or above, in parts of the denominator. -/
theorem sub_roundEven_cases (a : Quotient) :
    (a.value - a.roundEven = (a.num % a.den : ℕ) / a.den ∧ 2 * (a.num % a.den) ≤ a.den) ∨
      (a.value - a.roundEven = (a.num % a.den : ℕ) / a.den - 1 ∧
        a.den ≤ 2 * (a.num % a.den)) := by
  have hden : (0 : ℚ) < a.den := by exact_mod_cast a.den_pos
  have hsplit : (a.num : ℚ) = a.den * (a.num / a.den : ℕ) + (a.num % a.den : ℕ) := by
    exact_mod_cast (Nat.div_add_mod a.num a.den).symm
  have hvalue : a.value = (a.num / a.den : ℕ) + (a.num % a.den : ℕ) / a.den := by
    rw [value, hsplit, add_div, mul_div_cancel_left₀ _ hden.ne']
  rcases a.roundEven_cases with ⟨hround, hhalf⟩ | ⟨hround, hhalf⟩
  · refine .inl ⟨?_, hhalf⟩
    rw [hround, hvalue, add_sub_cancel_left]
  · refine .inr ⟨?_, hhalf⟩
    rw [hround, hvalue, Nat.cast_add_one, add_sub_add_left_eq_sub]

theorem rest_bounds (a : Quotient) :
    (0 : ℚ) ≤ (a.num % a.den : ℕ) / a.den ∧ ((a.num % a.den : ℕ) / a.den : ℚ) < 1 := by
  have hden : (0 : ℚ) < a.den := by exact_mod_cast a.den_pos
  refine ⟨div_nonneg (Nat.cast_nonneg _) hden.le, ?_⟩
  rw [div_lt_one hden]
  exact_mod_cast Nat.mod_lt a.num a.den_pos

/-- The nearest whole number is off by a half at most. -/
theorem roundEven_error (a : Quotient) : |a.value - a.roundEven| ≤ 1 / 2 := by
  have hden : (0 : ℚ) < a.den := by exact_mod_cast a.den_pos
  obtain ⟨hrest, hless⟩ := a.rest_bounds
  rcases a.sub_roundEven_cases with ⟨hdiff, hhalf⟩ | ⟨hdiff, hhalf⟩
  · have hbelow : ((a.num % a.den : ℕ) : ℚ) / a.den ≤ 1 / 2 := by
      rw [div_le_div_iff₀ hden two_pos]
      exact_mod_cast (by omega : a.num % a.den * 2 ≤ 1 * a.den)
    rw [hdiff, abs_le]
    constructor <;> linarith
  · have habove : (1 : ℚ) / 2 ≤ ((a.num % a.den : ℕ) : ℚ) / a.den := by
      rw [div_le_div_iff₀ two_pos hden]
      exact_mod_cast (by omega : 1 * a.den ≤ a.num % a.den * 2)
    rw [hdiff, abs_le]
    constructor <;> linarith

/-- Of two whole numbers that are equally near it is the even one. -/
theorem even_roundEven_of_tie (a : Quotient) (h : |a.value - a.roundEven| = 1 / 2) :
    Even a.roundEven := by
  have hden : (0 : ℚ) < a.den := by exact_mod_cast a.den_pos
  obtain ⟨hrest, hless⟩ := a.rest_bounds
  have hhalf : ((a.num % a.den : ℕ) : ℚ) / a.den = 1 / 2 := by
    rcases a.sub_roundEven_cases with ⟨hdiff, -⟩ | ⟨hdiff, -⟩
    · rwa [hdiff, abs_of_nonneg hrest] at h
    · rw [hdiff, abs_of_neg (by linarith)] at h
      linarith
  apply a.even_roundEven
  rw [div_eq_div_iff hden.ne' two_ne_zero, one_mul, mul_comm] at hhalf
  exact_mod_cast hhalf

theorem pow_log2_bounds (n : ℕ) (hn : n ≠ 0) :
    (2 : ℚ) ^ (n.log2 : ℤ) ≤ n ∧ (n : ℚ) < 2 ^ ((n.log2 : ℤ) + 1) := by
  constructor
  · rw [zpow_natCast]
    exact_mod_cast Nat.log2_self_le hn
  · rw [← Nat.cast_succ, zpow_natCast]
    exact_mod_cast Nat.lt_log2_self

theorem reaches_iff (a : Quotient) (e : ℤ) :
    (if 0 ≤ e then a.den * Nat.pow 2 e.toNat ≤ a.num else a.den ≤ a.num * Nat.pow 2 (-e).toNat) ↔
      (2 : ℚ) ^ e ≤ a.value := by
  have hden : (0 : ℚ) < a.den := by exact_mod_cast a.den_pos
  rw [value, le_div_iff₀ hden]
  split
  · rename_i he
    obtain ⟨k, rfl⟩ := Int.eq_ofNat_of_zero_le he
    rw [zpow_natCast, mul_comm, Int.toNat_natCast]
    exact_mod_cast Iff.rfl
  · rename_i he
    obtain ⟨k, hk⟩ := Int.eq_ofNat_of_zero_le (show 0 ≤ -e by omega)
    obtain rfl : e = -(k : ℤ) := by omega
    rw [zpow_neg, zpow_natCast, inv_mul_le_iff₀ (by positivity), neg_neg, Int.toNat_natCast,
      mul_comm]
    exact_mod_cast Iff.rfl

/-- The binary logarithm of a positive quotient. -/
theorem log2_bounds (a : Quotient) (h : a.num ≠ 0) :
    (2 : ℚ) ^ a.log2 ≤ a.value ∧ a.value < 2 ^ (a.log2 + 1) := by
  have hden : (0 : ℚ) < a.den := by exact_mod_cast a.den_pos
  obtain ⟨hnum₁, hnum₂⟩ := pow_log2_bounds a.num h
  obtain ⟨hden₁, hden₂⟩ := pow_log2_bounds a.den a.den_pos.ne'
  set e : ℤ := (a.num.log2 : ℤ) - a.den.log2 with he
  have hpos (k : ℤ) : (0 : ℚ) < 2 ^ k := zpow_pos two_pos k
  have hlower : (2 : ℚ) ^ (e - 1) ≤ a.value := by
    rw [value, le_div_iff₀ hden]
    calc (2 : ℚ) ^ (e - 1) * a.den
        ≤ 2 ^ (e - 1) * 2 ^ ((a.den.log2 : ℤ) + 1) :=
          mul_le_mul_of_nonneg_left hden₂.le (hpos _).le
      _ = 2 ^ (a.num.log2 : ℤ) := by
          rw [← zpow_add₀ two_ne_zero, he]
          congr 1
          omega
      _ ≤ a.num := hnum₁
  have hupper : a.value < 2 ^ (e + 1) := by
    rw [value, div_lt_iff₀ hden]
    calc (a.num : ℚ) < 2 ^ ((a.num.log2 : ℤ) + 1) := hnum₂
      _ = 2 ^ (e + 1) * 2 ^ (a.den.log2 : ℤ) := by
          rw [← zpow_add₀ two_ne_zero, he]
          congr 1
          omega
      _ ≤ 2 ^ (e + 1) * a.den := mul_le_mul_of_nonneg_left hden₁ (hpos _).le
  have hlog : a.log2 = if (2 : ℚ) ^ e ≤ a.value then e else e - 1 := by
    rw [log2]
    exact if_congr (a.reaches_iff e) rfl rfl
  rw [hlog]
  split
  · rename_i hreach
    exact ⟨hreach, hupper⟩
  · rename_i hreach
    exact ⟨hlower, by rw [sub_add_cancel]; exact not_le.1 hreach⟩

/-- The unit of the numbers of this size that a format has. -/
theorem unit_bounds {f : BinaryFormat} (a : Quotient) (h : a.num ≠ 0) {e : ℤ}
    (he : e = max (a.log2 - (f.precision - 1)) f.minExponent) :
    f.minExponent ≤ e ∧ |a.value| < 2 ^ (e + f.precision) ∧
      (e = f.minExponent ∨ (2 : ℚ) ^ (e + f.precision - 1) ≤ a.value) := by
  obtain ⟨hlog₁, hlog₂⟩ := a.log2_bounds h
  refine ⟨he ▸ le_max_right _ _, ?_, ?_⟩
  · rw [abs_of_nonneg a.value_nonneg]
    exact hlog₂.trans_le (zpow_le_zpow_right₀ one_le_two (by omega))
  · rcases max_choice (a.log2 - ((f.precision : ℤ) - 1)) f.minExponent with hmax | hmax
    · right
      rw [he, hmax, show a.log2 - ((f.precision : ℤ) - 1) + f.precision - 1 = a.log2 by ring]
      exact hlog₁
    · exact .inl (he.trans hmax)

/-- The quotient in units, rounded. -/
theorem roundEven_mul_ofScaled (a : Quotient) (e : ℤ) :
    |a.value * 2 ^ (-e) - ((a.mul (.ofScaled 1 (-e))).roundEven : ℤ)| ≤ 1 / 2 ∧
      (|a.value * 2 ^ (-e) - ((a.mul (.ofScaled 1 (-e))).roundEven : ℤ)| = 1 / 2 →
        Even ((a.mul (.ofScaled 1 (-e))).roundEven : ℤ)) := by
  have hscaled : a.value * 2 ^ (-e) = (a.mul (.ofScaled 1 (-e))).value := by
    rw [value_mul, value_ofScaled, Nat.cast_one, one_mul]
  rw [hscaled, Int.cast_natCast, Int.even_coe_nat]
  exact ⟨roundEven_error _, even_roundEven_of_tie _⟩

end Quotient

namespace Binary

variable {f : BinaryFormat}

/-- A quotient becomes the number of the format nearest to it, the even one of two, unless it is too
large. -/
theorem round_value (hf : f.Proper) (s : Bool) (a : Quotient)
    (h : a.value < 2 ^ (f.maxExponent + f.precision - 1)) :
    ∃ v, (round f s a).value? = some v ∧ f.RoundsEven (if s then -a.value else a.value) v := by
  suffices hsuff : ∃ m e, round f s a = .finite s m e ∧ f.RoundsEven a.value (m * 2 ^ e) by
    obtain ⟨m, e, hround, hnear⟩ := hsuff
    rw [hround]
    cases s with
    | false => exact ⟨_, rfl, hnear⟩
    | true => exact ⟨_, rfl, hnear.neg⟩
  by_cases hzero : a.num = 0
  · refine ⟨0, f.minExponent, by rw [round, if_pos hzero, zero], ?_⟩
    have hvalue : a.value = 0 := by rw [Quotient.value, hzero, Nat.cast_zero, zero_div]
    rw [hvalue, Nat.cast_zero, zero_mul]
    exact .of_represents f.represents_zero
  · set e : ℤ := max (a.log2 - (f.precision - 1)) f.minExponent with he
    set r : ℕ := (a.mul (.ofScaled 1 (-e))).roundEven with hr
    obtain ⟨hmin, hhigh, hlow⟩ := a.unit_bounds hzero he
    obtain ⟨hnearest, heven⟩ := a.roundEven_mul_ofScaled e
    have hnear := hf.roundsEven_of_unit hmin hhigh hlow hnearest heven
    -- one more than the unit is still in range, so that a carry does not end at infinity
    have hmax : e + 1 ≤ f.maxExponent := by
      rcases hlow with hlow | hlow
      · have hzero := hf.minExponent_nonpos
        have hone := hf.one_lt_maxExponent
        omega
      · have hpowers := (zpow_lt_zpow_iff_right₀ (one_lt_two (α := ℚ))).1 (hlow.trans_lt h)
        omega
    rw [round, if_neg hzero]
    simp only [← he, ← hr]
    split
    · rename_i hcarry
      refine ⟨2 ^ (f.precision - 1), e + 1, if_neg (by dsimp only; omega), ?_⟩
      have hcarried : ((2 ^ (f.precision - 1) : ℕ) : ℚ) * 2 ^ (e + 1) = r * 2 ^ e := by
        rw [hcarry, Nat.pow_eq]
        push_cast
        exact hf.carry e
      rw [hcarried]
      exact hnear
    · exact ⟨r, e, if_neg (by dsimp only; omega), hnear⟩

theorem round_ofScaled_value (hf : f.Proper) (n e : ℤ)
    (h : |(n : ℚ) * 2 ^ e| < 2 ^ (f.maxExponent + f.precision - 1)) :
    ∃ v, (round f (n < 0) (.ofScaled n.natAbs e)).value? = some v ∧
      f.RoundsEven (n * 2 ^ e) v := by
  have hunit : (0 : ℚ) < 2 ^ e := zpow_pos two_pos e
  have habs : (Quotient.ofScaled n.natAbs e).value = |(n : ℚ)| * 2 ^ e := by
    rw [Quotient.value_ofScaled, Nat.cast_natAbs, Int.cast_abs]
  have hsmall : (Quotient.ofScaled n.natAbs e).value < 2 ^ (f.maxExponent + f.precision - 1) := by
    rwa [habs, ← abs_of_pos hunit, ← abs_mul]
  obtain ⟨v, hv, hnear⟩ := round_value hf (n < 0) _ hsmall
  refine ⟨v, hv, ?_⟩
  rw [habs] at hnear
  rcases lt_or_ge n 0 with hn | hn
  · have hn' : (n : ℚ) ≤ 0 := by exact_mod_cast hn.le
    rwa [decide_eq_true hn, if_pos rfl, abs_of_nonpos hn', neg_mul, neg_neg] at hnear
  · have hn' : (0 : ℚ) ≤ n := by exact_mod_cast hn
    rwa [decide_eq_false (not_lt.2 hn), if_neg (by decide), abs_of_nonneg hn'] at hnear

/-- Whole numbers with few enough digits are kept as they are. -/
theorem ofInt_value (hf : f.Proper) {n : ℤ} (hn : |n| ≤ 2 ^ f.precision) :
    (ofInt f n).value? = some (n : ℚ) := by
  have hpower : (2 : ℚ) ^ (f.precision : ℤ) < 2 ^ (f.maxExponent + f.precision - 1) := by
    have hone := hf.one_lt_maxExponent
    exact zpow_lt_zpow_right₀ one_lt_two (by omega)
  have hsmall : |(n : ℚ) * 2 ^ (0 : ℤ)| < 2 ^ (f.maxExponent + f.precision - 1) := by
    rw [zpow_zero, mul_one]
    refine lt_of_le_of_lt ?_ hpower
    exact_mod_cast hn
  obtain ⟨v, hv, hnear⟩ := round_ofScaled_value hf n 0 hsmall
  have hexact := hnear.eq_of_represents (hf.represents_of_le hf.minExponent_nonpos hn)
  rw [ofInt, hv, hexact, zpow_zero, mul_one]

theorem scaledInt_mul (s : Bool) (m : ℕ) {c e : ℤ} (h : c ≤ e) :
    (scaledInt s m (e - c).toNat : ℚ) * 2 ^ c =
      if s then -((m : ℚ) * 2 ^ e) else m * 2 ^ e := by
  have hmul := BinaryFormat.mul_zpow_of_le m h
  rw [Int.cast_natCast] at hmul
  rw [hmul]
  cases s with
  | false =>
    simp only [scaledInt, Nat.pow_eq, Bool.false_eq_true, if_false]
    push_cast
    rfl
  | true =>
    simp only [scaledInt, Nat.pow_eq, if_true]
    push_cast
    rw [neg_mul]

theorem exists_finite {x : Binary} {q : ℚ} (h : x.value? = some q) :
    ∃ s m e, x = .finite s m e ∧ (if s then -((m : ℚ) * 2 ^ e) else m * 2 ^ e) = q := by
  cases x with
  | nan => cases h
  | infinite => cases h
  | finite s m e => exact ⟨s, m, e, rfl, Option.some.inj h⟩

theorem div_value (hf : f.Proper) {x y : Binary} {q t : ℚ} (hx : x.value? = some q)
    (hy : y.value? = some t) (ht : t ≠ 0) (h : |q / t| < 2 ^ (f.maxExponent + f.precision - 1)) :
    ∃ v, (x.div f y).value? = some v ∧ f.RoundsEven (q / t) v := by
  obtain ⟨s, m, e, rfl, hq⟩ := exists_finite hx
  obtain ⟨s', n, d, rfl, ht'⟩ := exists_finite hy
  have hm : (magnitude m e).value = m * 2 ^ e := magnitude_eq m e
  have hn : (magnitude n d).value = n * 2 ^ d := magnitude_eq n d
  have hpos : 0 < (magnitude n d).num := by
    rw [Nat.pos_iff_ne_zero]
    intro hzero
    rw [Quotient.value, hzero, Nat.cast_zero, zero_div] at hn
    rw [← hn, neg_zero, ite_self] at ht'
    exact ht ht'.symm
  have hvalue : ((magnitude m e).div (magnitude n d) hpos).value = |q / t| := by
    have hm' : (0 : ℚ) ≤ m * 2 ^ e := hm ▸ Quotient.value_nonneg _
    have hn' : (0 : ℚ) ≤ n * 2 ^ d := hn ▸ Quotient.value_nonneg _
    rw [Quotient.value_div, hm, hn, ← hq, ← ht', abs_div]
    cases s <;> cases s' <;> simp [abs_of_nonneg hm', abs_of_nonneg hn']
  -- the quotient is negative if one of the two numbers is
  have hsign : (if s != s' then -|q / t| else |q / t|) = q / t := by
    rw [← hvalue, Quotient.value_div, hm, hn, ← hq, ← ht']
    cases s <;> cases s' <;> simp [neg_div, div_neg]
  obtain ⟨v, hv, hnear⟩ := round_value hf (s != s') _ (hvalue ▸ h)
  rw [hvalue, hsign] at hnear
  exact ⟨v, by rw [div, dif_pos hpos, hv], hnear⟩

theorem add_value (hf : f.Proper) {x y : Binary} {q t : ℚ} (hx : x.value? = some q)
    (hy : y.value? = some t) (h : |q + t| < 2 ^ (f.maxExponent + f.precision - 1)) :
    ∃ v, (x.add f y).value? = some v ∧ f.RoundsEven (q + t) v := by
  obtain ⟨s, m, e, rfl, hq⟩ := exists_finite hx
  obtain ⟨s', n, d, rfl, ht⟩ := exists_finite hy
  have hsum : ((scaledInt s m (e - min e d).toNat + scaledInt s' n (d - min e d).toNat : ℤ) : ℚ) *
      2 ^ min e d = q + t := by
    rw [Int.cast_add, add_mul, scaledInt_mul s m (min_le_left e d),
      scaledInt_mul s' n (min_le_right e d), hq, ht]
  simp only [add]
  generalize scaledInt s m (e - min e d).toNat + scaledInt s' n (d - min e d).toNat = sum
    at hsum ⊢
  rw [← hsum] at h ⊢
  by_cases hzero : sum = 0
  · refine ⟨0, ?_, ?_⟩
    · rw [if_pos hzero, zero, value?, Nat.cast_zero, zero_mul, neg_zero, ite_self]
    · rw [hzero, Int.cast_zero, zero_mul]
      exact .of_represents f.represents_zero
  · rw [if_neg hzero]
    exact round_ofScaled_value hf sum _ h

/-- Finite numbers are in the order of their values. -/
theorem le_iff {x y : Binary} {q t : ℚ} (hx : x.value? = some q) (hy : y.value? = some t) :
    x.le y = true ↔ q ≤ t := by
  obtain ⟨s, m, e, rfl, hq⟩ := exists_finite hx
  obtain ⟨s', n, d, rfl, ht⟩ := exists_finite hy
  have hunit : (0 : ℚ) < 2 ^ min e d := zpow_pos two_pos _
  rw [le, decide_eq_true_iff, ← hq, ← ht, ← scaledInt_mul s m (min_le_left e d),
    ← scaledInt_mul s' n (min_le_right e d), mul_le_mul_iff_left₀ hunit, Int.cast_le]

theorem floor_eq {x : Binary} {q : ℚ} (hx : x.value? = some q) : x.floor = ⌊q⌋ := by
  obtain ⟨s, m, e, rfl, hq⟩ := exists_finite hx
  rw [floor]
  split
  · rename_i he
    have hvalue := scaledInt_mul s m he
    rw [sub_zero, zpow_zero, mul_one, hq] at hvalue
    rw [← hvalue, Int.floor_intCast]
  · rename_i he
    obtain ⟨k, hk⟩ := Int.eq_ofNat_of_zero_le (show 0 ≤ -e by omega)
    have hvalue := scaledInt_mul s m (le_refl e)
    rw [sub_self, Int.toNat_zero, hq, ← neg_neg e, hk, zpow_neg, zpow_natCast, ← div_eq_mul_inv]
      at hvalue
    rw [← hvalue, hk, Int.toNat_natCast]
    exact_mod_cast (Rat.floor_intCast_div_natCast _ _).symm

end Binary

end LiveTail
