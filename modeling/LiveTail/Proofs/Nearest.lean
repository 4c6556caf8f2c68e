import LiveTail.Number.Binary
import Mathlib.Algebra.Order.Round
import Mathlib.Data.Rat.Floor
import Mathlib.Tactic.Linarith
import Mathlib.Tactic.NormNum
import Mathlib.Tactic.Positivity
import Mathlib.Tactic.Ring
/-! The numbers that a binary format holds and the nearest of them. Numbers of one size are the
multiples of a unit, so the nearest one is found among these, and of two equally near ones exactly
one is an even multiple. -/
namespace LiveTail

namespace BinaryFormat

/-- A format whose numbers have two digits at least, with fractions and with units greater than
one. -/
structure Proper (f : BinaryFormat) : Prop where
  one_lt_precision : 1 < f.precision
  minExponent_nonpos : f.minExponent ≤ 0
  one_lt_maxExponent : 1 < f.maxExponent

theorem Proper.precision_pos {f : BinaryFormat} (hf : f.Proper) : 0 < f.precision :=
  Nat.zero_lt_of_lt hf.one_lt_precision

theorem proper_double : double.Proper := ⟨by decide, by decide, by decide⟩

theorem proper_single : single.Proper := ⟨by decide, by decide, by decide⟩

/-- The rational has few enough digits for the format, and none below its last place. -/
def Represents (f : BinaryFormat) (y : ℚ) : Prop :=
  ∃ m e : ℤ, f.minExponent ≤ e ∧ |m| < 2 ^ f.precision ∧ y = m * 2 ^ e

/-- The format has no number nearer to `q` than `v`. -/
structure Rounds (f : BinaryFormat) (q v : ℚ) : Prop where
  represents : f.Represents v
  nearest : ∀ y, f.Represents y → |q - v| ≤ |q - y|

/-- The last digit of the number is even, when it is written with all the digits it can have. -/
def EndsEven (f : BinaryFormat) (v : ℚ) : Prop :=
  ∃ m e : ℤ, f.minExponent ≤ e ∧ |m| < 2 ^ f.precision ∧
    (e = f.minExponent ∨ 2 ^ (f.precision - 1) ≤ |m|) ∧ Even m ∧ v = m * 2 ^ e

/-- Of the numbers nearest to `q`, `v` is the only one, or the only one that ends in an even
digit. -/
structure RoundsEven (f : BinaryFormat) (q v : ℚ) : Prop extends f.Rounds q v where
  tie : ∀ y, f.Represents y → |q - y| = |q - v| → y ≠ v → f.EndsEven v ∧ ¬ f.EndsEven y

variable {f : BinaryFormat} {q v : ℚ}

theorem represents_zero (f : BinaryFormat) : f.Represents 0 :=
  ⟨0, f.minExponent, le_rfl, by rw [abs_zero]; positivity, by rw [Int.cast_zero, zero_mul]⟩

theorem Represents.neg {y : ℚ} (h : f.Represents y) : f.Represents (-y) := by
  obtain ⟨m, e, he, hm, rfl⟩ := h
  refine ⟨-m, e, he, by rwa [abs_neg], ?_⟩
  push_cast
  ring

theorem Proper.carry (hf : f.Proper) (e : ℤ) :
    (2 : ℚ) ^ (f.precision - 1) * 2 ^ (e + 1) = 2 ^ f.precision * 2 ^ e := by
  obtain ⟨p, hp⟩ := Nat.exists_eq_add_one.2 hf.precision_pos
  rw [hp, Nat.add_sub_cancel, zpow_add_one₀ two_ne_zero, pow_succ]
  ring

theorem Proper.exists_carry (hf : f.Proper) {m : ℤ} (hm : |m| = 2 ^ f.precision) (e : ℤ) :
    ∃ k : ℤ, |k| = 2 ^ (f.precision - 1) ∧ |k| < 2 ^ f.precision ∧
      (m : ℚ) * 2 ^ e = k * 2 ^ (e + 1) := by
  have hcarry := hf.carry e
  have hless : (2 : ℤ) ^ (f.precision - 1) < 2 ^ f.precision :=
    pow_lt_pow_right₀ (by norm_num) (Nat.sub_one_lt hf.precision_pos.ne')
  have habs : |(2 : ℤ) ^ (f.precision - 1)| = 2 ^ (f.precision - 1) := abs_of_nonneg (by positivity)
  rcases (abs_eq (by positivity)).1 hm with rfl | rfl
  · refine ⟨2 ^ (f.precision - 1), habs, habs.trans_lt hless, ?_⟩
    push_cast
    exact hcarry.symm
  · refine ⟨-2 ^ (f.precision - 1), by rw [abs_neg, habs], by rwa [abs_neg, habs], ?_⟩
    push_cast
    rw [neg_mul, neg_mul, hcarry]

/-- One digit too many is no harm if the number is the next power of two. -/
theorem Proper.represents_of_le (hf : f.Proper) {m e : ℤ} (he : f.minExponent ≤ e)
    (hm : |m| ≤ 2 ^ f.precision) : f.Represents (m * 2 ^ e) := by
  rcases hm.lt_or_eq with hlt | heq
  · exact ⟨m, e, he, hlt, rfl⟩
  · obtain ⟨k, -, hless, hcarry⟩ := hf.exists_carry heq e
    exact ⟨k, e + 1, by omega, hless, hcarry⟩

/-- The next power of two ends in a zero. -/
theorem Proper.endsEven_of_le (hf : f.Proper) {m e : ℤ} (he : f.minExponent ≤ e)
    (hm : |m| ≤ 2 ^ f.precision) (hfull : e = f.minExponent ∨ 2 ^ (f.precision - 1) ≤ |m|)
    (heven : Even m) : f.EndsEven (m * 2 ^ e) := by
  rcases hm.lt_or_eq with hlt | heq
  · exact ⟨m, e, he, hlt, hfull, heven, rfl⟩
  · obtain ⟨k, hk, hless, hcarry⟩ := hf.exists_carry heq e
    have hdigits : f.precision - 1 ≠ 0 := (Nat.sub_pos_of_lt hf.one_lt_precision).ne'
    have hzero : Even k := by
      rw [← even_abs, hk]
      exact even_two.pow_of_ne_zero hdigits
    exact ⟨k, e + 1, by omega, hless, .inr hk.ge, hzero, hcarry⟩

theorem mul_zpow_of_le (m : ℤ) {d e : ℤ} (h : e ≤ d) :
    (m : ℚ) * 2 ^ d = (m * 2 ^ (d - e).toNat : ℤ) * 2 ^ e := by
  obtain ⟨j, rfl⟩ : ∃ j : ℕ, d = e + j := ⟨(d - e).toNat, by omega⟩
  rw [show (e + j - e).toNat = j by omega, zpow_add₀ two_ne_zero, zpow_natCast]
  push_cast
  ring

/-- A number that ends in an odd digit does not end in an even one. -/
theorem Proper.not_endsEven (hf : f.Proper) {k e : ℤ}
    (hfull : e = f.minExponent ∨ 2 ^ (f.precision - 1) ≤ |k|) (hodd : Odd k) :
    ¬ f.EndsEven (k * 2 ^ e) := by
  rintro ⟨m, d, hd, hm, -, heven, heq⟩
  have hunit (c : ℤ) : (2 : ℚ) ^ c ≠ 0 := (zpow_pos two_pos c).ne'
  rcases le_or_gt e d with hed | hed
  · -- with the unit `2 ^ e` its digits are a multiple of the even ones
    rw [mul_zpow_of_le m hed] at heq
    have hk : k = m * 2 ^ (d - e).toNat := by exact_mod_cast mul_right_cancel₀ (hunit e) heq
    rw [hk] at hodd
    exact Int.not_even_iff_odd.2 hodd (heven.mul_right _)
  · -- there is no room for a further digit
    rw [mul_zpow_of_le k hed.le] at heq
    have hmk : k * 2 ^ (e - d).toNat = m := by exact_mod_cast mul_right_cancel₀ (hunit d) heq
    have hlarge : 2 ^ (f.precision - 1) ≤ |k| := hfull.resolve_left (by omega)
    have htwo : (2 : ℤ) ^ 1 ≤ 2 ^ (e - d).toNat := pow_le_pow_right₀ (by norm_num) (by omega)
    apply hm.not_ge
    calc (2 : ℤ) ^ f.precision = 2 ^ (f.precision - 1) * 2 ^ 1 := by
          rw [← pow_add, Nat.sub_add_cancel hf.precision_pos]
      _ ≤ |k| * 2 ^ (e - d).toNat := mul_le_mul hlarge htwo (by positivity) (abs_nonneg k)
      _ = |m| := by rw [← hmk, abs_mul, abs_of_nonneg (by positivity : (0 : ℤ) ≤ 2 ^ _)]

theorem abs_sub_multiple (q : ℚ) (k e : ℤ) :
    |q - k * 2 ^ e| = |q * 2 ^ (-e) - k| * 2 ^ e := by
  have hunit : (0 : ℚ) < 2 ^ e := zpow_pos two_pos e
  have hsplit : q - k * 2 ^ e = (q * 2 ^ (-e) - k) * 2 ^ e := by
    rw [sub_mul, mul_assoc, ← zpow_add₀ two_ne_zero, neg_add_cancel, zpow_zero, mul_one]
  rw [hsplit, abs_mul, abs_of_pos hunit]

theorem one_le_abs_sub {r k : ℤ} (h : k ≠ r) : (1 : ℚ) ≤ |(r : ℚ) - k| := by
  rw [← Int.cast_sub, ← Int.cast_abs]
  exact_mod_cast Int.one_le_abs (sub_ne_zero.2 h.symm)

/-- Of the multiples of a unit, none is nearer than one that is at most half a unit away. -/
theorem abs_sub_multiple_le {r e : ℤ} (hr : |q * 2 ^ (-e) - r| ≤ 1 / 2) (k : ℤ) :
    |q - r * 2 ^ e| ≤ |q - k * 2 ^ e| := by
  rw [abs_sub_multiple, abs_sub_multiple]
  apply mul_le_mul_of_nonneg_right _ (zpow_pos two_pos e).le
  by_cases hkr : k = r
  · rw [hkr]
  · have hapart := one_le_abs_sub hkr
    have htriangle := abs_sub_le (r : ℚ) (q * 2 ^ (-e)) k
    rw [abs_sub_comm (r : ℚ) (q * 2 ^ (-e))] at htriangle
    linarith

/-- If another multiple is as near, the number lies in the middle between neighbours. -/
theorem multiple_of_tie {r k e : ℤ} (hr : |q * 2 ^ (-e) - r| ≤ 1 / 2)
    (htie : |q - k * 2 ^ e| = |q - r * 2 ^ e|) (hkr : k ≠ r) :
    |q * 2 ^ (-e) - r| = 1 / 2 ∧ |q * 2 ^ (-e) - k| = 1 / 2 ∧ |r - k| = 1 := by
  rw [abs_sub_multiple, abs_sub_multiple] at htie
  have hsame := mul_right_cancel₀ (zpow_pos two_pos e).ne' htie
  have hapart := one_le_abs_sub hkr
  have htriangle := abs_sub_le (r : ℚ) (q * 2 ^ (-e)) k
  rw [abs_sub_comm (r : ℚ) (q * 2 ^ (-e))] at htriangle
  have hhalf : |q * 2 ^ (-e) - r| = 1 / 2 := by linarith
  have hstep : |(r : ℚ) - k| = 1 := by linarith
  exact ⟨hhalf, hsame.trans hhalf, by exact_mod_cast hstep⟩

/-- Rounding to a unit does not go beyond the next power of two. -/
theorem abs_le_of_near {r e : ℤ} (hq : |q| < 2 ^ (e + f.precision))
    (hr : |q * 2 ^ (-e) - r| ≤ 1 / 2) : |r| ≤ 2 ^ f.precision := by
  have hunit : (0 : ℚ) < 2 ^ e := zpow_pos two_pos e
  have hscaled : |q * 2 ^ (-e)| < 2 ^ f.precision := by
    rw [zpow_neg, ← div_eq_mul_inv, abs_div, abs_of_pos hunit, div_lt_iff₀ hunit, ← zpow_natCast,
      ← zpow_add₀ two_ne_zero, add_comm]
    exact hq
  obtain ⟨hlow, hhigh⟩ := abs_lt.1 hscaled
  obtain ⟨hr₁, hr₂⟩ := abs_le.1 hr
  have habove : (r : ℚ) < 2 ^ f.precision + 1 := by linarith
  have hbelow : -(2 ^ f.precision + 1 : ℚ) < r := by linarith
  have habove' : r < 2 ^ f.precision + 1 := by exact_mod_cast habove
  have hbelow' : -(2 ^ f.precision + 1) < r := by exact_mod_cast hbelow
  exact abs_le.2 ⟨by omega, by omega⟩

/-- Rounding to a unit does not take a digit away. -/
theorem Proper.le_of_near (hf : f.Proper) {r e : ℤ} (hq : 2 ^ (e + f.precision - 1) ≤ q)
    (hr : |q * 2 ^ (-e) - r| ≤ 1 / 2) : 2 ^ (f.precision - 1) ≤ |r| := by
  have hunit : (0 : ℚ) < 2 ^ e := zpow_pos two_pos e
  have hscaled : (2 : ℚ) ^ (f.precision - 1) ≤ q * 2 ^ (-e) := by
    rw [zpow_neg, ← div_eq_mul_inv, le_div_iff₀ hunit, ← zpow_natCast, ← zpow_add₀ two_ne_zero]
    have hexp : ((f.precision - 1 : ℕ) : ℤ) + e = e + f.precision - 1 := by
      have hpos := hf.precision_pos
      omega
    rwa [hexp]
  have habove : (2 : ℚ) ^ (f.precision - 1) < r + 1 := by linarith [(abs_le.1 hr).2]
  have habove' : 2 ^ (f.precision - 1) < r + 1 := by exact_mod_cast habove
  exact (Int.lt_add_one_iff.1 habove').trans (le_abs_self r)

/-- The format holds the multiple of a unit that is nearest to a number, if the unit is not too
small for numbers of this size. -/
theorem Proper.represents_of_near (hf : f.Proper) {r e : ℤ} (he : f.minExponent ≤ e)
    (hq : |q| < 2 ^ (e + f.precision)) (hr : |q * 2 ^ (-e) - r| ≤ 1 / 2) :
    f.Represents (r * 2 ^ e) :=
  hf.represents_of_le he (abs_le_of_near hq hr)

namespace Rounds

theorem neg (h : f.Rounds q v) : f.Rounds (-q) (-v) := by
  refine ⟨h.represents.neg, ?_⟩
  intro y hy
  have hnear := h.nearest (-y) hy.neg
  rwa [← abs_neg (q - v), ← abs_neg (q - -y), neg_sub', neg_sub', neg_neg] at hnear

/-- A number that the format holds is not passed on the way down. -/
theorem le_of_represents (h : f.Rounds q v) {y : ℚ} (hy : f.Represents y) (hq : q ≤ y) : v ≤ y := by
  by_contra hlt
  rw [not_le] at hlt
  have hnear := h.nearest y hy
  rw [abs_of_nonpos (by linarith), abs_of_nonpos (by linarith)] at hnear
  linarith

theorem ge_of_represents (h : f.Rounds q v) {y : ℚ} (hy : f.Represents y) (hq : y ≤ q) : y ≤ v := by
  have hflip := h.neg.le_of_represents hy.neg (neg_le_neg hq)
  exact neg_le_neg_iff.1 hflip

theorem eq_of_represents (h : f.Rounds q v) (hq : f.Represents q) : v = q :=
  le_antisymm (h.le_of_represents hq le_rfl) (h.ge_of_represents hq le_rfl)

/-- The error is half a unit of the last place that numbers of this size have. -/
theorem error_le (hf : f.Proper) (h : f.Rounds q v) {e : ℤ} (he : f.minExponent ≤ e)
    (hq : |q| < 2 ^ (e + f.precision)) : |q - v| ≤ 2 ^ e / 2 := by
  have hclose := abs_sub_round (q * 2 ^ (-e))
  generalize round (q * 2 ^ (-e)) = m at hclose
  have hmultiple : |q - m * 2 ^ e| ≤ 2 ^ e / 2 := by
    calc |q - m * 2 ^ e| = |q * 2 ^ (-e) - m| * 2 ^ e := abs_sub_multiple q m e
      _ ≤ 1 / 2 * 2 ^ e := mul_le_mul_of_nonneg_right hclose (zpow_pos two_pos e).le
      _ = 2 ^ e / 2 := by ring
  exact (h.nearest _ (hf.represents_of_near he hq hclose)).trans hmultiple

end Rounds

/-- A number whose unit is smaller lies below the least one that has all its digits in front of the
unit. -/
theorem mul_zpow_le_of_lt {m d e : ℤ} (hm : |m| < 2 ^ f.precision) (hd : d < e) :
    (m : ℚ) * 2 ^ d ≤ 2 ^ (e + f.precision - 1) := by
  have hm' : (m : ℚ) ≤ 2 ^ f.precision := by exact_mod_cast (abs_lt.1 hm).2.le
  calc (m : ℚ) * 2 ^ d ≤ 2 ^ f.precision * 2 ^ d :=
        mul_le_mul_of_nonneg_right hm' (zpow_pos two_pos d).le
    _ = 2 ^ (d + f.precision) := by rw [zpow_add₀ two_ne_zero, zpow_natCast, mul_comm]
    _ ≤ 2 ^ (e + f.precision - 1) := zpow_le_zpow_right₀ one_le_two (by omega)

/-- A number as near as the nearest multiple of the unit is a multiple as well, if the unit is the
last place of numbers of this size. -/
theorem Proper.exists_multiple_of_near (hf : f.Proper) {r e : ℤ}
    (hlow : e = f.minExponent ∨ 2 ^ (e + f.precision - 1) ≤ q) (hr : |q * 2 ^ (-e) - r| ≤ 1 / 2)
    {y : ℚ} (hy : f.Represents y) (hnear : |q - y| ≤ |q - r * 2 ^ e|) :
    ∃ k : ℤ, y = k * 2 ^ e := by
  obtain ⟨m, d, hd, hm, rfl⟩ := hy
  rcases le_or_gt e d with hed | hed
  · exact ⟨_, mul_zpow_of_le m hed⟩
  · -- the least number with all its digits is a multiple of the unit and lies in between
    have hbound : (2 : ℚ) ^ (e + f.precision - 1) ≤ q := hlow.resolve_left (by omega)
    obtain ⟨p, hp⟩ := Nat.exists_eq_add_one.2 hf.precision_pos
    have hleast : (2 : ℚ) ^ (e + f.precision - 1) = (2 ^ p : ℤ) * 2 ^ e := by
      rw [hp, show e + ((p + 1 : ℕ) : ℤ) - 1 = e + p by push_cast; ring, zpow_add₀ two_ne_zero,
        zpow_natCast]
      push_cast
      ring
    have hless : (m : ℚ) * 2 ^ d ≤ 2 ^ (e + f.precision - 1) := mul_zpow_le_of_lt hm hed
    have hreach : q - m * 2 ^ d ≤ q - 2 ^ (e + f.precision - 1) := by
      calc q - m * 2 ^ d ≤ |q - m * 2 ^ d| := le_abs_self _
        _ ≤ |q - r * 2 ^ e| := hnear
        _ ≤ |q - (2 ^ p : ℤ) * 2 ^ e| := abs_sub_multiple_le hr _
        _ = q - 2 ^ (e + f.precision - 1) := by rw [← hleast, abs_of_nonneg (by linarith)]
    exact ⟨2 ^ p, by rw [← hleast]; linarith⟩

/-- The multiple of a unit that is nearest to a number is the nearest of the format, if the unit is
the last place of numbers of this size. -/
theorem Proper.rounds_of_unit (hf : f.Proper) {r e : ℤ} (he : f.minExponent ≤ e)
    (hq : |q| < 2 ^ (e + f.precision)) (hlow : e = f.minExponent ∨ 2 ^ (e + f.precision - 1) ≤ q)
    (hr : |q * 2 ^ (-e) - r| ≤ 1 / 2) : f.Rounds q (r * 2 ^ e) := by
  refine ⟨hf.represents_of_near he hq hr, ?_⟩
  intro y hy
  by_contra hless
  rw [not_le] at hless
  obtain ⟨k, rfl⟩ := hf.exists_multiple_of_near hlow hr hy hless.le
  exact hless.not_ge (abs_sub_multiple_le hr k)

/-- If the multiple is the even one of two equally near, its last digit is the even one. -/
theorem Proper.roundsEven_of_unit (hf : f.Proper) {r e : ℤ} (he : f.minExponent ≤ e)
    (hq : |q| < 2 ^ (e + f.precision)) (hlow : e = f.minExponent ∨ 2 ^ (e + f.precision - 1) ≤ q)
    (hr : |q * 2 ^ (-e) - r| ≤ 1 / 2) (heven : |q * 2 ^ (-e) - r| = 1 / 2 → Even r) :
    f.RoundsEven q (r * 2 ^ e) := by
  refine ⟨hf.rounds_of_unit he hq hlow hr, ?_⟩
  intro y hy htie hne
  -- whatever is as near is the multiple on the other side, one unit away and so an odd one
  obtain ⟨k, rfl⟩ := hf.exists_multiple_of_near hlow hr hy htie.le
  have hkr : k ≠ r := by
    rintro rfl
    exact hne rfl
  obtain ⟨hr', hk', hstep⟩ := multiple_of_tie hr htie hkr
  have hodd : Odd k := by
    obtain ⟨j, hj⟩ := heven hr'
    rw [Int.odd_iff]
    rcases (abs_eq zero_le_one).1 hstep with h | h
    · omega
    · omega
  constructor
  · exact hf.endsEven_of_le he (abs_le_of_near hq hr)
      (hlow.imp_right fun hbound => hf.le_of_near hbound hr) (heven hr')
  · exact hf.not_endsEven (hlow.imp_right fun hbound => hf.le_of_near hbound hk'.le) hodd

theorem EndsEven.neg (h : f.EndsEven v) : f.EndsEven (-v) := by
  obtain ⟨m, e, he, hm, hfull, heven, rfl⟩ := h
  refine ⟨-m, e, he, by rwa [abs_neg], by rwa [abs_neg], heven.neg, ?_⟩
  push_cast
  ring

namespace RoundsEven

/-- Nothing is as near to a number of the format as the number itself. -/
theorem of_represents (h : f.Represents q) : f.RoundsEven q q := by
  refine ⟨⟨h, ?_⟩, ?_⟩
  · intro y _
    rw [sub_self, abs_zero]
    exact abs_nonneg _
  · intro y _ htie hne
    rw [sub_self, abs_zero, abs_eq_zero] at htie
    exact absurd (sub_eq_zero.1 htie).symm hne

theorem neg (h : f.RoundsEven q v) : f.RoundsEven (-q) (-v) := by
  refine ⟨h.toRounds.neg, ?_⟩
  intro y hy htie hne
  rw [← abs_neg (-q - y), ← abs_neg (-q - -v), neg_sub', neg_sub', neg_neg, neg_neg] at htie
  obtain ⟨heven, hodd⟩ := h.tie (-y) hy.neg htie (fun heq => hne (neg_eq_iff_eq_neg.1 heq))
  exact ⟨heven.neg, fun hy' => hodd hy'.neg⟩

/-- The number is determined: two that are equally near do not both end in an even digit. -/
theorem iff_eq (h : f.RoundsEven q v) (w : ℚ) : f.RoundsEven q w ↔ w = v := by
  constructor
  · intro hw
    by_contra hne
    have hsame : |q - w| = |q - v| :=
      le_antisymm (hw.nearest v h.represents) (h.nearest w hw.represents)
    exact (h.tie w hw.represents hsame hne).2
      (hw.tie v h.represents hsame.symm (Ne.symm hne)).1
  · rintro rfl
    exact h

end RoundsEven

end BinaryFormat

end LiveTail
