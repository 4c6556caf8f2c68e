import LiveTail.Log.Offset
import LiveTail.Proofs.Rounding
/-! Offsets are nearest seconds. The floating-point steps never move one, only the milliseconds do,
because what is cut off from them goes the other way before the base time. -/
namespace LiveTail

/-! ### Milliseconds to seconds -/

namespace BinaryFormat

theorem double_represents_div {k : ℤ} (hk : |k| ≤ 2 ^ 53) (j : ℕ) (hj : j ≤ 1074) :
    double.Represents (k / 2 ^ j) := by
  have hexp : double.minExponent ≤ -(j : ℤ) := by
    simp only [double]
    omega
  have hrep := proper_double.represents_of_le hexp hk
  rwa [zpow_neg, zpow_natCast, ← div_eq_mul_inv] at hrep

theorem double_represents {k : ℤ} (hk : |k| ≤ 2 ^ 53) : double.Represents k := by
  have hrep := double_represents_div hk 0 (by omega)
  rwa [pow_zero, div_one] at hrep

/-- From `2 ^ 43` on, the numbers lie `2 ^ (-9)` apart. -/
theorem Represents.exists_eq_div {x : ℚ} (h : double.Represents x) (hx : 2 ^ 43 ≤ |x|) :
    ∃ k : ℤ, x = k / 2 ^ 9 := by
  obtain ⟨m, e, -, hm, rfl⟩ := h
  have hunit : (0 : ℚ) < 2 ^ e := zpow_pos two_pos e
  have hm' : |(m : ℚ)| < 2 ^ (53 : ℤ) := by exact_mod_cast hm
  have hlarge : (2 : ℚ) ^ (43 : ℤ) < 2 ^ (53 + e) := by
    calc (2 : ℚ) ^ (43 : ℤ) ≤ |(m : ℚ) * 2 ^ e| := by exact_mod_cast hx
      _ = |(m : ℚ)| * 2 ^ e := by rw [abs_mul, abs_of_pos hunit]
      _ < 2 ^ (53 : ℤ) * 2 ^ e := mul_lt_mul_of_pos_right hm' hunit
      _ = 2 ^ (53 + e) := (zpow_add₀ two_ne_zero _ _).symm
  have he : 43 < 53 + e := (zpow_lt_zpow_iff_right₀ (one_lt_two (α := ℚ))).1 hlarge
  obtain ⟨j, rfl⟩ : ∃ j : ℕ, e = j - 9 := ⟨(e + 9).toNat, by omega⟩
  refine ⟨m * 2 ^ j, ?_⟩
  rw [zpow_sub₀ two_ne_zero, zpow_natCast]
  push_cast
  rw [mul_div_assoc]
  norm_num

section

variable {n : ℤ} {q x y : ℚ}

theorem le_of_rounds_half (hn : |n| < 2 ^ 44) (hq : n - 1 / 2 ≤ q) (hx : double.Rounds q x)
    (hy : double.Rounds (x + 1 / 2) y) : n ≤ y := by
  obtain ⟨hlow, hhigh⟩ := abs_lt.1 hn
  have hhalf : ((2 * n - 1 : ℤ) : ℚ) / 2 ^ 1 ≤ x := by
    apply hx.ge_of_represents (double_represents_div (abs_le.2 ⟨by omega, by omega⟩) 1 (by omega))
    push_cast
    linarith
  have hwhole : (n : ℚ) / 2 ^ 0 ≤ y := by
    apply hy.ge_of_represents (double_represents_div (abs_le.2 ⟨by omega, by omega⟩) 0 (by omega))
    push_cast at hhalf
    linarith
  linarith

theorem lt_of_rounds_small (hn : |n| < 2 ^ 44) (hx : x ≤ n)
    (hy : double.Rounds (x + 1 / 2) y) : y < n + 1 := by
  obtain ⟨hlow, hhigh⟩ := abs_lt.1 hn
  have hhalf : y ≤ ((2 * n + 1 : ℤ) : ℚ) / 2 ^ 1 := by
    apply hy.le_of_represents (double_represents_div (abs_le.2 ⟨by omega, by omega⟩) 1 (by omega))
    push_cast
    linarith
  push_cast at hhalf
  linarith

/-- Below `2 ^ 43` the format has a number between a quotient by 1000 and the half above it. -/
theorem lt_of_rounds_near (hn : -2 ^ 43 ≤ n ∧ n < 2 ^ 43) (hq : q ≤ n + 499 / 1000)
    (hx : double.Rounds q x) (hy : double.Rounds (x + 1 / 2) y) : y < n + 1 := by
  have hquotient : x ≤ ((1024 * n + 511 : ℤ) : ℚ) / 2 ^ 10 := by
    apply hx.le_of_represents (double_represents_div (abs_le.2 ⟨by omega, by omega⟩) 10 (by omega))
    push_cast
    linarith
  have hsum : y ≤ ((1024 * n + 1023 : ℤ) : ℚ) / 2 ^ 10 := by
    apply hy.le_of_represents (double_represents_div (abs_le.2 ⟨by omega, by omega⟩) 10 (by omega))
    push_cast at hquotient ⊢
    linarith
  push_cast at hsum
  linarith

/-- From `2 ^ 43` on, a number below the half is a whole unit below it, and so is the sum. -/
theorem lt_of_rounds_far (hn : |n| < 2 ^ 44) (hx : double.Represents x) (hlarge : 2 ^ 43 ≤ |x|)
    (hless : x < n + 1 / 2) (hy : double.Rounds (x + 1 / 2) y) : y < n + 1 := by
  obtain ⟨hlow, hhigh⟩ := abs_lt.1 hn
  obtain ⟨k, rfl⟩ := hx.exists_eq_div hlarge
  have hk : k ≤ 512 * n + 255 := by
    have hcast : (k : ℚ) < 512 * n + 256 := by linarith
    have hcast' : k < 512 * n + 256 := by exact_mod_cast hcast
    omega
  have hsum : y ≤ ((512 * n + 511 : ℤ) : ℚ) / 2 ^ 9 := by
    apply hy.le_of_represents (double_represents_div (abs_le.2 ⟨by omega, by omega⟩) 9 (by omega))
    have hcast : (k : ℚ) ≤ 512 * n + 255 := by exact_mod_cast hk
    push_cast
    linarith
  push_cast at hsum
  linarith

end

/-- A quotient by 1000 and a half, both rounded, stay between the whole numbers that they lie
between. -/
theorem floor_rounded_half {d n : ℤ} {x y : ℚ} (hd : |d| ≤ 2 ^ 53)
    (hlow : 1000 * n ≤ d + 500) (hhigh : d + 500 < 1000 * n + 1000)
    (hx : double.Rounds (d / 1000) x) (hy : double.Rounds (x + 1 / 2) y) : ⌊y⌋ = n := by
  obtain ⟨hd₁, hd₂⟩ := abs_le.1 hd
  have hn : |n| < 2 ^ 44 := abs_lt.2 ⟨by omega, by omega⟩
  have hbelow : (n : ℚ) - 1 / 2 ≤ d / 1000 := by
    have hcast : (1000 : ℚ) * n ≤ d + 500 := by exact_mod_cast hlow
    linarith
  have habove : (d : ℚ) / 1000 ≤ n + 499 / 1000 := by
    have hcast : (d : ℚ) + 500 ≤ 1000 * n + 999 := by exact_mod_cast (by omega)
    linarith
  rw [Int.floor_eq_iff]
  refine ⟨le_of_rounds_half hn hbelow hx hy, ?_⟩
  rcases le_or_gt x n with hsmall | hsmall
  · exact lt_of_rounds_small hn hsmall hy
  · by_cases hmid : -2 ^ 43 ≤ n ∧ n < 2 ^ 43
    · exact lt_of_rounds_near hmid habove hx hy
    · -- a quotient is a thousandth below the half at least, and the error is half of 1 / 512
      have hsize : |(d : ℚ) / 1000| < 2 ^ ((-9 : ℤ) + double.precision) := by
        have hcast : |(d : ℚ)| ≤ 2 ^ 53 := by exact_mod_cast hd
        rw [abs_div, abs_of_pos (by norm_num : (0 : ℚ) < 1000)]
        simp only [double]
        norm_num at hcast ⊢
        linarith
      have herror := (abs_le.1 (hx.error_le proper_double (by decide) hsize)).1
      norm_num at herror
      have hlarge : 2 ^ 43 ≤ |x| := by
        rcases not_and_or.1 hmid with hneg | hpos
        · have hcast : (n : ℚ) + 1 ≤ -2 ^ 43 := by exact_mod_cast (by omega : n + 1 ≤ -2 ^ 43)
          rw [abs_of_nonpos (by linarith)]
          linarith
        · have hcast : (2 : ℚ) ^ 43 ≤ n := by exact_mod_cast not_lt.1 hpos
          rw [abs_of_nonneg (by linarith)]
          linarith
      exact lt_of_rounds_far hn hx.represents hlarge (by linarith) hy

end BinaryFormat

theorem Binary.half_value : (Binary.ofDecimal .double false 5 (-1)).value? = some (1 / 2 : ℚ) := by
  have hvalue : (Quotient.ofDecimal 5 (-1)).value = 1 / 2 := by
    rw [Quotient.value, Quotient.ofDecimal]
    norm_num
  have hsmall : (Quotient.ofDecimal 5 (-1)).value <
      2 ^ (BinaryFormat.double.maxExponent + BinaryFormat.double.precision - 1) := by
    rw [hvalue]
    refine lt_of_lt_of_le (by norm_num) (one_le_zpow₀ one_le_two ?_)
    decide
  obtain ⟨v, hv, hnear⟩ := Binary.round_value BinaryFormat.proper_double false _ hsmall
  rw [if_neg (by decide), hvalue] at hnear
  have hrep := BinaryFormat.double_represents_div (k := 1) (by decide) 1 (by omega)
  rw [pow_one, Int.cast_one] at hrep
  rw [Binary.ofDecimal, hv, hnear.eq_of_represents hrep]

/-- The quotient by 1000 and the sum with a half are the nearest numbers of the format, and what is
given is the whole number below the sum. -/
theorem nearestSecond_steps {d : ℤ} (hd : |d| ≤ 2 ^ 53) :
    ∃ x y : ℚ, BinaryFormat.double.RoundsEven (d / 1000) x ∧
      BinaryFormat.double.RoundsEven (x + 1 / 2) y ∧ nearestSecond d = ⌊y⌋ := by
  have hf := BinaryFormat.proper_double
  have hd' : |(d : ℚ)| ≤ 2 ^ 53 := by exact_mod_cast hd
  have hlarge : (2 : ℚ) ^ 53 + 1 <
      2 ^ (BinaryFormat.double.maxExponent + BinaryFormat.double.precision - 1) := by
    have hexp : (54 : ℤ) ≤ BinaryFormat.double.maxExponent + BinaryFormat.double.precision - 1 := by
      decide
    refine lt_of_lt_of_le ?_ (zpow_le_zpow_right₀ one_le_two hexp)
    norm_num
  have hquotient : |(d : ℚ) / 1000| ≤ 2 ^ 53 / 1000 := by
    rw [abs_div, abs_of_pos (by norm_num : (0 : ℚ) < 1000)]
    linarith
  obtain ⟨x, hx, hnear⟩ := Binary.div_value hf (Binary.ofInt_value hf hd)
    (Binary.ofInt_value hf (n := 1000) (by decide)) (by norm_num) (by push_cast; linarith)
  push_cast at hnear
  -- rounding does not take the quotient past a whole number, so the sum is far below the limit
  have hsum : |x + 1 / 2| < 2 ^ 53 + 1 := by
    obtain ⟨hlow, hhigh⟩ := abs_le.1 hquotient
    have hbelow : ((-2 ^ 53 : ℤ) : ℚ) ≤ x :=
      hnear.ge_of_represents (BinaryFormat.double_represents (by decide)) (by push_cast; linarith)
    have habove : x ≤ ((2 ^ 53 : ℤ) : ℚ) :=
      hnear.le_of_represents (BinaryFormat.double_represents (by decide)) (by push_cast; linarith)
    push_cast at hbelow habove
    exact abs_lt.2 ⟨by linarith, by linarith⟩
  obtain ⟨y, hy, hnear'⟩ := Binary.add_value hf hx Binary.half_value (by linarith)
  exact ⟨x, y, hnear, hnear', by rw [nearestSecond, Binary.floor_eq hy]⟩

theorem nearestSecond_eq {d : ℤ} (hd : |d| ≤ 2 ^ 53) : nearestSecond d = (d + 500) / 1000 := by
  obtain ⟨x, y, hx, hy, hfloor⟩ := nearestSecond_steps hd
  rw [hfloor]
  exact BinaryFormat.floor_rounded_half hd (by omega) (by omega) hx.toRounds hy.toRounds

/-- From the milliseconds on the offset is exact. The conversion, the quotient and the sum with a
half are each rounded to the nearest number of the format, the even one of two, and yet the whole
number below is the one below the exact sum. A word of 64 bits with a sign holds it. -/
theorem offset_rounds_exactly (base time : Instant) (d : ℤ) (hd : time.millisFrom base = d)
    (hsmall : |d| ≤ 2 ^ 53) :
    ∃ c x y : ℚ, (∀ v, BinaryFormat.double.RoundsEven d v ↔ v = c) ∧
      (∀ v, BinaryFormat.double.RoundsEven (c / 1000) v ↔ v = x) ∧
      (∀ v, BinaryFormat.double.RoundsEven (x + 1 / 2) v ↔ v = y) ∧
      offsetSeconds base time = ⌊y⌋ ∧ ⌊y⌋ = (d + 500) / 1000 ∧ Word.holdsSigned ⌊y⌋ = true := by
  obtain ⟨x, y, hx, hy, hsteps⟩ := nearestSecond_steps hsmall
  -- the format holds the milliseconds themselves, so their conversion loses nothing
  have hconverted : BinaryFormat.double.RoundsEven d d :=
    .of_represents (BinaryFormat.double_represents hsmall)
  have hfloor : ⌊y⌋ = (d + 500) / 1000 := by rw [← hsteps, nearestSecond_eq hsmall]
  have hword : Word.holdsSigned ((d + 500) / 1000) = true := by
    have hcount : (Word.count 63 : ℤ) = 2 ^ 63 := rfl
    obtain ⟨hlow, hhigh⟩ := abs_le.1 hsmall
    simp only [Word.holdsSigned, hcount, Bool.and_eq_true, decide_eq_true_eq]
    constructor
    · omega
    · omega
  refine ⟨d, x, y, hconverted.iff_eq, hx.iff_eq, hy.iff_eq, ?_, hfloor, by rwa [hfloor]⟩
  rw [offsetSeconds, hd, hsteps]

/-- A millisecond short of a half, where the numbers of the format lie nearly two milliseconds
apart. The part of a millisecond that is cut off does not count. -/
theorem offset_rounds_exactly_far_before :
    Instant.millisFrom ⟨-96465292, 0, 0, by decide, by decide, by decide⟩
      ⟨7784699, 32340, 501999999, by decide, by decide, by decide⟩ = -9007199254740501 ∧
    |(-9007199254740501 : ℤ)| ≤ 2 ^ 53 ∧
    offsetSeconds ⟨7784699, 32340, 501999999, by decide, by decide, by decide⟩
      ⟨-96465292, 0, 0, by decide, by decide, by decide⟩ = -9007199254741 := by
  have hmillis : Instant.millisFrom ⟨-96465292, 0, 0, by decide, by decide, by decide⟩
      ⟨7784699, 32340, 501999999, by decide, by decide, by decide⟩ = -9007199254740501 := by decide
  have hsmall : |(-9007199254740501 : ℤ)| ≤ 2 ^ 53 := by decide
  obtain ⟨_, _, _, -, -, -, hoffset, hfloor, -⟩ := offset_rounds_exactly _ _ _ hmillis hsmall
  refine ⟨hmillis, hsmall, ?_⟩
  rw [hoffset, hfloor]
  decide

/-! ### Instants -/

namespace Instant

/-- The exact time since the epoch in seconds. -/
def seconds (t : Instant) : ℚ := t.day * 86400 + t.second + t.nano / 10 ^ 9

theorem seconds_sub (a b : Instant) (ha : a.isLeap = false) (hb : b.isLeap = false) :
    a.seconds - b.seconds = a.nanosFrom b / 10 ^ 9 := by
  have hleap : a.nanosFrom b =
      ((a.day - b.day) * 86400 + ((a.second : ℤ) - b.second)) * 1000000000 +
        ((a.nano : ℤ) - b.nano) := by
    simp only [nanosFrom, ha, hb, Bool.false_eq_true, if_false, ite_self, add_zero]
  rw [hleap, seconds, seconds]
  push_cast
  ring

end Instant

theorem floor_nanos_add_half (n : ℤ) :
    ⌊(n : ℚ) / 10 ^ 9 + 1 / 2⌋ = (n + 500000000) / 1000000000 := by
  have hsum : (n : ℚ) / 10 ^ 9 + 1 / 2 = ((n + 500000000 : ℤ) : ℚ) / (1000000000 : ℕ) := by
    push_cast
    ring
  rw [hsum, Rat.floor_intCast_div_natCast]
  rfl

theorem tdiv_million (n : ℤ) :
    n.tdiv 1000000 = if 0 ≤ n then n / 1000000 else -(-n / 1000000) := by
  split
  · rename_i hn
    exact Int.tdiv_eq_ediv_of_nonneg hn
  · rw [← Int.tdiv_eq_ediv_of_nonneg (by omega), Int.neg_tdiv, neg_neg]

/-- Cutting nanoseconds off leaves the nearest second, except for times before the base. -/
theorem tdiv_millis_cases (n : ℤ) : (n.tdiv 1000000 + 500) / 1000 =
    if n < 0 ∧ (n + 500000000) / 1000000000 * 1000000000 + 499000000 < n then
      (n + 500000000) / 1000000000 + 1
    else (n + 500000000) / 1000000000 := by
  rw [tdiv_million]
  rcases le_or_gt 0 n with hn | hn
  · rw [if_pos hn, if_neg (by omega)]
    omega
  · rw [if_neg (by omega)]
    split
    · omega
    · omega

/-- The offset is the nearest second, a half going up. Only less than a millisecond short of a half
before the base time it is one more. -/
theorem offset_nearest (base time : Instant) (hbase : base.isLeap = false)
    (htime : time.isLeap = false) (d : ℚ) (hd : d = time.seconds - base.seconds)
    (hsmall : |d| < 2 ^ 53 / 1000) :
    offsetSeconds base time =
      if d < 0 ∧ ⌊d + 1 / 2⌋ + (1 / 2 - 1 / 1000) < d then ⌊d + 1 / 2⌋ + 1 else ⌊d + 1 / 2⌋ := by
  rw [Instant.seconds_sub time base htime hbase] at hd
  rw [offsetSeconds, Instant.millisFrom]
  generalize time.nanosFrom base = n at hd ⊢
  have hrange : |n| < 2 ^ 53 * 1000000 := by
    rw [hd, abs_div, abs_of_pos (by norm_num : (0 : ℚ) < 10 ^ 9), div_lt_iff₀ (by norm_num)]
      at hsmall
    have hcast : |(n : ℚ)| < 2 ^ 53 * 1000000 := by linarith
    exact_mod_cast hcast
  obtain ⟨hlow, hhigh⟩ := abs_lt.1 hrange
  have hmillis : |n.tdiv 1000000| ≤ 2 ^ 53 := by
    rw [tdiv_million, abs_le]
    split
    · constructor <;> omega
    · constructor <;> omega
  have hfloor : ⌊d + 1 / 2⌋ = (n + 500000000) / 1000000000 := by rw [hd, floor_nanos_add_half]
  rw [nearestSecond_eq hmillis, tdiv_millis_cases, hfloor]
  generalize (n + 500000000) / 1000000000 = k
  refine if_congr (and_congr ?_ ?_) rfl rfl
  · rw [hd, div_lt_iff₀ (by norm_num), zero_mul]
    exact_mod_cast Iff.rfl
  · rw [hd, lt_div_iff₀ (by norm_num)]
    have hscale : ((k : ℚ) + (1 / 2 - 1 / 1000)) * 10 ^ 9 =
        ((k * 1000000000 + 499000000 : ℤ) : ℚ) := by
      push_cast
      ring
    rw [hscale]
    exact_mod_cast Iff.rfl

/-- Two seconds and a half before the base. -/
theorem offset_nearest_of_half :
    offsetSeconds ⟨0, 2, 500000000, by decide, by decide, by decide⟩ .epoch = -2 := by
  have hdiff : (-5 / 2 : ℚ) = Instant.epoch.seconds -
      Instant.seconds ⟨0, 2, 500000000, by decide, by decide, by decide⟩ := by
    norm_num [Instant.seconds, Instant.epoch]
  have hfloor : ⌊(-5 / 2 + 1 / 2 : ℚ)⌋ = -2 := by norm_num
  rw [offset_nearest _ .epoch rfl rfl (-5 / 2) hdiff (by norm_num [abs_of_neg]), hfloor]
  norm_num

/-- A tenth of a microsecond more than two and a half seconds before the base. -/
theorem offset_above_nearest :
    Instant.isLeap ⟨0, 2, 500000100, by decide, by decide, by decide⟩ = false ∧
    offsetSeconds ⟨0, 2, 500000100, by decide, by decide, by decide⟩ .epoch = -2 ∧
    ⌊Instant.epoch.seconds -
      Instant.seconds ⟨0, 2, 500000100, by decide, by decide, by decide⟩ + 1 / 2⌋ = -3 := by
  refine ⟨rfl, ?_, ?_⟩
  · rw [offsetSeconds, nearestSecond_eq (by decide)]
    decide
  · norm_num [Instant.seconds, Instant.epoch, Int.floor_eq_iff]

end LiveTail
