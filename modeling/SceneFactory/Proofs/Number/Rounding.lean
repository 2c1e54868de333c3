import Mathlib.Algebra.Order.Field.Basic
import SceneFactory.Proofs.Number.Nearest
import SceneFactory.Number.Decimal

/-!
# Reading rounds to the nearest number

A ratio is rounded in three steps: its exponent is chosen so that the quotient counts steps of the
grid (`ratioExponent_spec`), the quotient is rounded to a natural (`isBetween_roundDiv`), and the
natural is put on the grid, where it still lies between its neighbours (`isBetween_gridValue`).

Main statements: `ofRatio_isNearest` and `ofDecimal_isNearest`. The number that is read from a ratio
or from a decimal numeral of any length is the nearest one.
-/

set_option autoImplicit false

namespace SceneFactory

/-! ## Rounding a quotient -/

/-- The natural nearest to a quotient below another natural does not exceed that one. -/
theorem IsBetween.le_of_lt {a : ℚ} {r n : ℕ} (h : IsBetween Nat.cast a r) (hlt : a < n) :
    r ≤ n := by
  rcases r.eq_zero_or_pos with rfl | hpos
  · exact Nat.zero_le n
  obtain ⟨k, rfl⟩ : ∃ k, r = k + 1 := ⟨r - 1, by omega⟩
  have hbelow := h.below k rfl
  push_cast at hbelow
  have hk : (k : ℚ) < n := by linarith
  exact_mod_cast hk

/-- The natural nearest to a quotient that reaches another natural reaches that one. -/
theorem IsBetween.le_of_le {a : ℚ} {r n : ℕ} (h : IsBetween Nat.cast a r) (hle : n ≤ a) :
    n ≤ r := by
  have habove := h.above
  push_cast at habove
  have hn : (n : ℚ) < r + 1 := by linarith
  exact Nat.lt_succ_iff.1 (by exact_mod_cast hn)

/-- A natural and a rest below one are rounded up or down to the nearer natural, and in the middle
to the even one. -/
theorem isBetween_of_rest {n r : ℕ} {rest : ℚ} (hnonneg : 0 ≤ rest) (hlt : rest < 1)
    (hr : r = n ∧ 2 * rest ≤ 1 ∨ r = n + 1 ∧ 1 ≤ 2 * rest) (heven : 2 * rest = 1 → Even r) :
    IsBetween Nat.cast (n + rest) r := by
  rcases hr with ⟨rfl, hle⟩ | ⟨rfl, hle⟩
  · refine ⟨?_, fun htie => heven ?_, ?_, ?_⟩
    · push_cast
      linarith
    · push_cast at htie
      linarith
    all_goals
      rintro k rfl
      push_cast
    · linarith
    · intro htie
      linarith
  · refine ⟨?_, fun htie => ?_, ?_, ?_⟩
    · push_cast
      linarith
    · push_cast at htie
      linarith
    all_goals
      intro k hk
      obtain rfl : n = k := Nat.succ.inj hk
      push_cast
    · linarith
    · exact fun htie => heven (by linarith)

namespace Binary64

/-- The rounded quotient is the natural nearest to the quotient. -/
theorem isBetween_roundDiv (num : ℕ) {den : ℕ} (hden : 0 < den) :
    IsBetween Nat.cast (num / den) (roundDiv num den) := by
  have hpos : (0 : ℚ) < den := by exact_mod_cast hden
  have hquotient : (num / den : ℚ) = (num / den : ℕ) + (num % den : ℕ) / den := by
    rw [div_eq_iff hpos.ne', add_mul, div_mul_cancel₀ _ hpos.ne']
    exact_mod_cast (Nat.div_add_mod' num den).symm
  rw [hquotient]
  apply isBetween_of_rest
  · positivity
  · rw [div_lt_one hpos]
    exact_mod_cast Nat.mod_lt num hden
  · refine (roundDiv_cases num den).imp (fun ⟨hround, hle⟩ => ⟨hround, ?_⟩)
      (fun ⟨hround, hle⟩ => ⟨hround, ?_⟩)
    · rw [← mul_div_assoc, div_le_one hpos]
      exact_mod_cast hle
    · rw [← mul_div_assoc, one_le_div hpos]
      exact_mod_cast hle
  · intro hhalf
    rw [← mul_div_assoc, div_eq_one_iff_eq hpos.ne'] at hhalf
    exact Nat.even_iff.2 (roundDiv_even_of_tie (by exact_mod_cast hhalf))

/-! ## Putting the rounded quotient on the grid -/

section

variable {u r : ℕ} {a : ℚ} (h : IsBetween Nat.cast a r)

include h

/-- The next place of the grid is as far from the quotient as the next natural, or farther. -/
theorem above_on_grid (hu : u = 0 ∨ fractionRange ≤ r) (hhigh : a < (2 * fractionRange : ℕ)) :
    2 * (a * 2 ^ (u - 1074 : ℤ)) ≤
        gridValue (u * fractionRange + r) + gridValue (u * fractionRange + r + 1) ∧
      (2 * (a * 2 ^ (u - 1074 : ℤ)) =
        gridValue (u * fractionRange + r) + gridValue (u * fractionRange + r + 1) → Even r) := by
  have hwidth : (0 : ℚ) < 2 ^ (u - 1074 : ℤ) := by positivity
  have hr := h.le_of_lt hhigh
  have hvalue := gridValue_eq hr hu
  rcases hr.eq_or_lt with rfl | hlt
  · -- the next number is wider, but the quotient does not reach up to this one
    have hreach : a * 2 ^ (u - 1074 : ℤ) < gridValue (u * fractionRange + 2 * fractionRange) := by
      rw [hvalue]
      exact mul_lt_mul_of_pos_right hhigh hwidth
    have hnext := strictMono_gridValue (Nat.lt_add_one (u * fractionRange + 2 * fractionRange))
    exact ⟨by linarith, fun htie => absurd htie (by linarith)⟩
  · have hnext := gridValue_eq hlt (hu.imp_right fun hle => hle.trans (Nat.le_succ r))
    rw [Nat.add_assoc, hvalue, hnext, ← add_mul, ← mul_assoc, mul_le_mul_iff_left₀ hwidth,
      mul_left_inj' hwidth.ne']
    exact ⟨h.above, h.even_of_above⟩

/-- The place before is as far from the quotient as the natural before, or farther. -/
theorem below_on_grid (hr : r ≤ 2 * fractionRange) (hlow : u = 0 ∨ fractionRange ≤ a) {k : ℕ}
    (hk : u * fractionRange + r = k + 1) :
    gridValue k + gridValue (u * fractionRange + r) ≤ 2 * (a * 2 ^ (u - 1074 : ℤ)) ∧
      (gridValue k + gridValue (u * fractionRange + r) = 2 * (a * 2 ^ (u - 1074 : ℤ)) →
        Even r) := by
  have hwidth : (0 : ℚ) < 2 ^ (u - 1074 : ℤ) := by positivity
  have hu : u = 0 ∨ fractionRange ≤ r := hlow.imp_right h.le_of_le
  have hvalue := gridValue_eq hr hu
  by_cases hfirst : u ≠ 0 ∧ r = fractionRange
  · -- the number before is narrower, but the quotient does not reach down to this one
    obtain ⟨hne, rfl⟩ := hfirst
    have hreach : gridValue (u * fractionRange + fractionRange) ≤ a * 2 ^ (u - 1074 : ℤ) := by
      rw [hvalue]
      exact mul_le_mul_of_nonneg_right (hlow.resolve_left hne) hwidth.le
    have hbefore : gridValue k < gridValue (u * fractionRange + fractionRange) :=
      strictMono_gridValue (by omega)
    exact ⟨by linarith, fun htie => absurd htie (by linarith)⟩
  · obtain ⟨n, rfl⟩ : ∃ n, r = n + 1 := by
      have hrange := fractionRange_pos
      refine ⟨r - 1, ?_⟩
      rcases hu with rfl | hle <;> omega
    obtain rfl : k = u * fractionRange + n := by omega
    have hbefore := gridValue_eq (u := u) (r := n) (by omega) (by omega)
    rw [hvalue, hbefore, ← add_mul, ← mul_assoc, mul_le_mul_iff_left₀ hwidth,
      mul_left_inj' hwidth.ne']
    exact ⟨h.below n rfl, h.even_of_below n rfl⟩

/-- What is nearest among the naturals is nearest on the grid, if the quotient is within the
numbers of one width. -/
theorem isBetween_gridValue (hhigh : a < (2 * fractionRange : ℕ))
    (hlow : u = 0 ∨ fractionRange ≤ a) :
    IsBetween gridValue (a * 2 ^ (u - 1074 : ℤ)) (u * fractionRange + r) := by
  have heven : Even r → Even (u * fractionRange + r) := (even_fractionRange.mul_left u).add
  obtain ⟨habove, hnext⟩ := above_on_grid h (hlow.imp_right h.le_of_le) hhigh
  exact ⟨habove, fun htie => heven (hnext htie),
    fun _ hk => (below_on_grid h (h.le_of_lt hhigh) hlow hk).1,
    fun _ hk htie => heven ((below_on_grid h (h.le_of_lt hhigh) hlow hk).2 htie)⟩

end

/-! ## The exponent of a ratio -/

theorem cast_fractionRange : (fractionRange : ℚ) = 2 ^ (52 : ℤ) := by norm_num [fractionRange]

theorem scaled_ratio (num : ℕ) {den : ℕ} (hden : 0 < den) (e : ℤ) :
    0 < (scaled num den e).2 ∧
      ((scaled num den e).1 / (scaled num den e).2 : ℚ) = num / den / 2 ^ e := by
  rw [scaled]
  split
  · rename_i he
    obtain ⟨n, rfl⟩ := Int.eq_ofNat_of_zero_le he
    refine ⟨Nat.mul_pos hden (Nat.two_pow_pos _), ?_⟩
    simp [div_div]
  · rename_i he
    obtain ⟨n, hn⟩ := Int.eq_ofNat_of_zero_le (by omega : 0 ≤ -e)
    obtain rfl : e = -(n : ℤ) := by omega
    refine ⟨hden, ?_⟩
    simp [mul_div_right_comm]

/-- A ratio lies between the powers of two that its binary lengths give. -/
theorem ratio_bounds {num den : ℕ} (hnum : num ≠ 0) (hden : den ≠ 0) :
    (2 : ℚ) ^ ((num.log2 : ℤ) - den.log2 - 1) < num / den ∧
      (num / den : ℚ) < 2 ^ ((num.log2 : ℤ) - den.log2 + 1) := by
  have hpos : (0 : ℚ) < den := by exact_mod_cast Nat.pos_of_ne_zero hden
  have hnumLow : (2 : ℚ) ^ num.log2 ≤ num := by exact_mod_cast Nat.log2_self_le hnum
  have hnumHigh : (num : ℚ) < 2 ^ (num.log2 + 1) := by exact_mod_cast Nat.lt_log2_self
  have hdenLow : (2 : ℚ) ^ den.log2 ≤ den := by exact_mod_cast Nat.log2_self_le hden
  have hdenHigh : (den : ℚ) < 2 ^ (den.log2 + 1) := by exact_mod_cast Nat.lt_log2_self
  have htwo : (2 : ℚ) ≠ 0 := two_ne_zero
  constructor
  · rw [lt_div_iff₀ hpos]
    calc (2 : ℚ) ^ ((num.log2 : ℤ) - den.log2 - 1) * den
        < 2 ^ ((num.log2 : ℤ) - den.log2 - 1) * 2 ^ (den.log2 + 1) :=
          mul_lt_mul_of_pos_left hdenHigh (by positivity)
      _ = 2 ^ num.log2 := by
          rw [← zpow_natCast, ← zpow_natCast, ← zpow_add₀ htwo]
          congr 1
          push_cast
          ring
      _ ≤ num := hnumLow
  · rw [div_lt_iff₀ hpos]
    calc (num : ℚ) < 2 ^ (num.log2 + 1) := hnumHigh
      _ = 2 ^ ((num.log2 : ℤ) - den.log2 + 1) * 2 ^ den.log2 := by
          rw [← zpow_natCast, ← zpow_natCast, ← zpow_add₀ htwo]
          congr 1
          push_cast
          ring
      _ ≤ 2 ^ ((num.log2 : ℤ) - den.log2 + 1) * den :=
          mul_le_mul_of_nonneg_left hdenLow (by positivity)

/-- The exponent of a ratio is found from the power of two that the ratio has reached. -/
theorem exists_reached_power {num den : ℕ} (hnum : num ≠ 0) (hden : den ≠ 0) :
    ∃ top : ℤ, ratioExponent num den = max (top - 52) (-1074) ∧ (2 : ℚ) ^ top ≤ num / den ∧
      (num / den : ℚ) < 2 ^ (top + 1) := by
  obtain ⟨hlow, hhigh⟩ := ratio_bounds hnum hden
  obtain ⟨hpos, hscaled⟩ := scaled_ratio num (Nat.pos_of_ne_zero hden) (num.log2 - den.log2)
  have hcompare : (scaled num den (num.log2 - den.log2)).1 <
      (scaled num den (num.log2 - den.log2)).2 ↔
        (num / den : ℚ) < 2 ^ ((num.log2 : ℤ) - den.log2) := by
    have hposRat : (0 : ℚ) < (scaled num den (num.log2 - den.log2)).2 := by exact_mod_cast hpos
    rw [← Nat.cast_lt (α := ℚ), ← div_lt_one hposRat, hscaled, div_lt_one (by positivity)]
  by_cases hless : (scaled num den (num.log2 - den.log2)).1 <
      (scaled num den (num.log2 - den.log2)).2
  · refine ⟨num.log2 - den.log2 - 1, ?_, hlow.le, ?_⟩
    · rw [ratioExponent]
      simp only [hless, if_true]
    · rw [sub_add_cancel]
      exact hcompare.1 hless
  · refine ⟨num.log2 - den.log2, ?_, not_lt.1 (mt hcompare.2 hless), hhigh⟩
    rw [ratioExponent]
    simp only [hless, if_false]

/-- The exponent of a ratio is the one at which the quotient counts steps of the grid. -/
theorem ratioExponent_spec {num den : ℕ} (hnum : num ≠ 0) (hden : den ≠ 0) :
    ∃ u : ℕ, ratioExponent num den = u - 1074 ∧
      (num / den / 2 ^ (u - 1074 : ℤ) : ℚ) < (2 * fractionRange : ℕ) ∧
      (u = 0 ∨ fractionRange ≤ (num / den / 2 ^ (u - 1074 : ℤ) : ℚ)) := by
  obtain ⟨top, hexponent, hlow, hhigh⟩ := exists_reached_power hnum hden
  obtain ⟨u, hu⟩ := Int.eq_ofNat_of_zero_le (by omega : 0 ≤ max (top - 52) (-1074) + 1074)
  refine ⟨u, by omega, ?_, ?_⟩
  · rw [div_lt_iff₀ (by positivity)]
    calc (num / den : ℚ) < 2 ^ (top + 1) := hhigh
      _ ≤ 2 ^ (1 + (52 + (u - 1074)) : ℤ) := zpow_le_zpow_right₀ one_le_two (by omega)
      _ = (2 * fractionRange : ℕ) * 2 ^ (u - 1074 : ℤ) := by
          rw [zpow_add₀ two_ne_zero, zpow_add₀ two_ne_zero, ← cast_fractionRange]
          push_cast
          ring
  · rcases Nat.eq_zero_or_pos u with hzero | hpos
    · exact .inl hzero
    right
    rw [le_div_iff₀ (by positivity), cast_fractionRange, ← zpow_add₀ two_ne_zero]
    exact (zpow_le_zpow_right₀ one_le_two (by omega)).trans hlow

/-! ## Reading -/

/-- What is half way to the least number, or nearer to zero, is read as zero. -/
theorem isNearest_zero {q : ℚ} (h : 2 * q ≤ 2 ^ (-1074 : ℤ)) : (zero false).IsNearest q := by
  have hleast : gridValue (0 * fractionRange + 1) = 2 ^ (-1074 : ℤ) := by
    rw [gridValue_eq (by decide) (.inl rfl)]
    simp
  have hbetween : IsBetween gridValue q 0 := by
    refine ⟨?_, fun _ => Even.zero, fun k hk => ?_, fun k hk => ?_⟩
    · rw [gridValue_zero, zero_add, zero_add]
      rw [Nat.zero_mul, Nat.zero_add] at hleast
      rwa [hleast]
    all_goals cases hk
  exact isNearest_ofMagnitude hbetween

/-- What reaches the number that would come next behind the largest is read as infinity. -/
theorem isNearest_infinity {q : ℚ} (h : 2 ^ (1024 : ℤ) ≤ q) : (infinity false).IsNearest q := by
  have hlast : gridValue infinityRank = 2 ^ (1024 : ℤ) := by
    have hdigits := gridValue_digits (f := 2047) fractionRange_pos
    rw [Nat.add_zero] at hdigits
    rw [infinityRank, hdigits, if_neg (by decide), if_neg (by decide), Nat.add_zero,
      cast_fractionRange, ← zpow_add₀ two_ne_zero]
    norm_num
  obtain ⟨hsign, hrank⟩ := rank_ofMagnitude (le_refl infinityRank)
  change (ofMagnitude false infinityRank).IsNearest q
  rw [isNearest_iff, hrank]
  refine ⟨hsign, isNearestMember_of_neighbours strictMono_gridValue le_rfl
    (fun hlt => absurd hlt (lt_irrefl _)) fun k hk => ?_⟩
  have hbefore : gridValue k < gridValue infinityRank := strictMono_gridValue (by omega)
  exact ⟨by linarith, fun htie => absurd htie (by linarith)⟩

/-- A ratio is read as the nearest number. -/
theorem ofRatio_isNearest (num : ℕ) {den : ℕ} (hden : den ≠ 0) :
    (ofRatio false num den).IsNearest (num / den) := by
  by_cases hnum : num = 0
  · rw [ofRatio, if_pos (.inl hnum)]
    apply isNearest_zero
    rw [hnum, Nat.cast_zero, zero_div, mul_zero]
    positivity
  obtain ⟨u, hu, hhigh, hlow⟩ := ratioExponent_spec hnum hden
  obtain ⟨hpos, hscaled⟩ := scaled_ratio num (Nat.pos_of_ne_zero hden) (ratioExponent num den)
  have hround := isBetween_roundDiv (scaled num den (ratioExponent num den)).1 hpos
  rw [hscaled, hu] at hround
  have hgrid := isBetween_gridValue hround hhigh hlow
  rw [div_mul_cancel₀ _ (by positivity)] at hgrid
  rw [ofRatio, if_neg (not_or.2 ⟨hnum, hden⟩)]
  simp only [hu, sub_add_cancel, Int.toNat_natCast]
  exact isNearest_ofMagnitude hgrid

/-- Three powers of two are less than one power of ten. -/
theorem two_pow_le_ten_pow (n : ℕ) : (2 : ℚ) ^ (3 * n : ℤ) ≤ 10 ^ (n : ℤ) := by
  rw [zpow_mul, zpow_natCast, zpow_natCast]
  exact pow_le_pow_left₀ (by norm_num) (by norm_num) n

/-- A natural lies below the power of ten that has as many digits more than it, and reaches the one
before. -/
theorem digits_bounds {n : ℕ} (hn : n ≠ 0) :
    (n : ℚ) < 10 ^ ((Nat.toDigits 10 n).length : ℤ) ∧
      (10 : ℚ) ^ ((Nat.toDigits 10 n).length - 1 : ℤ) ≤ n := by
  have hlength : 0 < (Nat.toDigits 10 n).length := Nat.length_toDigits_pos
  obtain ⟨k, hk⟩ : ∃ k, (Nat.toDigits 10 n).length = k + 1 := ⟨_, (Nat.succ_pred hlength.ne').symm⟩
  have hhigh : n < 10 ^ (k + 1) :=
    (Nat.length_toDigits_le_iff (by decide) k.succ_pos).1 hk.le
  have hlow : 10 ^ k ≤ n := by
    rcases k.eq_zero_or_pos with rfl | hpos
    · exact Nat.pos_of_ne_zero hn
    · refine Nat.le_of_not_lt fun hlt => ?_
      have hfew := (Nat.length_toDigits_le_iff (by decide) hpos).2 hlt
      omega
  rw [hk]
  constructor
  · exact_mod_cast hhigh
  · push_cast
    rw [add_sub_cancel_right, zpow_natCast]
    exact_mod_cast hlow

/-- A decimal numeral is read as the nearest number, whatever its length. -/
theorem ofDecimal_isNearest (digits : ℕ) (e : ℤ) :
    (ofDecimal false digits e).IsNearest (digits * 10 ^ e) := by
  have hwidth : (0 : ℚ) < 10 ^ e := by positivity
  rw [ofDecimal]
  split
  · rename_i hsmall
    apply isNearest_zero
    rcases eq_or_ne digits 0 with rfl | hne
    · rw [Nat.cast_zero, zero_mul, mul_zero]
      positivity
    · obtain ⟨hhigh, -⟩ := digits_bounds hne
      calc 2 * (digits * 10 ^ e : ℚ)
          ≤ 2 * (10 ^ ((Nat.toDigits 10 digits).length : ℤ) * 10 ^ e) := by gcongr
        _ = 2 * 10 ^ ((Nat.toDigits 10 digits).length + e) := by
            rw [← zpow_add₀ (by norm_num)]
        _ ≤ 2 * 10 ^ (-401 : ℤ) := by
            gcongr
            · norm_num
            · omega
        _ ≤ 2 * 2 ^ (-(3 * 401) : ℤ) := by
            rw [zpow_neg, zpow_neg]
            gcongr
            exact two_pow_le_ten_pow 401
        _ = 2 ^ (1 + -(3 * 401) : ℤ) := (zpow_one_add₀ two_ne_zero _).symm
        _ ≤ 2 ^ (-1074 : ℤ) := zpow_le_zpow_right₀ one_le_two (by decide)
  split
  · rename_i hsmall hlarge
    have hne := (not_or.1 hsmall).1
    apply isNearest_infinity
    obtain ⟨-, hlow⟩ := digits_bounds hne
    calc (2 : ℚ) ^ (1024 : ℤ) ≤ 2 ^ (3 * 400 : ℤ) := zpow_le_zpow_right₀ one_le_two (by decide)
      _ ≤ 10 ^ (400 : ℤ) := two_pow_le_ten_pow 400
      _ ≤ 10 ^ ((Nat.toDigits 10 digits).length - 1 + e) := by
          gcongr
          · norm_num
          · omega
      _ = 10 ^ ((Nat.toDigits 10 digits).length - 1 : ℤ) * 10 ^ e := by
          rw [← zpow_add₀ (by norm_num)]
      _ ≤ digits * 10 ^ e := by gcongr
  split
  · rename_i he
    obtain ⟨n, rfl⟩ := Int.eq_ofNat_of_zero_le he
    have hratio := ofRatio_isNearest (digits * 10 ^ n) one_ne_zero
    simpa using hratio
  · obtain ⟨n, hn⟩ := Int.eq_ofNat_of_zero_le (by omega : 0 ≤ -e)
    obtain rfl : e = -(n : ℤ) := by omega
    have hratio := ofRatio_isNearest digits (pow_ne_zero n (by decide : 10 ≠ 0))
    simpa [div_eq_mul_inv] using hratio

-- half way between two numbers the even fraction is taken, and the least excess goes up
example : ofDecimal false 9007199254740993 0 = ofDecimal false 9007199254740992 0 := by
  decide +kernel

example : ofDecimal false 90071992547409930001 (-4) = ofDecimal false 9007199254740994 0 := by
  decide +kernel

end Binary64

end SceneFactory
