import Mathlib.Algebra.Order.Field.Power
import Mathlib.Tactic.Linarith
import Mathlib.Tactic.Ring
import SceneFactory.Number.Binary64

/-!
# The number nearest to a ratio

What it is for a binary floating-point number to be the one that a ratio is rounded to
(`Binary64.IsNearest`): no other number is nearer, and if another is as near, its fraction is even.
Infinity takes part with the value that the next number behind the largest would have, as overflow
is decided by that.

The numbers that are not negative lie on a grid of growing width, one behind the other in the order
of their bits (`gridValue`, `strictMono_gridValue`). On any growing sequence the nearest member is
one only (`IsNearestMember.unique`), and a member is the nearest if the two next to it are no nearer
(`IsBetween.isNearestMember`). Main statement: `IsNearest.unique`. A ratio is rounded to one number
only.
-/

set_option autoImplicit false

namespace SceneFactory

/-! ## The nearest member of a sequence -/

/-- Of the members of a sequence up to the last, number `m` is the nearest to `q`, and `m` is even
if another is as near. -/
structure IsNearestMember (v : ℕ → ℚ) (last : ℕ) (q : ℚ) (m : ℕ) : Prop where
  le_last : m ≤ last
  nearest : ∀ k ≤ last, |v m - q| ≤ |v k - q|
  even_of_tie : ∀ k ≤ last, k ≠ m → |v k - q| = |v m - q| → Even m

/-- No neighbour of member `m` is nearer to `q`, and `m` is even if one is as near. -/
structure IsBetween (v : ℕ → ℚ) (q : ℚ) (m : ℕ) : Prop where
  above : 2 * q ≤ v m + v (m + 1)
  even_of_above : 2 * q = v m + v (m + 1) → Even m
  below : ∀ k, m = k + 1 → v k + v m ≤ 2 * q
  even_of_below : ∀ k, m = k + 1 → v k + v m = 2 * q → Even m

section

variable {v : ℕ → ℚ} {last m : ℕ} {q : ℚ}

/-- Two values as far from `q` have it in their middle. -/
theorem add_eq_of_abs_eq {a b : ℚ} (hne : a ≠ b) (h : |a - q| = |b - q|) : a + b = 2 * q := by
  rcases abs_eq_abs.1 h with h | h
  · exact absurd (by linarith) hne
  · linarith

theorem IsNearestMember.not_lt {m' : ℕ} (hv : StrictMono v) (h : IsNearestMember v last q m)
    (h' : IsNearestMember v last q m') : ¬m < m' := by
  intro hlt
  have hsame : |v m' - q| = |v m - q| :=
    le_antisymm (h'.nearest m h.le_last) (h.nearest m' h'.le_last)
  have hmiddle := add_eq_of_abs_eq (hv hlt).ne' hsame
  rcases Nat.lt_or_ge (m + 1) m' with hgap | hnext
  · have hlow := hv (Nat.lt_succ_self m)
    have hhigh := hv hgap
    have hnear := h.nearest (m + 1) (hgap.le.trans h'.le_last)
    rw [abs_of_neg (by linarith : v m - q < 0)] at hnear
    exact absurd hnear (not_le.2 (abs_lt.2 ⟨by linarith, by linarith⟩))
  · -- of two numbers in a row one is odd
    have hm' : m' = m + 1 := by omega
    have heven := h.even_of_tie m' h'.le_last hlt.ne' hsame
    have heven' := h'.even_of_tie m h.le_last hlt.ne hsame.symm
    rw [hm'] at heven'
    exact (Nat.even_add_one.1 heven') heven

/-- The nearest member of a growing sequence is one only. -/
theorem IsNearestMember.unique {m' : ℕ} (hv : StrictMono v) (h : IsNearestMember v last q m)
    (h' : IsNearestMember v last q m') : m = m' :=
  Nat.le_antisymm (Nat.le_of_not_lt (h'.not_lt hv h)) (Nat.le_of_not_lt (h.not_lt hv h'))

/-- A member of a growing sequence is the nearest if its neighbours are no nearer. -/
theorem isNearestMember_of_neighbours (hv : StrictMono v) (hm : m ≤ last)
    (habove : m < last → 2 * q ≤ v m + v (m + 1) ∧ (2 * q = v m + v (m + 1) → Even m))
    (hbelow : ∀ k, m = k + 1 → v k + v m ≤ 2 * q ∧ (v k + v m = 2 * q → Even m)) :
    IsNearestMember v last q m := by
  have hhigher : ∀ k ≤ last, m < k → 2 * q ≤ v m + v k ∧ (2 * q = v m + v k → Even m) := by
    intro k hk hlt
    obtain ⟨hle, heven⟩ := habove (hlt.trans_le hk)
    have hnext := hv.monotone hlt
    exact ⟨by linarith, fun heq => heven (by linarith)⟩
  have hlower : ∀ k, k < m → v k + v m ≤ 2 * q ∧ (v k + v m = 2 * q → Even m) := by
    intro k hlt
    obtain ⟨n, rfl⟩ : ∃ n, m = n + 1 := ⟨m - 1, by omega⟩
    obtain ⟨hle, heven⟩ := hbelow n rfl
    have hnext := hv.monotone (Nat.le_of_lt_succ hlt)
    exact ⟨by linarith, fun heq => heven (by linarith)⟩
  refine ⟨hm, fun k hk => ?_, fun k hk hne hsame => ?_⟩
  · rcases lt_trichotomy m k with hlt | rfl | hlt
    · have hle := (hhigher k hk hlt).1
      have hv' := hv hlt
      exact (abs_le.2 ⟨by linarith, by linarith⟩).trans (le_abs_self _)
    · exact le_rfl
    · have hle := (hlower k hlt).1
      have hv' := hv hlt
      exact (abs_le.2 ⟨by linarith, by linarith⟩).trans (neg_le_abs _)
  · have hmiddle := add_eq_of_abs_eq (hv.injective.ne hne) hsame
    rcases hne.lt_or_gt with hlt | hlt
    · exact (hlower k hlt).2 hmiddle
    · exact (hhigher k hk hlt).2 (by linarith)

/-- What is nearest without an end is nearest up to the last member, which takes the place of
all that come behind it. -/
theorem IsBetween.isNearestMember (h : IsBetween v q m) (hv : StrictMono v) (last : ℕ) :
    IsNearestMember v last q (min m last) := by
  rcases Nat.le_or_ge m last with hle | hge
  · rw [Nat.min_eq_left hle]
    exact isNearestMember_of_neighbours hv hle (fun _ => ⟨h.above, h.even_of_above⟩)
      fun k hk => ⟨h.below k hk, h.even_of_below k hk⟩
  · rw [Nat.min_eq_right hge]
    rcases hge.eq_or_lt with rfl | hlt
    · exact isNearestMember_of_neighbours hv le_rfl (fun hlt => absurd hlt (lt_irrefl _))
        fun k hk => ⟨h.below k hk, h.even_of_below k hk⟩
    · obtain ⟨n, rfl⟩ : ∃ n, m = n + 1 := ⟨m - 1, by omega⟩
      have hbelow := h.below n rfl
      have hn := hv.monotone (Nat.le_of_lt_succ hlt)
      have hm := hv hlt
      refine isNearestMember_of_neighbours hv le_rfl (fun hlt => absurd hlt (lt_irrefl _)) ?_
      rintro k rfl
      have hk := hv (Nat.lt_succ_self k)
      exact ⟨by linarith, fun heq => absurd heq (by linarith)⟩

end

namespace Binary64

/-! ## The grid -/

/-- The value of the number whose exponent field and fraction are the two digits of `m`, the
fraction being the last. -/
def gridValue (m : ℕ) : ℚ :=
  (if m / fractionRange = 0 then m % fractionRange else fractionRange + m % fractionRange : ℕ) *
    2 ^ (if m / fractionRange = 0 then -1074 else (m / fractionRange : ℕ) - 1075 : ℤ)

theorem fractionRange_pos : 0 < fractionRange := by decide

theorem digits_of_lt {f g : ℕ} (hg : g < fractionRange) :
    (f * fractionRange + g) / fractionRange = f ∧ (f * fractionRange + g) % fractionRange = g := by
  constructor
  · rw [Nat.add_comm, Nat.add_mul_div_right _ _ fractionRange_pos, Nat.div_eq_of_lt hg,
      Nat.zero_add]
  · rw [Nat.add_comm, Nat.add_mul_mod_self_right, Nat.mod_eq_of_lt hg]

theorem gridValue_digits {f g : ℕ} (hg : g < fractionRange) :
    gridValue (f * fractionRange + g) =
      (if f = 0 then g else fractionRange + g : ℕ) *
        2 ^ (if f = 0 then -1074 else f - 1075 : ℤ) := by
  rw [gridValue, (digits_of_lt hg).1, (digits_of_lt hg).2]

/-- Up to twice the range of fractions the significand counts steps of one width. -/
theorem gridValue_eq {u r : ℕ} (hr : r ≤ 2 * fractionRange) (hu : u = 0 ∨ fractionRange ≤ r) :
    gridValue (u * fractionRange + r) = r * 2 ^ (u - 1074 : ℤ) := by
  rcases Nat.lt_or_ge r fractionRange with hlt | hge
  · obtain rfl := hu.resolve_right (Nat.not_le_of_lt hlt)
    rw [gridValue_digits hlt]
    rfl
  · obtain ⟨g, rfl⟩ := Nat.exists_eq_add_of_le hge
    rcases Nat.lt_or_ge g fractionRange with hg | hg
    · have hsplit : u * fractionRange + (fractionRange + g) = (u + 1) * fractionRange + g := by ring
      rw [hsplit, gridValue_digits hg, if_neg u.succ_ne_zero, if_neg u.succ_ne_zero]
      congr 2
      push_cast
      ring
    · obtain rfl : g = fractionRange := by omega
      have hsplit : u * fractionRange + (fractionRange + fractionRange) =
          (u + 2) * fractionRange + 0 := by ring
      have hexponent : ((u + 2 : ℕ) - 1075 : ℤ) = 1 + (u - 1074) := by
        push_cast
        ring
      rw [hsplit, gridValue_digits fractionRange_pos, if_neg (by omega), if_neg (by omega),
        hexponent, zpow_add₀ two_ne_zero]
      push_cast
      ring

/-- Every place of the grid is so many steps of some width. -/
theorem exists_steps (m : ℕ) : ∃ u r, m = u * fractionRange + r ∧ r < 2 * fractionRange ∧
    (u = 0 ∨ fractionRange ≤ r) := by
  rcases Nat.lt_or_ge m fractionRange with hlt | hge
  · exact ⟨0, m, by simp, by omega, .inl rfl⟩
  · have hpos : 0 < m / fractionRange := Nat.div_pos hge fractionRange_pos
    obtain ⟨u, hu⟩ : ∃ u, m / fractionRange = u + 1 := ⟨m / fractionRange - 1, by omega⟩
    have hmod := Nat.mod_lt m fractionRange_pos
    refine ⟨u, fractionRange + m % fractionRange, ?_, by omega, .inr (Nat.le_add_right _ _)⟩
    calc m = fractionRange * (m / fractionRange) + m % fractionRange := (Nat.div_add_mod _ _).symm
      _ = u * fractionRange + (fractionRange + m % fractionRange) := by rw [hu]; ring

/-- The grid grows. -/
theorem strictMono_gridValue : StrictMono gridValue := by
  apply strictMono_nat_of_lt_succ
  intro m
  obtain ⟨u, r, rfl, hr, hu⟩ := exists_steps m
  have hnext : u = 0 ∨ fractionRange ≤ r + 1 := hu.imp_right fun h => by omega
  rw [gridValue_eq hr.le hu, Nat.add_assoc, gridValue_eq hr hnext]
  have hwidth : (0 : ℚ) < 2 ^ (u - 1074 : ℤ) := by positivity
  exact mul_lt_mul_of_pos_right (by exact_mod_cast Nat.lt_succ_self r) hwidth

theorem gridValue_zero : gridValue 0 = 0 := by
  have hzero := gridValue_eq (u := 0) (r := 0) (Nat.zero_le _) (.inl rfl)
  simpa using hzero

/-! ## Numbers on the grid -/

/-- The value of a number without its sign. An infinity has the one that would come next behind the
largest number. -/
def magnitude (x : Binary64) : ℚ := x.significand * 2 ^ x.exponent

/-- The place of a number on the grid. -/
def rank (x : Binary64) : ℕ := x.exponentField * fractionRange + x.fraction

/-- The place of infinity. -/
def infinityRank : ℕ := 2047 * fractionRange

theorem fraction_lt (x : Binary64) : x.fraction < fractionRange := Nat.mod_lt _ fractionRange_pos

theorem magnitude_eq (x : Binary64) : x.magnitude = gridValue x.rank := by
  rw [rank, gridValue_digits x.fraction_lt, magnitude, significand, exponent]

theorem isNaN_eq_false_iff {x : Binary64} : x.isNaN = false ↔ x.rank ≤ infinityRank := by
  have hfield : x.exponentField < 2048 := Nat.mod_lt _ (by decide)
  have hfraction := x.fraction_lt
  rw [isNaN, rank, infinityRank]
  simp only [Bool.and_eq_false_iff, beq_eq_false_iff_ne, bne_eq_false_iff_eq, fractionRange] at *
  omega

/-- The bits of a number are its sign and its place. -/
theorem toNat_bits (x : Binary64) :
    x.bits.toNat = (if x.isNegative then signPlace else 0) + x.rank := by
  have hlt := x.bits.toNat_lt
  simp only [isNegative, rank, exponentField, fraction, signPlace, fractionRange, beq_iff_eq]
  split <;> omega

/-- A number is known by its sign and its place. -/
theorem eq_of_rank {x y : Binary64} (hsign : x.isNegative = y.isNegative)
    (hrank : x.rank = y.rank) : x = y := by
  have hbits : x.bits = y.bits := by
    apply UInt64.toNat_inj.1
    rw [toNat_bits, toNat_bits, hsign, hrank]
  cases x
  cases y
  rw [mk.injEq]
  exact hbits

/-- There is a number at every place up to infinity, and it has no sign. -/
theorem rank_ofMagnitude {m : ℕ} (h : m ≤ infinityRank) :
    (ofMagnitude false m).isNegative = false ∧ (ofMagnitude false m).rank = m := by
  rw [infinityRank, fractionRange] at h
  have hbits : (ofMagnitude false m).bits.toNat = m :=
    UInt64.toNat_ofNat_of_lt' (h.trans_lt (by norm_num [UInt64.size]))
  simp only [isNegative, rank, exponentField, fraction, hbits, signPlace, fractionRange,
    beq_eq_false_iff_ne]
  omega

theorem even_fractionRange : Even fractionRange := ⟨2251799813685248, rfl⟩

theorem even_rank_iff {x : Binary64} : Even x.rank ↔ Even x.fraction := by
  rw [rank, Nat.even_add]
  exact iff_true_left (even_fractionRange.mul_left _)

/-! ## The nearest number -/

/-- A number is the nearest to a ratio that is not negative: it has no sign, none is nearer, and its
fraction is even if another one is as near. -/
structure IsNearest (x : Binary64) (q : ℚ) : Prop where
  isNegative : x.isNegative = false
  isNaN : x.isNaN = false
  nearest : ∀ y : Binary64, y.isNaN = false → |x.magnitude - q| ≤ |y.magnitude - q|
  even_of_tie : ∀ y : Binary64, y.isNaN = false → y.magnitude ≠ x.magnitude →
    |y.magnitude - q| = |x.magnitude - q| → Even x.fraction

/-- The nearest number is the nearest place of the grid. -/
theorem isNearest_iff {x : Binary64} {q : ℚ} : x.IsNearest q ↔
    x.isNegative = false ∧ IsNearestMember gridValue infinityRank q x.rank := by
  constructor
  · rintro ⟨hsign, hnan, hnearest, heven⟩
    refine ⟨hsign, isNaN_eq_false_iff.1 hnan, fun k hk => ?_, fun k hk hne hsame => ?_⟩
    all_goals
      obtain ⟨-, hrank⟩ := rank_ofMagnitude hk
      have hnumber : (ofMagnitude false k).isNaN = false := isNaN_eq_false_iff.2 (hrank.trans_le hk)
    · have hle := hnearest _ hnumber
      rwa [magnitude_eq, magnitude_eq, hrank] at hle
    · have heven' := heven _ hnumber
      rw [magnitude_eq, magnitude_eq, hrank] at heven'
      exact even_rank_iff.2 (heven' (strictMono_gridValue.injective.ne hne) hsame)
  · rintro ⟨hsign, hlast, hnearest, heven⟩
    refine ⟨hsign, isNaN_eq_false_iff.2 hlast, fun y hy => ?_, fun y hy hne hsame => ?_⟩
    · rw [magnitude_eq, magnitude_eq]
      exact hnearest _ (isNaN_eq_false_iff.1 hy)
    · rw [magnitude_eq, magnitude_eq] at hne hsame
      exact even_rank_iff.1 (heven _ (isNaN_eq_false_iff.1 hy) (fun h => hne (congrArg _ h)) hsame)

/-- A ratio is rounded to one number only. -/
theorem IsNearest.unique {x y : Binary64} {q : ℚ} (h : x.IsNearest q) (h' : y.IsNearest q) :
    x = y := by
  obtain ⟨hsign, hmember⟩ := isNearest_iff.1 h
  obtain ⟨hsign', hmember'⟩ := isNearest_iff.1 h'
  exact eq_of_rank (hsign.trans hsign'.symm) (hmember.unique strictMono_gridValue hmember')

/-- The number at a place that is nearest without an end is the nearest number, infinity standing
for all behind it. -/
theorem isNearest_ofMagnitude {m : ℕ} {q : ℚ} (h : IsBetween gridValue q m) :
    (ofMagnitude false (min m infinityRank)).IsNearest q := by
  obtain ⟨hsign, hrank⟩ := rank_ofMagnitude (Nat.min_le_right m infinityRank)
  rw [isNearest_iff, hrank]
  exact ⟨hsign, h.isNearestMember strictMono_gridValue infinityRank⟩

end Binary64

end SceneFactory
