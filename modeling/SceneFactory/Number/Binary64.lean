/-!
# Binary floating-point numbers of 64 bits

A number is its bit pattern, so two numbers are equal as data exactly when they
have the same bits, and every rule below is integer arithmetic. A finite number
has the exact value `± significand · 2 ^ exponent`; `ofRatio` goes the other way
and rounds a ratio of naturals to the nearest number, a tie to the even
significand (`roundDiv_cases`, `roundDiv_even_of_tie`).
-/

namespace SceneFactory

/-- A number in the 64-bit binary format: sign bit, eleven exponent bits,
fifty-two fraction bits. -/
structure Binary64 where
  bits : UInt64
deriving DecidableEq, Inhabited

namespace Binary64

/-- The place value of the sign bit, `2 ^ 63`. -/
def signPlace : Nat := 9223372036854775808

/-- How many fractions there are, `2 ^ 52`. -/
def fractionRange : Nat := 4503599627370496

/-! ## Reading the fields -/

/-- The sign bit. -/
def isNegative (x : Binary64) : Bool := x.bits.toNat / signPlace == 1

/-- The exponent field, from 0 to 2047. -/
def exponentField (x : Binary64) : Nat := x.bits.toNat / fractionRange % 2048

/-- The fraction field. -/
def fraction (x : Binary64) : Nat := x.bits.toNat % fractionRange

/-- Not a number: full exponent field and some fraction. -/
def isNaN (x : Binary64) : Bool := x.exponentField == 2047 && x.fraction != 0

/-- An infinity: full exponent field and no fraction. -/
def isInfinite (x : Binary64) : Bool := x.exponentField == 2047 && x.fraction == 0

/-- Neither an infinity nor a NaN. -/
def isFinite (x : Binary64) : Bool := x.exponentField != 2047

/-- Either zero. -/
def isZero (x : Binary64) : Bool := x.exponentField == 0 && x.fraction == 0

/-- The integer significand of a finite number. -/
def significand (x : Binary64) : Nat :=
  if x.exponentField = 0 then x.fraction else fractionRange + x.fraction

/-- The exponent of two that belongs to `significand`. -/
def exponent (x : Binary64) : Int :=
  if x.exponentField = 0 then -1074 else (x.exponentField : Int) - 1075

/-! ## Building numbers -/

/-- The positive number with the given sixty-three low bits, under a sign. -/
def ofMagnitude (negative : Bool) (magnitude : Nat) : Binary64 :=
  ⟨UInt64.ofNat (if negative then signPlace + magnitude else magnitude)⟩

/-- Zero under a sign. -/
def zero (negative : Bool) : Binary64 := ofMagnitude negative 0

/-- Infinity under a sign. -/
def infinity (negative : Bool) : Binary64 := ofMagnitude negative (2047 * fractionRange)

/-- The quiet NaN under a sign. -/
def nan (negative : Bool) : Binary64 :=
  ofMagnitude negative (2047 * fractionRange + fractionRange / 2)

/-- The same number under the other sign. -/
def neg (x : Binary64) : Binary64 := ⟨x.bits ^^^ 0x8000000000000000⟩

instance : Neg Binary64 := ⟨neg⟩

/-- Equality of numbers: the zeros are equal, and a NaN equals nothing. -/
def equal (x y : Binary64) : Bool :=
  !x.isNaN && !y.isNaN && (x.bits == y.bits || (x.isZero && y.isZero))

/-! ## Rounding a ratio -/

/-- The quotient rounded to the nearest natural, a tie to the even one. -/
def roundDiv (num den : Nat) : Nat :=
  let q := num / den
  let twice := 2 * (num % den)
  if twice < den then q
  else if den < twice then q + 1
  else if q % 2 = 0 then q else q + 1

/-- The rounded quotient is one of the two neighbours, and the nearer one. -/
theorem roundDiv_cases (num den : Nat) :
    (roundDiv num den = num / den ∧ 2 * (num % den) ≤ den) ∨
      (roundDiv num den = num / den + 1 ∧ den ≤ 2 * (num % den)) := by
  unfold roundDiv
  dsimp only
  split
  · exact Or.inl ⟨rfl, by omega⟩
  · split
    · exact Or.inr ⟨rfl, by omega⟩
    · split
      · exact Or.inl ⟨rfl, by omega⟩
      · exact Or.inr ⟨rfl, by omega⟩

/-- A tie goes to the even neighbour. -/
theorem roundDiv_even_of_tie {num den : Nat} (h : 2 * (num % den) = den) :
    roundDiv num den % 2 = 0 := by
  have hlt : ¬2 * (num % den) < den := Nat.not_lt_of_ge (Nat.le_of_eq h.symm)
  have hgt : ¬den < 2 * (num % den) := Nat.not_lt_of_ge (Nat.le_of_eq h)
  unfold roundDiv
  dsimp only
  rw [if_neg hlt, if_neg hgt]
  -- of the quotient and its successor one is even
  split
  · assumption
  · omega

/-- `num / den · 2 ^ -e` as a ratio. -/
def scaled (num den : Nat) (e : Int) : Nat × Nat :=
  if 0 ≤ e then (num, den * Nat.pow 2 e.toNat) else (num * Nat.pow 2 (-e).toNat, den)

/-- The exponent at which the quotient has fifty-three bits, or the least
exponent where it would have fewer. -/
def ratioExponent (num den : Nat) : Int :=
  let k : Int := (Nat.log2 num : Int) - (Nat.log2 den : Int)
  let (n, d) := scaled num den k
  let top : Int := if n < d then k - 1 else k
  max (top - 52) (-1074)

/-- The number nearest to `num / den`; beyond the largest finite number,
infinity. -/
def ofRatio (negative : Bool) (num den : Nat) : Binary64 :=
  if num = 0 ∨ den = 0 then zero negative
  else
    let e := ratioExponent num den
    let (n, d) := scaled num den e
    -- a quotient rounded up to the next power of two carries into the exponent field
    let magnitude := (e + 1074).toNat * fractionRange + roundDiv n d
    ofMagnitude negative (min magnitude (2047 * fractionRange))

/-- The number nearest to a natural. -/
def ofNat (n : Nat) : Binary64 := ofRatio false n 1

/-- The magnitude of a finite number as a ratio. -/
def ratio (x : Binary64) : Nat × Nat :=
  if 0 ≤ x.exponent then (x.significand * Nat.pow 2 x.exponent.toNat, 1)
  else (x.significand, Nat.pow 2 (-x.exponent).toNat)

/-- The product of two finite numbers, rounded once. -/
def mulFinite (x y : Binary64) : Binary64 :=
  ofRatio (x.isNegative != y.isNegative) (x.ratio.1 * y.ratio.1) (x.ratio.2 * y.ratio.2)

/-- The quotient of two finite numbers, the second not zero, rounded once. -/
def divFinite (x y : Binary64) : Binary64 :=
  ofRatio (x.isNegative != y.isNegative) (x.ratio.1 * y.ratio.2) (x.ratio.2 * y.ratio.1)

/-- Negating twice gives the same bits. -/
theorem neg_neg (x : Binary64) : -(-x) = x := by
  obtain ⟨b⟩ := x
  change Binary64.mk ((b ^^^ 0x8000000000000000) ^^^ 0x8000000000000000) = ⟨b⟩
  rw [UInt64.xor_assoc, UInt64.xor_self, UInt64.xor_zero]

end Binary64

end SceneFactory
