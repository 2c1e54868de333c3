import SceneFactory.Number.Binary64

/-!
# Decimal numerals

Reading rounds the exact decimal value once, however many digits it has.
Writing takes the fewest digits that read back, and of the numerals with that
many digits the one nearest to the number, the larger of two that are as near;
it then lays them out positionally, without an exponent and without a trailing
point.
-/

namespace SceneFactory

/-! ## Digits of naturals -/

/-- The natural spelled by decimal digits; other characters count as they fall,
so callers pass digits only. -/
def natOfDigits (digits : List Char) : Nat :=
  digits.foldl (fun n c => 10 * n + (c.toNat - '0'.toNat)) 0

namespace Binary64

/-! ## Reading -/

/-- The number nearest to `digits · 10 ^ e`. Exponents far outside the format are
decided by the position of the leading digit, so that no huge power is formed. -/
def ofDecimal (negative : Bool) (digits : Nat) (e : Int) : Binary64 :=
  let places : Int := (Nat.toDigits 10 digits).length + e
  -- far below the least and far above the largest number, where no rounding decides
  if digits = 0 ∨ places < -400 then zero negative
  else if 400 < places then infinity negative
  else if 0 ≤ e then ofRatio negative (digits * Nat.pow 10 e.toNat) 1
  else ofRatio negative digits (Nat.pow 10 (-e).toNat)

/-! ## The fewest digits that read back -/

/-- The reals that round to a positive finite number, with the number itself:
all three over one denominator. The ends belong to it iff the significand is
even. -/
structure RoundingInterval where
  low : Nat
  value : Nat
  high : Nat
  den : Nat
  closed : Bool

/-- The rounding interval of a positive finite number. Below a power of two the
grid is twice as fine, so there the lower half-gap is half as wide. -/
def roundingInterval (x : Binary64) : RoundingInterval :=
  let m := x.significand
  -- distances in quarters of the last place
  let lower := if x.fraction = 0 ∧ 1 < x.exponentField then 1 else 2
  let e := x.exponent - 2
  let up := Nat.pow 2 e.toNat
  ⟨(4 * m - lower) * up, 4 * m * up, (4 * m + 2) * up, Nat.pow 2 (-e).toNat, m % 2 = 0⟩

/-- Whether `n · 10 ^ k` rounds to the number. -/
def RoundingInterval.admits (r : RoundingInterval) (n : Nat) (k : Int) : Bool :=
  let a := n * Nat.pow 10 k.toNat * r.den
  let s := Nat.pow 10 (-k).toNat
  if r.closed then r.low * s ≤ a && a ≤ r.high * s else r.low * s < a && a < r.high * s

/-- The place of the leading digit: the number lies in `[10 ^ (p - 1), 10 ^ p)`.
Found by counting up from the estimate that its binary length gives. -/
def leadingPlace (r : RoundingInterval) : Int :=
  -- 30103 / 100000 is the decimal logarithm of two
  let estimate : Int := ((Nat.log2 r.value : Int) - (Nat.log2 r.den : Int)) * 30103 / 100000 - 1
  let reaches (p : Int) : Bool := r.den * Nat.pow 10 p.toNat ≤ r.value * Nat.pow 10 (-p).toNat
  let rec climb : Nat → Int → Int
    | 0, p => p
    | fuel + 1, p => if reaches p then climb fuel (p + 1) else p
  climb 5 estimate

/-- The admitted numeral on the grid `10 ^ k` nearest to the number, if its
neighbours on the grid hold one. A tie goes up, away from zero. -/
def RoundingInterval.nearest (r : RoundingInterval) (k : Int) : Option Nat :=
  let num := r.value * Nat.pow 10 (-k).toNat
  let den := r.den * Nat.pow 10 k.toNat
  let n := num / den
  let twice := 2 * (num % den)
  let preferUp := den ≤ twice
  match r.admits n k, r.admits (n + 1) k with
  | true, true => some (if preferUp then n + 1 else n)
  | true, false => some n
  | false, true => some (n + 1)
  | false, false => none

/-- The shortest decimal of a positive finite number: a numeral and the power of
ten it stands for. Seventeen digits always suffice. -/
def shortest (x : Binary64) : Nat × Int :=
  let r := x.roundingInterval
  let p := leadingPlace r
  let rec widen : Nat → Nat → Nat × Int
    | 0, digits => ((r.nearest (p - digits)).getD 0, p - digits)
    | fuel + 1, digits =>
      match r.nearest (p - digits) with
      | some n => (n, p - digits)
      | none => widen fuel (digits + 1)
  widen 16 1

/-! ## Writing -/

/-- A numeral scaled by a power of ten, written positionally. -/
def positional (n : Nat) (k : Int) : String :=
  let digits := Nat.toDigits 10 n
  if 0 ≤ k then String.ofList (digits ++ List.replicate k.toNat '0')
  else
    let places := (-k).toNat
    let padded := List.replicate (places + 1 - digits.length) '0' ++ digits
    let cut := padded.length - places
    -- zeros at the end of the fraction are not written
    let tail := ((padded.drop cut).reverse.dropWhile (· = '0')).reverse
    if tail.isEmpty then String.ofList (padded.take cut)
    else String.ofList (padded.take cut ++ '.' :: tail)

/-- The text of a number: the shortest decimal, positional whatever its size. -/
def text (x : Binary64) : String :=
  if x.isNaN then "NaN"
  else
    let sign := if x.isNegative then "-" else ""
    if x.isInfinite then sign ++ "inf"
    else if x.isZero then sign ++ "0"
    else
      let (n, k) := x.shortest
      sign ++ positional n k

end Binary64

end SceneFactory
