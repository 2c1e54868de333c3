/-!
# Durations

Spans of time in nanoseconds, up to the largest that 64 bits of seconds hold. A
sum beyond that has no value (`add?`). A duration is written in the largest unit
of which it has at least one, with the fraction that is left.
-/

namespace SceneFactory

/-- A span of time in whole nanoseconds. -/
structure Duration where
  nanos : Nat
  le_limit : nanos ≤ 18446744073709551615999999999
deriving DecidableEq

namespace Duration

/-- The nanoseconds of the longest duration. -/
def limit : Nat := 18446744073709551615999999999

/-- The duration of so many nanoseconds; beyond the longest, the longest. -/
def ofNanos (n : Nat) : Duration := ⟨min n limit, Nat.min_le_right n limit⟩

/-- The duration of so many milliseconds. -/
def ofMillis (n : Nat) : Duration := ofNanos (n * 1000000)

/-- No time. -/
def zero : Duration := ⟨0, Nat.zero_le _⟩

/-- The longest duration. -/
def longest : Duration := ⟨limit, Nat.le_refl _⟩

instance : Inhabited Duration := ⟨zero⟩

/-- The whole milliseconds of a duration. -/
def millis (d : Duration) : Nat := d.nanos / 1000000

/-- The sum, if it is a duration. -/
def add? (a b : Duration) : Option Duration :=
  if h : a.nanos + b.nanos ≤ limit then some ⟨a.nanos + b.nanos, h⟩ else none

/-- The time left of `a` after `b`; none is left if `b` is longer. -/
def minus (a b : Duration) : Duration :=
  ⟨a.nanos - b.nanos, Nat.le_trans (Nat.sub_le _ _) a.le_limit⟩

/-- The shorter of two durations. -/
def shorter (a b : Duration) : Duration := if a.nanos ≤ b.nanos then a else b

/-- The longer of two durations. -/
def longer (a b : Duration) : Duration := if a.nanos ≤ b.nanos then b else a

/-! ## Writing -/

/-- An amount of a unit of `10 ^ places` nanoseconds. -/
def textIn (n places : Nat) (unit : String) : String :=
  let digits := (toString (n % Nat.pow 10 places)).toList
  let fraction :=
    ((List.replicate (places - digits.length) '0' ++ digits).reverse.dropWhile (· = '0')).reverse
  toString (n / Nat.pow 10 places) ++
    (if places = 0 ∨ fraction.isEmpty then "" else "." ++ String.ofList fraction) ++ unit

/-- The written form. -/
def text (d : Duration) : String :=
  if 1000000000 ≤ d.nanos then textIn d.nanos 9 "s"
  else if 1000000 ≤ d.nanos then textIn d.nanos 6 "ms"
  else if 1000 ≤ d.nanos then textIn d.nanos 3 "µs"
  else textIn d.nanos 0 "ns"

/-! ## Laws -/

theorem nanos_le_limit (d : Duration) : d.nanos ≤ limit := d.le_limit

theorem ext {a b : Duration} (h : a.nanos = b.nanos) : a = b := by
  obtain ⟨m, hm⟩ := a
  obtain ⟨n, hn⟩ := b
  cases h
  rfl

/-- A sum exists iff it is within the limit. -/
theorem add?_isSome (a b : Duration) : (a.add? b).isSome = true ↔ a.nanos + b.nanos ≤ limit := by
  unfold add?
  split <;> simp_all

/-- A sum that exists is the sum. -/
theorem nanos_of_add? {a b c : Duration} (h : a.add? b = some c) :
    c.nanos = a.nanos + b.nanos := by
  unfold add? at h
  split at h
  · cases h; rfl
  · cases h

@[simp] theorem nanos_minus (a b : Duration) : (a.minus b).nanos = a.nanos - b.nanos := rfl

theorem nanos_shorter (a b : Duration) : (a.shorter b).nanos = min a.nanos b.nanos := by
  unfold shorter
  split <;> omega

theorem nanos_longer (a b : Duration) : (a.longer b).nanos = max a.nanos b.nanos := by
  unfold longer
  split <;> omega

end Duration

end SceneFactory
