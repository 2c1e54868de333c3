/-!
# Numbered stores

Records that are numbered from 1 in the order in which they are added and never
removed.

Main statements: a new record gets the next number and is found under it
(`get?_push_self`), older records stay where they are (`get?_push_of_le`), and a
change is seen under the number changed and nowhere else (`get?_modify`).
-/

namespace SceneFactory

/-- Records numbered from 1. -/
structure Numbered (α : Type) where
  records : Array α

namespace Numbered

variable {α : Type}

/-- The store without records. -/
def empty : Numbered α := ⟨#[]⟩

instance : Inhabited (Numbered α) := ⟨empty⟩

/-- The number of records, which is the number of the newest. -/
def size (s : Numbered α) : Nat := s.records.size

/-- The number that the next record gets. -/
def next (s : Numbered α) : Nat := s.size + 1

/-- Adds a record. -/
def push (s : Numbered α) (a : α) : Numbered α := ⟨s.records.push a⟩

/-- The record of a given number. -/
def get? (s : Numbered α) : Nat → Option α
  | 0 => none
  | i + 1 => s.records[i]?

/-- Changes the record of a given number. -/
def modify (s : Numbered α) (n : Nat) (f : α → α) : Numbered α :=
  match n with
  | 0 => s
  | i + 1 => ⟨s.records.modify i f⟩

/-- The records in order. -/
def toList (s : Numbered α) : List α := s.records.toList

/-- The numbers in use, in order. -/
def numbers (s : Numbered α) : List Nat := (List.range s.size).map (· + 1)

/-! ## What an operation does to the view -/

@[simp] theorem get?_empty (n : Nat) : (empty : Numbered α).get? n = none := by
  cases n <;> rfl

theorem get?_push (s : Numbered α) (a : α) (n : Nat) :
    (s.push a).get? n = if n = s.next then some a else s.get? n := by
  cases n with
  | zero => simp [get?, next]
  | succ i => simp [get?, push, next, size, Array.getElem?_push]

@[simp] theorem get?_push_self (s : Numbered α) (a : α) : (s.push a).get? s.next = some a := by
  simp [get?_push]

theorem get?_push_of_le (s : Numbered α) (a : α) {n : Nat} (h : n ≤ s.size) :
    (s.push a).get? n = s.get? n := by
  rw [get?_push, if_neg]
  intro hn
  simp only [next] at hn
  omega

theorem get?_eq_none_iff (s : Numbered α) (n : Nat) : s.get? n = none ↔ n = 0 ∨ s.size < n := by
  cases n with
  | zero => exact ⟨fun _ => Or.inl rfl, fun _ => rfl⟩
  | succ i =>
    simp only [get?, size, Array.getElem?_eq_none_iff]
    omega

@[simp] theorem size_push (s : Numbered α) (a : α) : (s.push a).size = s.size + 1 := by
  simp [size, push]

@[simp] theorem size_modify (s : Numbered α) (n : Nat) (f : α → α) :
    (s.modify n f).size = s.size := by
  cases n <;> simp [modify, size]

/-- A change is seen under the number changed and nowhere else. -/
theorem get?_modify (s : Numbered α) (n m : Nat) (f : α → α) :
    (s.modify n f).get? m = if n = m then (s.get? m).map f else s.get? m := by
  cases n with
  | zero =>
    cases m with
    | zero => rfl
    | succ j => simp [modify]
  | succ i =>
    cases m with
    | zero => simp [get?]
    | succ j => simp [modify, get?, Array.getElem?_modify]

theorem mem_numbers (s : Numbered α) (n : Nat) : n ∈ s.numbers ↔ 0 < n ∧ n ≤ s.size := by
  simp only [numbers, List.mem_map, List.mem_range]
  constructor
  · rintro ⟨i, hi, rfl⟩
    omega
  · intro h
    exact ⟨n - 1, by omega, by omega⟩

end Numbered

end SceneFactory
