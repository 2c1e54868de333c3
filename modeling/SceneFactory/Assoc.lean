/-!
# Associations in order of first insertion

A finite map whose keys stand in the order in which they first came in. Writing
a key that is already there replaces its value and leaves it where it stands.
Attributes, object properties, resource roots, cached templates and document
tables are all kept this way, since their order shows in what is printed.

Main statements: a write is seen by exactly the key written (`get?_insert`), a
fresh key goes last (`keys_insert`), and erasing keeps the order of the rest
(`keys_erase`).
-/

namespace SceneFactory

/-- A finite map from `κ` to `ν` with its entries in order of first insertion. -/
structure Assoc (κ ν : Type) where
  entries : List (κ × ν)
  nodup_keys : (entries.map Prod.fst).Nodup

namespace Assoc

variable {κ ν μ : Type}

/-! ## Entry lists -/

section Entries

variable [DecidableEq κ]

/-- The value of the first entry under a key. -/
def find (k : κ) : List (κ × ν) → Option ν
  | [] => none
  | (k', v) :: rest => if k' = k then some v else find k rest

/-- The entries after a write: in place if the key is there, else last. -/
def put (k : κ) (v : ν) : List (κ × ν) → List (κ × ν)
  | [] => [(k, v)]
  | (k', v') :: rest => if k' = k then (k, v) :: rest else (k', v') :: put k v rest

theorem find_put (k j : κ) (v : ν) (es : List (κ × ν)) :
    find j (put k v es) = if k = j then some v else find j es := by
  induction es with
  | nil => simp [put, find]
  | cons e es ih => obtain ⟨k', v'⟩ := e; grind [put, find]

theorem keys_put (k : κ) (v : ν) (es : List (κ × ν)) :
    (put k v es).map Prod.fst =
      if k ∈ es.map Prod.fst then es.map Prod.fst else es.map Prod.fst ++ [k] := by
  induction es with
  | nil => simp [put]
  | cons e es ih => obtain ⟨k', v'⟩ := e; grind [put]

/-- A write puts nothing in but the entry written. -/
theorem mem_of_mem_put {k : κ} {v : ν} {es : List (κ × ν)} {e : κ × ν} (h : e ∈ put k v es) :
    e = (k, v) ∨ e ∈ es := by
  induction es with
  | nil => exact .inl (List.mem_singleton.1 h)
  | cons e' es ih => obtain ⟨k', v'⟩ := e'; grind [put]

/-- A write takes nothing out but what stands under the key. -/
theorem mem_put_of_ne {k : κ} (v : ν) {es : List (κ × ν)} {e : κ × ν} (h : e ∈ es)
    (hne : e.1 ≠ k) : e ∈ put k v es := by
  induction es with
  | nil => cases h
  | cons e' es ih => obtain ⟨k', v'⟩ := e'; grind [put]

/-- What is found under a key is an entry of that key. -/
theorem mem_of_find {k : κ} {v : ν} {es : List (κ × ν)} (h : find k es = some v) :
    (k, v) ∈ es := by
  induction es with
  | nil => cases h
  | cons e es ih => obtain ⟨k', v'⟩ := e; grind [find]

theorem find_eq_none_iff (k : κ) (es : List (κ × ν)) :
    find k es = none ↔ k ∉ es.map Prod.fst := by
  induction es with
  | nil => simp [find]
  | cons e es ih => obtain ⟨k', v'⟩ := e; grind [find]

theorem nodup_put (k : κ) (v : ν) {es : List (κ × ν)} (h : (es.map Prod.fst).Nodup) :
    ((put k v es).map Prod.fst).Nodup := by
  rw [keys_put]
  split
  · exact h
  · rename_i hk
    refine List.nodup_append.2 ⟨h, by simp, ?_⟩
    intro a ha b hb
    simp only [List.mem_singleton] at hb
    subst hb
    intro hab
    exact hk (hab ▸ ha)

end Entries

/-! ## Operations -/

instance [DecidableEq κ] [DecidableEq ν] : DecidableEq (Assoc κ ν) := fun a b =>
  if h : a.entries = b.entries then
    isTrue (by obtain ⟨_, _⟩ := a; obtain ⟨_, _⟩ := b; cases h; rfl)
  else isFalse fun e => h (e ▸ rfl)

/-- The association without entries. -/
def empty : Assoc κ ν := ⟨[], by simp⟩

instance : Inhabited (Assoc κ ν) := ⟨empty⟩

/-- The keys in order of first insertion. -/
def keys (a : Assoc κ ν) : List κ := a.entries.map Prod.fst

/-- The number of entries. -/
def size (a : Assoc κ ν) : Nat := a.entries.length

/-- Whether there is no entry. -/
def isEmpty (a : Assoc κ ν) : Bool := a.entries.isEmpty

variable [DecidableEq κ]

/-- The value under a key. -/
def get? (a : Assoc κ ν) (k : κ) : Option ν := find k a.entries

/-- Whether a key has a value. -/
def contains (a : Assoc κ ν) (k : κ) : Bool := (a.get? k).isSome

/-- Writes a value under a key; a key already there keeps its place. -/
def insert (a : Assoc κ ν) (k : κ) (v : ν) : Assoc κ ν :=
  ⟨put k v a.entries, nodup_put k v a.nodup_keys⟩

/-- Forgets a key. -/
def erase (a : Assoc κ ν) (k : κ) : Assoc κ ν :=
  ⟨a.entries.filter fun e => e.1 ≠ k,
    (List.filter_sublist.map Prod.fst).nodup a.nodup_keys⟩

/-- Changes the value under a key, if it has one. -/
def modify (a : Assoc κ ν) (k : κ) (f : ν → ν) : Assoc κ ν :=
  match a.get? k with
  | some v => a.insert k (f v)
  | none => a

/-- Writes the entries of a list one after the other. -/
def insertAll (a : Assoc κ ν) (es : List (κ × ν)) : Assoc κ ν :=
  es.foldl (fun a e => a.insert e.1 e.2) a

/-- The association written entry by entry: a repeated key keeps its first place
and has its last value. -/
def ofList (es : List (κ × ν)) : Assoc κ ν := empty.insertAll es

/-! ## What an operation does to the view -/

@[simp] theorem get?_empty (k : κ) : (empty : Assoc κ ν).get? k = none := rfl

theorem get?_insert (a : Assoc κ ν) (k j : κ) (v : ν) :
    (a.insert k v).get? j = if k = j then some v else a.get? j :=
  find_put k j v a.entries

@[simp] theorem get?_insert_self (a : Assoc κ ν) (k : κ) (v : ν) :
    (a.insert k v).get? k = some v := by simp [get?_insert]

theorem keys_insert (a : Assoc κ ν) (k : κ) (v : ν) :
    (a.insert k v).keys = if k ∈ a.keys then a.keys else a.keys ++ [k] :=
  keys_put k v a.entries

theorem get?_eq_none_iff (a : Assoc κ ν) (k : κ) : a.get? k = none ↔ k ∉ a.keys :=
  find_eq_none_iff k a.entries

theorem contains_iff_mem_keys (a : Assoc κ ν) (k : κ) : a.contains k = true ↔ k ∈ a.keys := by
  have h := a.get?_eq_none_iff k
  unfold contains
  cases hk : a.get? k <;> simp_all

theorem keys_erase (a : Assoc κ ν) (k : κ) : (a.erase k).keys = a.keys.filter (· ≠ k) := by
  simp [keys, erase, List.filter_map, Function.comp_def]

theorem get?_erase (a : Assoc κ ν) (k j : κ) :
    (a.erase k).get? j = if k = j then none else a.get? j := by
  change find j (a.entries.filter fun e => e.1 ≠ k) = if k = j then none else find j a.entries
  induction a.entries with
  | nil => simp [find]
  | cons e es ih => obtain ⟨k', v'⟩ := e; grind [find]

end Assoc

end SceneFactory
