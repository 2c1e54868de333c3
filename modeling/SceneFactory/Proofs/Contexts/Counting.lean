import Mathlib.Data.Finset.Card
import SceneFactory.Proofs.Lifetime.Alive

/-!
# Contexts with counted references

A context is shared by whoever refers to it: the host by handles, and every context that was
made inside it and still lives, by its parent. The references are counted. When the last one is
let go the context goes, and with it its reference to its own parent, which may be the last one
in turn (`Contexts.letGo`).

The counts balance when they are the numbers of references that there are
(`Contexts.Balanced`); to make a context, to share a reference and to let one go keep them in
balance. Main statement: `Contexts.Balanced.pos_iff`. Balanced counts are positive for exactly
the contexts that a handle leads to.
-/

set_option autoImplicit false

namespace SceneFactory.Contexts

variable (cs : Contexts) (strong : ContextId → Nat) {i j k p : ContextId}

/-- Lets go of one reference to a context. With the last one the context goes, and lets go of
its parent. -/
def letGo (cs : Contexts) (strong : ContextId → Nat) (k : ContextId) : ContextId → Nat :=
  let left := Function.update strong k (strong k - 1)
  if strong k = 1 then
    match cs.parent? k with
    | some p => if _h : p < k then letGo cs left p else left
    | none => left
  else left
termination_by k

/-- The contexts made inside a context that still live. -/
def livingInside (k : ContextId) : Finset ContextId :=
  (Finset.range (cs.newest + 1)).filter fun j => cs.parent? j = some k ∧ 0 < strong j

/-- The counts are the numbers of references from handles and from inside, the handles are to
contexts that were made, and contexts are younger than their parents. -/
structure Balanced (handles : List ContextId) : Prop where
  older : ∀ {k p : ContextId}, cs.parent? k = some p → 0 < p ∧ p < k
  made : ∀ k ∈ handles, 0 < k ∧ k ≤ cs.newest
  counted : ∀ k, strong k = handles.count k + (cs.livingInside strong k).card

variable {cs strong}

/-! ## Inside a context -/

/-- What has a parent was made. -/
theorem le_newest_of_parent? (h : cs.parent? k = some p) : k ≤ cs.newest := by
  by_contra hlt
  have hnone : cs.nodes.get? k = none :=
    (cs.nodes.get?_eq_none_iff k).2 (Or.inr (Nat.lt_of_not_le hlt))
  rw [parent?, hnone] at h
  cases h

/-- The chain of a context that was made begins at the context. -/
theorem mem_chain_of_made (hk : 0 < k ∧ k ≤ cs.newest) : k ∈ cs.chain k := by
  have hnode : (cs.nodes.get? k).isSome = true := by
    rw [Option.isSome_iff_ne_none, Ne, Numbered.get?_eq_none_iff]
    rintro (rfl | hlt)
    · exact Nat.lt_irrefl 0 hk.1
    · exact Nat.not_lt_of_le hk.2 hlt
  cases hp : cs.parent? k with
  | some p => exact cs.mem_chain_of_parent? hp
  | none =>
    rw [chain, hp]
    simp [hnode]

theorem mem_livingInside : j ∈ cs.livingInside strong k ↔ cs.parent? j = some k ∧ 0 < strong j := by
  rw [livingInside, Finset.mem_filter, Finset.mem_range]
  refine ⟨And.right, fun h => ⟨Nat.lt_succ_of_le (le_newest_of_parent? h.1), h⟩⟩

/-- Who lives inside depends on who lives alone. -/
theorem livingInside_congr {strong' : ContextId → Nat} (h : ∀ j, 0 < strong' j ↔ 0 < strong j) :
    cs.livingInside strong' k = cs.livingInside strong k := by
  ext j
  rw [mem_livingInside, mem_livingInside, h]

/-- A list of at most one member has it once. -/
theorem count_toList (parent : Option ContextId) (j : ContextId) :
    parent.toList.count j = if parent = some j then 1 else 0 := by
  cases parent with
  | none => rfl
  | some p =>
    by_cases hp : p = j
    · simp [hp]
    · simp [hp]

/-- A context that goes is missed inside its parent, and nowhere else. -/
theorem card_livingInside_of_gone (hk : 0 < strong k) (j : ContextId) :
    (cs.livingInside (Function.update strong k 0) j).card + (cs.parent? k).toList.count j =
      (cs.livingInside strong j).card := by
  have hgone : cs.livingInside (Function.update strong k 0) j =
      (cs.livingInside strong j).erase k := by
    ext i
    rw [Finset.mem_erase, mem_livingInside, mem_livingInside]
    by_cases hik : i = k
    · simp [hik]
    · simp [hik]
  rw [hgone, count_toList]
  by_cases hp : cs.parent? k = some j
  · rw [if_pos hp]
    exact Finset.card_erase_add_one (mem_livingInside.2 ⟨hp, hk⟩)
  · rw [if_neg hp, Finset.erase_eq_of_notMem fun hmem => hp (mem_livingInside.1 hmem).1]
    rfl

/-- A fresh context is found inside its parent, and nowhere else. -/
theorem card_livingInside_of_fresh (parent : Option ContextId) (j : ContextId) :
    ((cs.add parent).livingInside (Function.update strong (cs.newest + 1) 1) j).card =
      (cs.livingInside strong j).card + parent.toList.count j := by
  have hold : cs.newest + 1 ∉ cs.livingInside strong j := fun hmem =>
    Nat.not_succ_le_self _ (le_newest_of_parent? (mem_livingInside.1 hmem).1)
  have hfresh : (cs.add parent).livingInside (Function.update strong (cs.newest + 1) 1) j =
      if parent = some j then insert (cs.newest + 1) (cs.livingInside strong j)
      else cs.livingInside strong j := by
    ext i
    rw [mem_livingInside, parent?_add]
    by_cases hi : i = cs.newest + 1
    · subst hi
      by_cases hp : parent = some j <;> simp [hp, hold]
    · rw [if_neg hi, Function.update_of_ne hi, ← mem_livingInside]
      by_cases hp : parent = some j <;> simp [hi, hp]
  rw [hfresh, count_toList]
  by_cases hp : parent = some j
  · rw [if_pos hp, if_pos hp, Finset.card_insert_of_notMem hold]
  · rw [if_neg hp, if_neg hp]
    rfl

/-- Counts that change where they stay positive change nothing about who lives. -/
theorem pos_update_iff {n : Nat} (hn : 0 < n) (hi : 0 < strong i) (j : ContextId) :
    0 < Function.update strong i n j ↔ 0 < strong j := by
  by_cases hij : j = i
  · subst hij
    simp [hn, hi]
  · rw [Function.update_of_ne hij]

namespace Balanced

variable {handles handles' : List ContextId}

/-- The order of the handles does not matter. -/
theorem perm (h : cs.Balanced strong handles) (hperm : handles.Perm handles') :
    cs.Balanced strong handles' where
  older := h.older
  made k hk := h.made k (hperm.mem_iff.2 hk)
  counted k := by rw [h.counted, hperm.count_eq]

/-! ## Sharing and letting go -/

/-- What lives was made. -/
theorem made_of_pos (h : cs.Balanced strong handles) (hk : 0 < strong k) :
    0 < k ∧ k ≤ cs.newest := by
  by_cases hmem : k ∈ handles
  · exact h.made k hmem
  · rw [h.counted, List.count_eq_zero.2 hmem, Nat.zero_add, Finset.card_pos] at hk
    obtain ⟨j, hj⟩ := hk
    have hp := (mem_livingInside.1 hj).1
    obtain ⟨hpos, hlt⟩ := h.older hp
    exact ⟨hpos, Nat.le_trans (Nat.le_of_lt hlt) (le_newest_of_parent? hp)⟩

/-- A reference to a context that lives may be shared. -/
theorem share (h : cs.Balanced strong handles) (hk : 0 < strong k) :
    cs.Balanced (Function.update strong k (strong k + 1)) (k :: handles) where
  older := h.older
  made j hj := by
    rcases List.mem_cons.1 hj with rfl | hj
    · exact h.made_of_pos hk
    · exact h.made j hj
  counted j := by
    rw [livingInside_congr (pos_update_iff (Nat.succ_pos _) hk)]
    by_cases hjk : j = k
    · subst hjk
      rw [Function.update_self, List.count_cons_self, h.counted]
      omega
    · rw [Function.update_of_ne hjk, List.count_cons_of_ne (Ne.symm hjk), h.counted]

/-- Where other references are left, letting go of one is all that happens. -/
theorem letGo_shared (h : cs.Balanced strong (k :: handles)) (hshared : strong k ≠ 1) :
    cs.Balanced (Function.update strong k (strong k - 1)) handles where
  older := h.older
  made j hj := h.made j (List.mem_cons_of_mem k hj)
  counted j := by
    have hself := h.counted k
    rw [List.count_cons_self] at hself
    rw [livingInside_congr (pos_update_iff (by omega) (by omega))]
    by_cases hjk : j = k
    · subst hjk
      rw [Function.update_self]
      omega
    · rw [Function.update_of_ne hjk, h.counted, List.count_cons_of_ne (Ne.symm hjk)]

/-- With the last reference to a context its reference to its parent is left behind. -/
theorem letGo_last (h : cs.Balanced strong (k :: handles)) (hlast : strong k = 1) :
    cs.Balanced (Function.update strong k 0) ((cs.parent? k).toList ++ handles) where
  older := h.older
  made j hj := by
    rcases List.mem_append.1 hj with hj | hj
    · have hp : cs.parent? k = some j := Option.mem_toList.1 hj
      obtain ⟨hpos, hlt⟩ := h.older hp
      exact ⟨hpos, Nat.le_trans (Nat.le_of_lt hlt) (le_newest_of_parent? hp)⟩
    · exact h.made j (List.mem_cons_of_mem k hj)
  counted j := by
    have hinside : (cs.livingInside (Function.update strong k 0) j).card +
        (cs.parent? k).toList.count j = (cs.livingInside strong j).card :=
      card_livingInside_of_gone (by omega) j
    have hcount := h.counted j
    rw [List.count_append]
    by_cases hjk : j = k
    · subst hjk
      rw [List.count_cons_self] at hcount
      rw [Function.update_self]
      omega
    · rw [List.count_cons_of_ne (Ne.symm hjk)] at hcount
      rw [Function.update_of_ne hjk]
      omega

/-- Letting go of a reference keeps the counts in balance, whatever goes with it. -/
theorem letGo (h : cs.Balanced strong (k :: handles)) :
    cs.Balanced (cs.letGo strong k) handles := by
  induction k using Nat.strongRecOn generalizing strong with
  | ind k ih =>
    rw [Contexts.letGo]
    by_cases hlast : strong k = 1
    · have hgone := h.letGo_last hlast
      simp only [hlast, Nat.sub_self, if_true]
      -- the reference that is left behind is let go next
      cases hp : cs.parent? k with
      | none =>
        rw [hp] at hgone
        exact hgone
      | some p =>
        rw [hp] at hgone
        have hlt := (h.older hp).2
        simp only [hlt, dif_pos]
        exact ih p hlt hgone
    · rw [if_neg hlast]
      exact h.letGo_shared hlast

/-! ## Making and setting -/

/-- A fresh context takes over the reference that is had to its parent. -/
theorem make {parent : Option ContextId} (h : cs.Balanced strong (parent.toList ++ handles)) :
    (cs.add parent).Balanced (Function.update strong (cs.newest + 1) 1)
      ((cs.newest + 1) :: handles) := by
  have hmade : ∀ k ∈ handles, 0 < k ∧ k ≤ cs.newest :=
    fun k hk => h.made k (List.mem_append_right _ hk)
  have hparent : ∀ p, parent = some p → 0 < p ∧ p ≤ cs.newest := by
    rintro p rfl
    exact h.made p List.mem_cons_self
  refine ⟨?_, ?_, ?_⟩
  · intro k p hp
    rw [parent?_add] at hp
    by_cases hk : k = cs.newest + 1
    · rw [if_pos hk] at hp
      exact ⟨(hparent p hp).1, hk ▸ Nat.lt_succ_of_le (hparent p hp).2⟩
    · rw [if_neg hk] at hp
      exact h.older hp
  · intro k hk
    rw [newest_add]
    rcases List.mem_cons.1 hk with rfl | hk
    · exact ⟨Nat.succ_pos _, Nat.le_refl _⟩
    · exact ⟨(hmade k hk).1, Nat.le_succ_of_le (hmade k hk).2⟩
  · intro j
    rw [card_livingInside_of_fresh]
    by_cases hj : j = cs.newest + 1
    · subst hj
      have hnobody : cs.newest + 1 ∉ parent.toList ++ handles :=
        fun hmem => Nat.not_succ_le_self _ (h.made _ hmem).2
      have hinside : cs.livingInside strong (cs.newest + 1) = ∅ := by
        refine Finset.eq_empty_iff_forall_notMem.2 fun i hi => ?_
        have hp := (mem_livingInside.1 hi).1
        exact Nat.not_le_of_lt (Nat.lt_of_succ_lt (h.older hp).2) (le_newest_of_parent? hp)
      have hcount := List.count_eq_zero.2 hnobody
      rw [List.count_append] at hcount
      rw [Function.update_self, List.count_cons_self, hinside, Finset.card_empty]
      omega
    · rw [Function.update_of_ne hj, List.count_cons_of_ne (Ne.symm hj), h.counted,
        List.count_append]
      omega

theorem set (h : cs.Balanced strong handles) (k : ContextId) (name : String) (value : Value) :
    (cs.set k name value).Balanced strong handles where
  older hp := h.older (by rwa [parent?_set] at hp)
  made j hj := by
    rw [newest_set]
    exact h.made j hj
  counted j := by
    have hinside : (cs.set k name value).livingInside strong j = cs.livingInside strong j := by
      ext i
      rw [mem_livingInside, mem_livingInside, parent?_set]
    rw [hinside, h.counted]

/-! ## What lives -/

/-- What lives keeps all contexts alive that its chain leads to. -/
theorem pos_of_mem_chain (h : cs.Balanced strong handles) (hj : 0 < strong j)
    (hk : k ∈ cs.chain j) : 0 < strong k := by
  induction j using Nat.strongRecOn with
  | ind j ih =>
    rcases cs.mem_chain_cases hk with rfl | ⟨p, hp, hlt, hk⟩
    · exact hj
    · -- the parent is counted at least once, for the context inside it
      refine ih p hlt ?_ hk
      have hinside : 0 < (cs.livingInside strong p).card :=
        Finset.card_pos.2 ⟨j, mem_livingInside.2 ⟨hp, hj⟩⟩
      rw [h.counted]
      omega

/-- The contexts with references are those that a handle leads to. -/
theorem pos_iff (h : cs.Balanced strong handles) (k : ContextId) :
    0 < strong k ↔ ∃ j ∈ handles, k ∈ cs.chain j := by
  constructor
  · -- someone refers to the context: a handle, or a context inside it, which is younger
    intro hk
    induction hn : cs.newest - k using Nat.strongRecOn generalizing k with
    | ind n ih =>
      by_cases hmem : k ∈ handles
      · exact ⟨k, hmem, mem_chain_of_made (h.made k hmem)⟩
      · rw [h.counted, List.count_eq_zero.2 hmem, Nat.zero_add, Finset.card_pos] at hk
        obtain ⟨i, hi⟩ := hk
        obtain ⟨hp, hi⟩ := mem_livingInside.1 hi
        obtain ⟨hpos, hlt⟩ := h.older hp
        have hle := le_newest_of_parent? hp
        have hcloser : cs.newest - i < n :=
          hn ▸ Nat.sub_lt_sub_left (Nat.lt_of_lt_of_le hlt hle) hlt
        obtain ⟨j, hj, hchain⟩ := ih (cs.newest - i) hcloser i hi rfl
        have hinner : k ∈ cs.chain i := cs.mem_chain_of_lt hp hlt
          (mem_chain_of_made ⟨hpos, Nat.le_trans (Nat.le_of_lt hlt) hle⟩)
        exact ⟨j, hj, cs.mem_chain_trans hinner hchain⟩
  · -- a handle is counted, so what it is to lives, and with it its whole chain
    rintro ⟨j, hj, hk⟩
    refine h.pos_of_mem_chain ?_ hk
    have hcount := List.count_pos_iff.2 hj
    rw [h.counted]
    omega

end Balanced

end SceneFactory.Contexts
