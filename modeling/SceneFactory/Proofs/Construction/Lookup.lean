import SceneFactory.Contexts

/-!
# What a construction sees of its context

A construction works in a fresh context, which has the contextual attributes and
continues outward in the context around it. `Contexts.property?_enter` says what a name
means there: what the attributes say, and for the rest what it means outside.
-/

set_option autoImplicit false

namespace SceneFactory.Contexts

variable (cs : Contexts)

/-- Chains lead to older contexts. -/
theorem le_of_mem_chain {j k : ContextId} (h : j ∈ cs.chain k) : j ≤ k := by
  induction k using Nat.strongRecOn with
  | ind k ih =>
    rw [chain] at h
    split at h
    · rename_i p _
      split at h
      · rename_i hlt
        rcases List.mem_cons.1 h with rfl | h
        · exact Nat.le_refl j
        · exact Nat.le_trans (ih p hlt h) (Nat.le_of_lt hlt)
      · exact Nat.le_of_eq (List.mem_singleton.1 h)
    · split at h
      · exact Nat.le_of_eq (List.mem_singleton.1 h)
      · cases h

/-- Nothing is found from a context that does not exist. -/
theorem property?_of_missing {k : ContextId} (h : cs.nodes.get? k = none) (name : String) :
    cs.property? k name = none := by
  have hparent : cs.parent? k = none := by rw [parent?, h]; rfl
  rw [property?_of_root cs name hparent, own?, h]
  rfl

/-- A lookup depends on the contexts of the chain alone. -/
theorem property?_congr {cs cs' : Contexts} {k : ContextId} {name : String}
    (hchain : cs'.chain k = cs.chain k)
    (hown : ∀ j ∈ cs.chain k, cs'.own? j name = cs.own? j name) :
    cs'.property? k name = cs.property? k name := by
  simp only [property?]
  rw [hchain]
  generalize cs.chain k = js at hown
  induction js with
  | nil => rfl
  | cons j js ih =>
    rw [List.findSome?_cons, List.findSome?_cons, hown j List.mem_cons_self,
      ih fun i hi => hown i (List.mem_cons_of_mem j hi)]

/-! ## Setting many properties -/

theorem setAll_induction {P : Contexts → Prop} (k : ContextId) (attributes : Attributes)
    (step : ∀ cs name value, P cs → P (cs.set k name value)) (h : P cs) :
    P (cs.setAll k attributes) := by
  rw [setAll]
  generalize attributes.entries = es
  induction es generalizing cs with
  | nil => exact h
  | cons e es ih => exact ih (cs.set k e.1 e.2) (step cs e.1 e.2 h)

theorem chain_setAll (k j : ContextId) (attributes : Attributes) :
    (cs.setAll k attributes).chain j = cs.chain j := by
  refine cs.setAll_induction (P := fun cs' => cs'.chain j = cs.chain j) k attributes ?_ rfl
  intro cs' name value h
  rw [chain_set, h]

theorem parent?_setAll (k j : ContextId) (attributes : Attributes) :
    (cs.setAll k attributes).parent? j = cs.parent? j := by
  refine cs.setAll_induction (P := fun cs' => cs'.parent? j = cs.parent? j) k attributes ?_ rfl
  intro cs' name value h
  rw [parent?_set, h]

/-- Setting properties of one context changes no other. -/
theorem own?_setAll_of_ne {k j : ContextId} (h : k ≠ j) (attributes : Attributes)
    (name : String) : (cs.setAll k attributes).own? j name = cs.own? j name := by
  refine cs.setAll_induction (P := fun cs' => cs'.own? j name = cs.own? j name) k attributes
    ?_ rfl
  intro cs' other value hcs
  rw [own?_set, if_neg fun hand => h hand.1, hcs]

/-- A context has the properties that were set and keeps those that were not. -/
theorem own?_setAll_self {k : ContextId} (h : (cs.nodes.get? k).isSome = true)
    (attributes : Attributes) (name : String) :
    (cs.setAll k attributes).own? k name = (attributes.get? name).or (cs.own? k name) := by
  obtain ⟨es, hes⟩ := attributes
  simp only [setAll, Assoc.get?]
  induction es generalizing cs with
  | nil => rfl
  | cons e es ih =>
    obtain ⟨other, value⟩ := e
    obtain ⟨hnew, hrest⟩ := List.nodup_cons.1 hes
    have hset : ((cs.set k other value).nodes.get? k).isSome = true := by
      rw [set, Numbered.get?_modify, if_pos rfl, Option.isSome_map]
      exact h
    rw [List.foldl_cons, ih (cs.set k other value) hset hrest, own?_set, Assoc.find]
    by_cases hname : other = name
    · -- the name is set here and not a second time
      subst hname
      rw [(Assoc.find_eq_none_iff other es).2 hnew, if_pos ⟨rfl, rfl, h⟩, if_pos rfl]
      rfl
    · rw [if_neg fun hand => hname hand.2.1, if_neg hname]

/-! ## A fresh context -/

theorem own?_add_self (parent : Option ContextId) (name : String) :
    (cs.add parent).own? (cs.newest + 1) name = none := by
  rw [own?, add, newest, Numbered.get?_push]
  simp [Numbered.next]

theorem own?_add_of_le (parent : Option ContextId) {k : ContextId} (h : k ≤ cs.newest)
    (name : String) : (cs.add parent).own? k name = cs.own? k name := by
  simp only [own?, add]
  rw [Numbered.get?_push_of_le _ _ h]

/-- In a fresh context a name means what the attributes say, and for the rest what it
means outside. -/
theorem property?_enter (outer : ContextId) (attributes : Attributes) (name : String) :
    ((cs.add (some outer)).setAll (cs.newest + 1) attributes).property? (cs.newest + 1) name =
      (attributes.get? name).or (cs.property? outer name) := by
  have hnode : ((cs.add (some outer)).nodes.get? (cs.newest + 1)).isSome = true := by
    rw [add, newest, Numbered.get?_push]
    simp [Numbered.next]
  have hown : ((cs.add (some outer)).setAll (cs.newest + 1) attributes).own?
      (cs.newest + 1) name = attributes.get? name := by
    rw [own?_setAll_self _ hnode, own?_add_self, Option.or_none]
  have hparent : ((cs.add (some outer)).setAll (cs.newest + 1) attributes).parent?
      (cs.newest + 1) = some outer := by
    rw [parent?_setAll, parent?_add, if_pos rfl]
  by_cases hle : outer ≤ cs.newest
  · rw [property?_of_parent _ name hparent (Nat.lt_succ_of_le hle), hown]
    congr 1
    refine property?_congr ?_ ?_
    · rw [chain_setAll, chain_add_of_le cs (some outer) hle]
    · intro j hj
      have hj : j ≤ cs.newest := Nat.le_trans (cs.le_of_mem_chain hj) hle
      rw [own?_setAll_of_ne _ (Nat.ne_of_gt (Nat.lt_succ_of_le hj)),
        own?_add_of_le cs (some outer) hj]
  · -- a context that does not exist is not continued in, and says nothing
    have hmissing : cs.nodes.get? outer = none :=
      (cs.nodes.get?_eq_none_iff outer).2 (Or.inr (Nat.lt_of_not_le hle))
    rw [property?_of_missing cs hmissing, Option.or_none, ← hown]
    rw [property?, chain, hparent]
    have hlt : ¬outer < cs.newest + 1 := fun hlt => hle (Nat.le_of_lt_succ hlt)
    simp only [hlt, dif_neg, not_false_eq_true, List.findSome?_cons, List.findSome?_nil]
    cases ((cs.add (some outer)).setAll (cs.newest + 1) attributes).own? (cs.newest + 1) name <;>
      rfl

end SceneFactory.Contexts
