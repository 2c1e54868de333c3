import SceneFactory.Attributes
import SceneFactory.Numbered

/-!
# Contexts of construction

A context holds properties and may have a parent, an older context. Looking a
property up starts at the context and goes outward along its chain of parents;
setting one changes the context itself only. Contexts are numbered from 1 in
order of creation and are shared: what is set on a parent is seen by its
children that do not shadow it.

Main statements: the chain of a child is the child followed by the chain of its
parent (`chain_child`), later contexts change no chain (`chain_add_of_le`), a lookup
walks outward (`property?_of_parent`), and setting a name changes it in one context
only (`own?_set`).
-/

namespace SceneFactory

/-- The number of a context. -/
abbrev ContextId := Nat

/-- A context: its parent and its own properties. -/
structure ContextNode where
  parent : Option ContextId
  properties : Attributes
deriving Inhabited

/-- All contexts made so far. -/
structure Contexts where
  nodes : Numbered ContextNode
deriving Inhabited

namespace Contexts

/-- No contexts. -/
def empty : Contexts := ⟨Numbered.empty⟩

/-- Makes a context with an optional parent. -/
def add (cs : Contexts) (parent : Option ContextId) : Contexts :=
  ⟨cs.nodes.push ⟨parent, Assoc.empty⟩⟩

/-- The number of the newest context. -/
def newest (cs : Contexts) : ContextId := cs.nodes.size

/-- Sets a property of a context. -/
def set (cs : Contexts) (k : ContextId) (name : String) (value : Value) : Contexts :=
  ⟨cs.nodes.modify k fun node => ⟨node.parent, node.properties.insert name value⟩⟩

/-- Sets properties one after the other. -/
def setAll (cs : Contexts) (k : ContextId) (attributes : Attributes) : Contexts :=
  attributes.entries.foldl (fun cs e => cs.set k e.1 e.2) cs

/-- The value that a context itself has under a name. -/
def own? (cs : Contexts) (k : ContextId) (name : String) : Option Value :=
  (cs.nodes.get? k).bind fun node => node.properties.get? name

/-- The parent of a context. -/
def parent? (cs : Contexts) (k : ContextId) : Option ContextId :=
  (cs.nodes.get? k).bind ContextNode.parent

/-- A context and its parents outward. Parents are older than their children. -/
def chain (cs : Contexts) (k : ContextId) : List ContextId :=
  match cs.parent? k with
  | some p => if _h : p < k then k :: cs.chain p else [k]
  | none => if (cs.nodes.get? k).isSome then [k] else []
termination_by k

/-- Looks a property up along the chain. -/
def property? (cs : Contexts) (k : ContextId) (name : String) : Option Value :=
  (cs.chain k).findSome? fun j => cs.own? j name

/-- The number of contexts from here outward, this one counted. -/
def depth (cs : Contexts) (k : ContextId) : Nat := (cs.chain k).length

/-- Whether a context is held by one of the given handles, directly or as a
parent. -/
def isHeldBy (cs : Contexts) (handles : List ContextId) (k : ContextId) : Bool :=
  handles.any fun h => (cs.chain h).contains k

/-! ## Laws -/

theorem parent?_add (cs : Contexts) (parent : Option ContextId) (k : ContextId) :
    (cs.add parent).parent? k = if k = cs.newest + 1 then parent else cs.parent? k := by
  unfold parent? add
  rw [Numbered.get?_push]
  simp only [Numbered.next, newest]
  by_cases h : k = cs.nodes.size + 1
  · simp [h]
  · simp [h]

/-- New contexts leave the chains of older ones as they are. -/
theorem chain_add_of_le (cs : Contexts) (parent : Option ContextId) {k : ContextId}
    (h : k ≤ cs.newest) : (cs.add parent).chain k = cs.chain k := by
  induction k using Nat.strongRecOn with
  | ind k ih =>
    have hk : k ≠ cs.newest + 1 := Nat.ne_of_lt (Nat.lt_succ_of_le h)
    have hnode : (cs.add parent).nodes.get? k = cs.nodes.get? k :=
      Numbered.get?_push_of_le _ _ h
    rw [chain, chain, parent?_add, if_neg hk, hnode]
    cases cs.parent? k with
    | none => rfl
    | some p =>
      by_cases hp : p < k
      · simp [hp, ih p hp (Nat.le_trans (Nat.le_of_lt hp) h)]
      · simp [hp]

/-- The chain of a new child is the child and the chain of its parent. -/
theorem chain_child (cs : Contexts) {p : ContextId} (h : p ≤ cs.newest) :
    (cs.add (some p)).chain (cs.add (some p)).newest = (cs.newest + 1) :: cs.chain p := by
  have hn : (cs.add (some p)).newest = cs.newest + 1 := by simp [newest, add]
  have hp : p < cs.newest + 1 := Nat.lt_succ_of_le h
  rw [hn, chain, parent?_add, if_pos rfl]
  simp [hp, chain_add_of_le cs (some p) h]

/-- The chain of a new root is the root alone. -/
theorem chain_root (cs : Contexts) :
    (cs.add none).chain (cs.add none).newest = [cs.newest + 1] := by
  have hn : (cs.add none).newest = cs.newest + 1 := by simp [newest, add]
  have hnode : ((cs.add none).nodes.get? (cs.newest + 1)).isSome = true := by
    simp [add, newest, Numbered.get?_push, Numbered.next]
  rw [hn, chain, parent?_add, if_pos rfl]
  simp [hnode]

/-! ### Looking up -/

/-- A lookup that the context itself does not answer goes on at its parent. -/
theorem property?_of_parent (cs : Contexts) {k p : ContextId} (name : String)
    (h : cs.parent? k = some p) (hlt : p < k) :
    cs.property? k name = (cs.own? k name).or (cs.property? p name) := by
  unfold property?
  rw [chain, h]
  simp only [hlt, dif_pos, List.findSome?_cons]
  cases cs.own? k name <;> rfl

/-- A lookup in a root is answered by the root alone. -/
theorem property?_of_root (cs : Contexts) {k : ContextId} (name : String)
    (h : cs.parent? k = none) : cs.property? k name = cs.own? k name := by
  unfold property?
  rw [chain, h]
  cases hn : cs.nodes.get? k with
  | none => simp [own?, hn]
  | some node =>
    simp only [Option.isSome_some, if_true, List.findSome?_cons, List.findSome?_nil]
    cases cs.own? k name <;> rfl

/-! ### Setting -/

/-- Setting a name in a context changes that name in that context and nothing
else that a context itself has. -/
theorem own?_set (cs : Contexts) (k j : ContextId) (name other : String) (value : Value) :
    (cs.set k name value).own? j other =
      if k = j ∧ name = other ∧ (cs.nodes.get? j).isSome = true then some value
      else cs.own? j other := by
  unfold own? set
  rw [Numbered.get?_modify]
  by_cases hkj : k = j
  · subst hkj
    cases hn : cs.nodes.get? k with
    | none => simp
    | some node => simp [Assoc.get?_insert]
  · simp [hkj]

theorem parent?_set (cs : Contexts) (k j : ContextId) (name : String) (value : Value) :
    (cs.set k name value).parent? j = cs.parent? j := by
  unfold parent? set
  rw [Numbered.get?_modify]
  by_cases hkj : k = j
  · subst hkj
    cases hn : cs.nodes.get? k with
    | none => simp
    | some node => simp
  · simp [hkj]

/-- Setting changes no chain. -/
theorem chain_set (cs : Contexts) (k j : ContextId) (name : String) (value : Value) :
    (cs.set k name value).chain j = cs.chain j := by
  induction j using Nat.strongRecOn with
  | ind j ih =>
    have hnode : ((cs.set k name value).nodes.get? j).isSome = (cs.nodes.get? j).isSome := by
      unfold set
      rw [Numbered.get?_modify]
      by_cases hkj : k = j <;> simp [hkj]
    rw [chain, chain, parent?_set, hnode]
    cases cs.parent? j with
    | none => rfl
    | some p =>
      by_cases hp : p < j
      · simp [hp, ih p hp]
      · simp [hp]

end Contexts

end SceneFactory
