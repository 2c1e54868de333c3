import SceneFactory.Proofs.Contexts.Counting
import SceneFactory.Proofs.Isolation.Contexts

/-!
# What a name means in nested contexts

A host makes contexts, each as a root or inside another, sets properties, shares handles and
drops them, in any order that its handles allow (`Custody.AllowsAll`). What a context has been
given, and which contexts lie around it, can be read off what the host did: the value that a name
was last set to in a context (`Custody.lastSet`), and the path that leads out of it
(`Custody.LeadsOut`).

Main statement: `Custody.scoped_lookup`. A lookup finds the nearest context on the path that was
given the name, a set is seen where nothing nearer shadows it, and a context lives as long as
someone holds it or a context inside it.
-/

set_option autoImplicit false

namespace SceneFactory

/-- Contexts in the hands of a host, which has handles to them; and the counts of the references
to each. -/
structure Custody where
  contexts : Contexts
  handles : List ContextId
  strong : ContextId → Nat

namespace Custody

/-- What a host can do with contexts. -/
inductive Act where
  | make (parent : Option ContextId)
  | set (k : ContextId) (name : String) (value : Value)
  | share (k : ContextId)
  | drop (k : ContextId)

/-- No contexts. -/
def empty : Custody := ⟨.empty, [], fun _ => 0⟩

variable (c : Custody)

/-- Whether a host can do something: what it works with lives, and what it drops it has. -/
def Allows : Act → Prop
  | .make none => True
  | .make (some p) => 0 < c.strong p
  | .set k _ _ | .share k => 0 < c.strong k
  | .drop k => k ∈ c.handles

instance decidableAllows : (act : Act) → Decidable (c.Allows act)
  | .make none => inferInstanceAs (Decidable True)
  | .make (some p) => inferInstanceAs (Decidable (0 < c.strong p))
  | .set k _ _ => inferInstanceAs (Decidable (0 < c.strong k))
  | .share k => inferInstanceAs (Decidable (0 < c.strong k))
  | .drop k => inferInstanceAs (Decidable (k ∈ c.handles))

/-- Does one thing. A fresh context refers to its parent, and comes with a handle to it. -/
def perform : Act → Custody
  | .make parent =>
    let contexts := c.contexts.add parent
    let strong := parent.elim c.strong fun p => Function.update c.strong p (c.strong p + 1)
    ⟨contexts, contexts.newest :: c.handles, Function.update strong contexts.newest 1⟩
  | .set k name value => ⟨c.contexts.set k name value, c.handles, c.strong⟩
  | .share k => ⟨c.contexts, k :: c.handles, Function.update c.strong k (c.strong k + 1)⟩
  | .drop k => ⟨c.contexts, c.handles.erase k, c.contexts.letGo c.strong k⟩

/-- Does one thing after the other. -/
def after (acts : List Act) : Custody := acts.foldl perform c

/-- Whether a host can do one thing after the other. -/
def AllowsAll : Custody → List Act → Prop
  | _, [] => True
  | c, act :: acts => c.Allows act ∧ AllowsAll (c.perform act) acts

instance decidableAllowsAll : (c : Custody) → (acts : List Act) → Decidable (c.AllowsAll acts)
  | _, [] => inferInstanceAs (Decidable True)
  | c, act :: acts =>
    have : Decidable (AllowsAll (c.perform act) acts) := decidableAllowsAll (c.perform act) acts
    inferInstanceAs (Decidable (c.Allows act ∧ AllowsAll (c.perform act) acts))

theorem after_concat (acts : List Act) (act : Act) :
    c.after (acts ++ [act]) = (c.after acts).perform act := by
  rw [after, List.foldl_append]
  rfl

theorem AllowsAll.of_concat {c : Custody} {acts : List Act} {act : Act}
    (h : c.AllowsAll (acts ++ [act])) : c.AllowsAll acts ∧ (c.after acts).Allows act := by
  induction acts generalizing c with
  | nil => exact ⟨trivial, h.1⟩
  | cons first acts ih =>
    obtain ⟨hrest, hlast⟩ := ih h.2
    exact ⟨⟨h.1, hrest⟩, hlast⟩

/-! ## What can be read off the acts -/

/-- The value that a name was last set to in a context. -/
def lastSet (acts : List Act) (k : ContextId) (name : String) : Option Value :=
  acts.reverse.findSome? fun
    | .set j other value => if j = k ∧ other = name then some value else none
    | _ => none

/-- The parents that contexts were made with, in the order in which they were made. -/
def parents (acts : List Act) : List (Option ContextId) :=
  acts.filterMap fun
    | .make parent => some parent
    | _ => none

/-- The parent that a context was made with, if it was made. -/
def madeWith? (acts : List Act) : ContextId → Option (Option ContextId)
  | 0 => none
  | k + 1 => (parents acts)[k]?

/-- The path from a context outward, through the parents that the contexts were made with. -/
inductive LeadsOut (acts : List Act) : ContextId → List ContextId → Prop
  | root {k : ContextId} (h : madeWith? acts k = some none) : LeadsOut acts k [k]
  | inside {k p : ContextId} {path : List ContextId} (h : madeWith? acts k = some (some p))
      (hp : LeadsOut acts p path) : LeadsOut acts k (k :: path)

/-- What is set to a name in one context is seen in another: the path from there leads to it, and
nothing nearer was given the name. -/
def IsSeenFrom (acts : List Act) (name : String) (k j : ContextId) : Prop :=
  ∃ near far, LeadsOut acts j (near ++ k :: far) ∧ ∀ i ∈ near, lastSet acts i name = none

theorem lastSet_concat (acts : List Act) (act : Act) (k : ContextId) (name : String) :
    lastSet (acts ++ [act]) k name = match act with
      | .set j other value =>
        if j = k ∧ other = name then some value else lastSet acts k name
      | _ => lastSet acts k name := by
  rw [lastSet, List.reverse_append, List.reverse_singleton, List.singleton_append,
    List.findSome?_cons]
  cases act with
  | set j other value =>
    by_cases h : j = k ∧ other = name
    · simp [h]
    · simp only [if_neg h]
      rfl
  | _ => rfl

/-- Only making a context makes one. -/
theorem parents_concat (acts : List Act) (act : Act) :
    parents (acts ++ [act]) = match act with
      | .make parent => parents acts ++ [parent]
      | _ => parents acts := by
  rw [parents, List.filterMap_append]
  cases act <;> simp [parents]

/-- Made are the contexts with the numbers from 1 on. -/
theorem isSome_madeWith?_iff (acts : List Act) (k : ContextId) :
    (madeWith? acts k).isSome = true ↔ 0 < k ∧ k ≤ (parents acts).length := by
  cases k with
  | zero => simp [madeWith?]
  | succ k =>
    rw [madeWith?, Option.isSome_iff_ne_none, Ne, List.getElem?_eq_none_iff, Nat.not_le]
    exact ⟨fun h => ⟨Nat.succ_pos k, h⟩, And.right⟩

/-- A search finds what lies at a place, if nothing nearer says anything else. -/
theorem findSome?_of_nearest {α β : Type} {f : α → Option β} {near far : List α} {a : α} {b : β}
    (hnear : ∀ x ∈ near, f x = none ∨ f x = some b) (ha : f a = some b) :
    (near ++ a :: far).findSome? f = some b := by
  induction near with
  | nil => rw [List.nil_append, List.findSome?_cons, ha]
  | cons x near ih =>
    rw [List.cons_append, List.findSome?_cons]
    rcases hnear x List.mem_cons_self with hx | hx
    · rw [hx]
      exact ih fun y hy => hnear y (List.mem_cons_of_mem x hy)
    · rw [hx]

/-! ## The record -/

/-- The contexts are as it can be read off what was done, and the counts are balanced. -/
structure IsRecorded (acts : List Act) : Prop where
  balanced : c.contexts.Balanced c.strong c.handles
  newest : c.contexts.newest = (parents acts).length
  made : ∀ k, (c.contexts.nodes.get? k).map ContextNode.parent = madeWith? acts k
  own : ∀ k name, c.contexts.own? k name = lastSet acts k name

theorem isRecorded_empty : empty.IsRecorded [] where
  balanced := by
    refine ⟨?_, ?_, ?_⟩
    · intro k p hp
      simp [empty, Contexts.empty, Contexts.parent?] at hp
    · intro k hk
      cases hk
    · intro k
      rfl
  newest := rfl
  made k := by
    cases k <;> rfl
  own k name := by
    cases k <;> rfl

variable {c} {acts : List Act}

namespace IsRecorded

/-- A fresh context was given nothing, and has the parent that it was made with. -/
theorem make (h : c.IsRecorded acts) {parent : Option ContextId}
    (hact : c.Allows (.make parent)) :
    (c.perform (.make parent)).IsRecorded (acts ++ [.make parent]) where
  balanced := by
    simp only [Custody.perform, Contexts.newest_add]
    cases parent with
    | none => exact Contexts.Balanced.make h.balanced
    | some p => exact Contexts.Balanced.make (h.balanced.share hact)
  newest := by
    rw [parents_concat, List.length_append, ← h.newest]
    exact Contexts.newest_add _ _
  made k := by
    change ((c.contexts.nodes.push ⟨parent, .empty⟩).get? k).map ContextNode.parent = _
    have hnext : c.contexts.nodes.next = (parents acts).length + 1 := congrArg (· + 1) h.newest
    rw [Numbered.get?_push, hnext]
    cases k with
    | zero => rfl
    | succ k =>
      have hold := h.made (k + 1)
      simp only [madeWith?, parents_concat] at hold ⊢
      by_cases hk : k = (parents acts).length
      · rw [if_pos (congrArg (· + 1) hk), hk, List.getElem?_concat_length]
        rfl
      · rw [if_neg fun heq => hk (Nat.succ.inj heq), hold]
        by_cases hlt : k < (parents acts).length
        · rw [List.getElem?_append_left hlt]
        · rw [List.getElem?_eq_none (by omega), List.getElem?_eq_none]
          rw [List.length_append, List.length_singleton]
          omega
  own k name := by
    rw [lastSet_concat]
    refine (Contexts.own?_add _ _ _ _).trans ?_
    by_cases hk : k = c.contexts.newest + 1
    · have hmissing : c.contexts.nodes.get? k = none :=
        (c.contexts.nodes.get?_eq_none_iff k).2 (Or.inr (hk ▸ Nat.lt_succ_self _))
      rw [if_pos hk, ← h.own, Contexts.own?, hmissing]
      rfl
    · rw [if_neg hk, h.own]

theorem set (h : c.IsRecorded acts) {k : ContextId} {name : String} {value : Value}
    (hact : c.Allows (.set k name value)) :
    (c.perform (.set k name value)).IsRecorded (acts ++ [.set k name value]) where
  balanced := h.balanced.set k name value
  newest := by
    rw [parents_concat]
    exact (Contexts.newest_set _ _ _ _).trans h.newest
  made j := by
    have hold := h.made j
    change ((c.contexts.nodes.modify k _).get? j).map ContextNode.parent = _
    simp only [madeWith?, parents_concat] at hold ⊢
    rw [Numbered.get?_modify]
    by_cases hkj : k = j
    · rw [if_pos hkj, Option.map_map]
      exact hold
    · rw [if_neg hkj]
      exact hold
  own j other := by
    obtain ⟨hpos, hle⟩ := h.balanced.made_of_pos hact
    have hnode : (c.contexts.nodes.get? k).isSome = true := by
      rw [Option.isSome_iff_ne_none, Ne, Numbered.get?_eq_none_iff]
      rintro (rfl | hlt)
      · exact Nat.lt_irrefl 0 hpos
      · exact Nat.not_lt_of_le hle hlt
    rw [lastSet_concat]
    refine (Contexts.own?_set _ _ _ _ _ _).trans ?_
    by_cases hthis : k = j ∧ name = other
    · obtain ⟨rfl, rfl⟩ := hthis
      rw [if_pos ⟨rfl, rfl, hnode⟩]
      exact (if_pos ⟨rfl, rfl⟩).symm
    · rw [if_neg fun hand => hthis ⟨hand.1, hand.2.1⟩, h.own]
      exact (if_neg hthis).symm

/-- Whatever a host can do is recorded. -/
theorem perform (h : c.IsRecorded acts) {act : Act} (hact : c.Allows act) :
    (c.perform act).IsRecorded (acts ++ [act]) := by
  have hquiet : ∀ {act : Act} {c' : Custody}, c'.contexts = c.contexts →
      c'.contexts.Balanced c'.strong c'.handles →
      parents (acts ++ [act]) = parents acts →
      (∀ k name, lastSet (acts ++ [act]) k name = lastSet acts k name) →
        c'.IsRecorded (acts ++ [act]) := by
    intro act c' hcontexts hbalanced hparents hlast
    refine ⟨hbalanced, ?_, ?_, ?_⟩
    · rw [hcontexts, hparents, h.newest]
    · intro k
      have hmade : madeWith? (acts ++ [act]) k = madeWith? acts k := by
        cases k with
        | zero => rfl
        | succ k => rw [madeWith?, hparents, madeWith?]
      rw [hcontexts, hmade, h.made]
    · intro k name
      rw [hcontexts, hlast, h.own]
  cases act with
  | make parent => exact h.make hact
  | set k name value => exact h.set hact
  | share k =>
    refine hquiet rfl (h.balanced.share hact) (parents_concat _ _) ?_
    intro j name
    exact lastSet_concat _ _ _ _
  | drop k =>
    have hmem : k ∈ c.handles := hact
    refine hquiet rfl ?_ (parents_concat _ _) ?_
    · exact (h.balanced.perm (List.perm_cons_erase hmem)).letGo
    · intro j name
      exact lastSet_concat _ _ _ _

end IsRecorded

/-- What a host does leaves the contexts as it can be read off. -/
theorem isRecorded_after (h : empty.AllowsAll acts) : (empty.after acts).IsRecorded acts := by
  induction acts using List.reverseRecOn with
  | nil => exact isRecorded_empty
  | append_singleton acts act ih =>
    obtain ⟨hacts, hact⟩ := h.of_concat
    rw [after_concat]
    exact (ih hacts).perform hact

/-! ## Paths and chains -/

namespace IsRecorded

variable (h : c.IsRecorded acts) {k : ContextId}

include h

theorem parent?_eq (k : ContextId) : c.contexts.parent? k = (madeWith? acts k).join := by
  rw [← h.made, Contexts.parent?]
  cases c.contexts.nodes.get? k <;> rfl

/-- The path from a context is the chain of the context. -/
theorem leadsOut_iff {path : List ContextId} :
    LeadsOut acts k path ↔ (madeWith? acts k).isSome = true ∧ path = c.contexts.chain k := by
  have hnode : ∀ j, (c.contexts.nodes.get? j).isSome = (madeWith? acts j).isSome := by
    intro j
    rw [← h.made, Option.isSome_map]
  constructor
  · intro hpath
    induction hpath with
    | root hmade =>
      refine ⟨by rw [hmade]; rfl, ?_⟩
      rw [Contexts.chain, h.parent?_eq, hnode, hmade]
      rfl
    | @inside k p path hmade _ ih =>
      refine ⟨by rw [hmade]; rfl, ?_⟩
      have hp : c.contexts.parent? k = some p := by rw [h.parent?_eq, hmade]; rfl
      rw [Contexts.chain, hp]
      simp only [(h.balanced.older hp).2, dif_pos, ih.2]
  · -- parents are older than what is made inside them
    rintro ⟨hmade, rfl⟩
    induction k using Nat.strongRecOn with
    | ind k ih =>
      obtain ⟨parent, hparent⟩ := Option.isSome_iff_exists.1 hmade
      cases parent with
      | none =>
        rw [Contexts.chain, h.parent?_eq, hnode, hparent]
        exact .root hparent
      | some p =>
        have hp : c.contexts.parent? k = some p := by rw [h.parent?_eq, hparent]; rfl
        obtain ⟨hpos, hlt⟩ := h.balanced.older hp
        rw [Contexts.chain, hp]
        simp only [hlt, dif_pos]
        refine .inside hparent (ih p hlt ?_)
        obtain ⟨-, hle⟩ := (isSome_madeWith?_iff acts k).1 hmade
        exact (isSome_madeWith?_iff acts p).2 ⟨hpos, Nat.le_trans (Nat.le_of_lt hlt) hle⟩

/-- A chain that leads anywhere is a path. -/
theorem leadsOut_chain {j : ContextId} (hj : j ∈ c.contexts.chain k) :
    LeadsOut acts k (c.contexts.chain k) := by
  refine h.leadsOut_iff.2 ⟨?_, rfl⟩
  rw [← h.made, Option.isSome_map]
  by_contra hnode
  have hmissing : c.contexts.nodes.get? k = none := by simpa using hnode
  have hparent : c.contexts.parent? k = none := by rw [Contexts.parent?, hmissing]; rfl
  rw [Contexts.chain, hparent, hmissing] at hj
  cases hj

/-! ## Lookups -/

/-- A lookup goes through what was set in the contexts of the path, from the nearest on. -/
theorem property?_eq {path : List ContextId} (hpath : LeadsOut acts k path) (name : String) :
    c.contexts.property? k name = path.findSome? fun j => lastSet acts j name := by
  have hown : (fun j => c.contexts.own? j name) = fun j => lastSet acts j name := by
    funext j
    exact h.own j name
  rw [Contexts.property?, hown, (h.leadsOut_iff.1 hpath).2]

/-- What a context itself has after a set. -/
theorem own?_set {name : String} {value : Value} (hk : c.Allows (.set k name value))
    (j : ContextId) (other : String) :
    (c.contexts.set k name value).own? j other =
      if k = j ∧ name = other then some value else lastSet acts j other :=
  ((h.set hk).own j other).trans (lastSet_concat _ _ _ _)

/-- What is set is found from every context from which it is seen. -/
theorem property?_set_of_isSeenFrom {name : String} {value : Value}
    (hk : c.Allows (.set k name value)) {j : ContextId} (hseen : IsSeenFrom acts name k j) :
    (c.contexts.set k name value).property? j name = some value := by
  obtain ⟨near, far, hpath, hnear⟩ := hseen
  rw [Contexts.property?, Contexts.chain_set, ← (h.leadsOut_iff.1 hpath).2]
  refine findSome?_of_nearest ?_ ?_
  · intro i hi
    rw [h.own?_set hk, hnear i hi]
    by_cases hthis : k = i ∧ name = name
    · exact Or.inr (if_pos hthis)
    · exact Or.inl (if_neg hthis)
  · rw [h.own?_set hk, if_pos ⟨rfl, rfl⟩]

/-- A set changes no lookup from which it is not seen, and no lookup of another name. -/
theorem property?_set_of_not_isSeenFrom {name : String} {value : Value}
    (hk : c.Allows (.set k name value)) {j : ContextId} {other : String}
    (hnot : other = name → ¬IsSeenFrom acts name k j) :
    (c.contexts.set k name value).property? j other = c.contexts.property? j other := by
  by_cases hmem : other = name ∧ k ∈ c.contexts.chain j
  · -- something nearer was given the name, and a lookup goes no further in either case
    obtain ⟨rfl, hmem⟩ := hmem
    obtain ⟨near, far, hchain, hnew⟩ := List.eq_append_cons_of_mem hmem
    cases hfound : near.findSome? fun i => lastSet acts i other with
    | none =>
      exfalso
      refine hnot rfl ⟨near, far, ?_, List.findSome?_eq_none_iff.1 hfound⟩
      rw [← hchain]
      exact h.leadsOut_chain hmem
    | some v =>
      -- the context `i` shadows `k`, and `k` is not met on the way to it
      obtain ⟨nearer, i, between, rfl, hi, hnone⟩ := List.findSome?_eq_some_iff.1 hfound
      rw [List.append_assoc, List.cons_append] at hchain
      have hik : k ≠ i := fun heq => hnew (List.mem_append_right _ (heq ▸ List.mem_cons_self))
      rw [Contexts.property?, Contexts.property?, Contexts.chain_set, hchain]
      refine Eq.trans (b := some v) (findSome?_of_nearest ?_ ?_)
        (findSome?_of_nearest ?_ ?_).symm
      · intro x hx
        have hxk : k ≠ x := fun heq => hnew (List.mem_append_left _ (heq ▸ hx))
        rw [h.own?_set hk, if_neg fun hand => hxk hand.1]
        exact Or.inl (hnone x hx)
      · rw [h.own?_set hk, if_neg fun hand => hik hand.1]
        exact hi
      · intro x hx
        rw [h.own]
        exact Or.inl (hnone x hx)
      · rw [h.own]
        exact hi
  · refine Contexts.property?_congr (Contexts.chain_set _ _ _ _ _) ?_
    intro i hi
    have hthis : ¬(k = i ∧ name = other) := by
      rintro ⟨rfl, rfl⟩
      exact hmem ⟨rfl, hi⟩
    rw [h.own?_set hk, if_neg hthis, h.own]

/-! ## Lifetimes -/

/-- A context lives as long as a handle leads to it. -/
theorem pos_iff (k : ContextId) :
    0 < c.strong k ↔ ∃ j ∈ c.handles, ∃ path, LeadsOut acts j path ∧ k ∈ path := by
  rw [h.balanced.pos_iff]
  constructor
  · rintro ⟨j, hj, hk⟩
    exact ⟨j, hj, _, h.leadsOut_chain hk, hk⟩
  · rintro ⟨j, hj, path, hpath, hk⟩
    rw [(h.leadsOut_iff.1 hpath).2] at hk
    exact ⟨j, hj, hk⟩

end IsRecorded

/-! ## Every run -/

/-- Scoped lookup and lifetimes. After a host has made contexts, set properties, shared
handles and dropped them, in any order that its handles allow:
* from each context that was made one path leads outward, through the parents that the contexts
  were made with, and its length is the depth of the context;
* under a name a context itself has what was last set there, and a lookup gives what the nearest
  context of the path has, the context itself being the nearest of all, and nothing if none has
  anything;
* if a name is set in a context now, the value is found from the contexts from which it is seen,
  which are the context itself and those inside it with no value of their own on the way; no
  other lookup changes;
* a context lives, which is to say that references to it are left, if and only if someone holds
  it or a context inside it. -/
theorem scoped_lookup (hacts : empty.AllowsAll acts) :
    let c := empty.after acts
    (∀ k, (∃! path, LeadsOut acts k path) ↔ 0 < k ∧ k ≤ (parents acts).length) ∧
      (∀ k name, c.contexts.own? k name = lastSet acts k name) ∧
      (∀ k path, LeadsOut acts k path → c.contexts.depth k = path.length ∧
        ∀ name,
          (∀ v, c.contexts.property? k name = some v ↔
            ∃ near j far, path = near ++ j :: far ∧ lastSet acts j name = some v ∧
              ∀ i ∈ near, lastSet acts i name = none) ∧
          (c.contexts.property? k name = none ↔ ∀ j ∈ path, lastSet acts j name = none)) ∧
      (∀ k name value, c.Allows (.set k name value) →
        let next := (c.perform (.set k name value)).contexts
        (∀ j, IsSeenFrom acts name k j → next.property? j name = some value) ∧
          ∀ j other, (other = name → ¬IsSeenFrom acts name k j) →
            next.property? j other = c.contexts.property? j other) ∧
      ∀ k, (0 < c.strong k ↔ ∃ j ∈ c.handles, ∃ path, LeadsOut acts j path ∧ k ∈ path) ∧
        (c.contexts.isHeldBy c.handles k = true ↔ 0 < c.strong k) := by
  intro c
  have h : c.IsRecorded acts := isRecorded_after hacts
  refine ⟨?_, h.own, ?_, ?_, ?_⟩
  · intro k
    rw [← isSome_madeWith?_iff]
    constructor
    · rintro ⟨path, hpath, -⟩
      exact (h.leadsOut_iff.1 hpath).1
    · intro hmade
      refine ⟨c.contexts.chain k, h.leadsOut_iff.2 ⟨hmade, rfl⟩, ?_⟩
      intro path hpath
      exact (h.leadsOut_iff.1 hpath).2
  · intro k path hpath
    refine ⟨congrArg List.length (h.leadsOut_iff.1 hpath).2.symm, ?_⟩
    intro name
    rw [h.property?_eq hpath]
    exact ⟨fun v => List.findSome?_eq_some_iff, List.findSome?_eq_none_iff⟩
  · intro k name value hk
    exact ⟨fun j hseen => h.property?_set_of_isSeenFrom hk hseen,
      fun j other hnot => h.property?_set_of_not_isSeenFrom hk hnot⟩
  · intro k
    refine ⟨h.pos_iff k, ?_⟩
    rw [h.balanced.pos_iff, Contexts.isHeldBy, List.any_eq_true]
    simp only [List.contains_iff_mem]

/-- Three nested contexts, of which only the innermost is held in the end. A name that is set in
the outermost after its handle was dropped is found from there, and all three live. -/
def nestedActs : List Act :=
  [.make none, .set 1 "theme" (.string "dark"), .make (some 1), .drop 1, .make (some 2),
    .set 2 "title" (.string "inner"), .set 1 "theme" (.string "light"), .drop 2]

theorem scoped_lookup_of_nested :
    let c := empty.after nestedActs
    empty.AllowsAll nestedActs ∧ c.handles = [3] ∧ c.contexts.depth 3 = 3 ∧
      c.contexts.property? 3 "theme" = some (.string "light") ∧ 0 < c.strong 1 := by
  have hacts : empty.AllowsAll nestedActs := by decide +kernel
  have hheld : (empty.after nestedActs).handles = [3] := by decide +kernel
  obtain ⟨-, -, hlookup, -, hlives⟩ := scoped_lookup hacts
  have hpath : LeadsOut nestedActs 3 [3, 2, 1] := .inside rfl (.inside rfl (.root rfl))
  obtain ⟨hdepth, hnames⟩ := hlookup 3 _ hpath
  refine ⟨hacts, hheld, hdepth, ((hnames "theme").1 _).2 ⟨[3, 2], 1, [], rfl, ?_, ?_⟩, ?_⟩
  · simp [lastSet, nestedActs]
  · simp [lastSet, nestedActs]
  · refine (hlives 1).1.2 ⟨3, ?_, _, hpath, by simp⟩
    rw [hheld]
    exact List.mem_cons_self

end Custody

end SceneFactory
