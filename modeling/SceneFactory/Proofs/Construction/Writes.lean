import SceneFactory.Object

/-!
# Writing direct attributes

A markup object takes a direct attribute in one of two ways: a declared name is written
in place if its present value accepts the new one, any other name becomes a dynamic
property behind those that are there. `SceneObject.writeAttributes_entries` says what a
whole attribute set does to such an object.
-/

set_option autoImplicit false

namespace SceneFactory

/-! ## Entry lists -/

namespace Assoc

variable {κ ν : Type} [DecidableEq κ]

/-- A fresh key goes last. -/
theorem put_of_not_mem {k : κ} (v : ν) {es : List (κ × ν)} (h : k ∉ es.map Prod.fst) :
    put k v es = es ++ [(k, v)] := by
  induction es with
  | nil => rfl
  | cons e es ih =>
    obtain ⟨k', v'⟩ := e
    rw [List.map_cons, List.mem_cons, not_or] at h
    rw [put, if_neg (Ne.symm h.1), ih h.2, List.cons_append]

/-- Replacing a key that is not there changes nothing. -/
theorem map_replace_of_not_mem {k : κ} (v : ν) {es : List (κ × ν)}
    (h : k ∉ es.map Prod.fst) : (es.map fun e => if e.1 = k then (k, v) else e) = es := by
  refine (List.map_congr_left ?_).trans (List.map_id es)
  intro e he
  have hk : e.1 ≠ k := by
    rintro rfl
    exact h (List.mem_map_of_mem he)
  exact if_neg hk

/-- A key that is there keeps its place. -/
theorem put_of_mem {k : κ} (v : ν) {es : List (κ × ν)} (hnodup : (es.map Prod.fst).Nodup)
    (h : k ∈ es.map Prod.fst) :
    put k v es = es.map fun e => if e.1 = k then (k, v) else e := by
  induction es with
  | nil => cases h
  | cons e es ih =>
    obtain ⟨k', v'⟩ := e
    obtain ⟨hnew, hrest⟩ := List.nodup_cons.1 hnodup
    rw [put, List.map_cons]
    by_cases hk : k' = k
    · subst hk
      rw [if_pos rfl, if_pos rfl, map_replace_of_not_mem v hnew]
    · rw [if_neg hk, if_neg hk]
      rcases List.mem_cons.1 h with heq | hmem
      · exact absurd heq.symm hk
      · rw [ih hrest hmem]

/-- An entry is found under its key. -/
theorem find_of_mem {es : List (κ × ν)} (hnodup : (es.map Prod.fst).Nodup) {k : κ} {v : ν}
    (h : (k, v) ∈ es) : find k es = some v := by
  induction es with
  | nil => cases h
  | cons e es ih =>
    obtain ⟨k', v'⟩ := e
    obtain ⟨hnew, hrest⟩ := List.nodup_cons.1 hnodup
    rw [find]
    rcases List.mem_cons.1 h with heq | hmem
    · cases heq
      rw [if_pos rfl]
    · have hk : k' ≠ k := by
        rintro rfl
        exact hnew (List.mem_map.2 ⟨_, hmem, rfl⟩)
      rw [if_neg hk, ih hrest hmem]

/-- Entries with distinct keys are written one behind the other. -/
theorem entries_insertAll (a : Assoc κ ν) {es : List (κ × ν)}
    (h : ((a.entries ++ es).map Prod.fst).Nodup) : (a.insertAll es).entries = a.entries ++ es := by
  rw [insertAll]
  induction es generalizing a with
  | nil => exact (List.append_nil _).symm
  | cons e es ih =>
    obtain ⟨k, v⟩ := e
    have hnew : k ∉ a.entries.map Prod.fst := by
      intro hmem
      rw [List.map_append, List.nodup_append] at h
      exact h.2.2 k hmem k List.mem_cons_self rfl
    have hinsert : (a.insert k v).entries = a.entries ++ [(k, v)] := put_of_not_mem v hnew
    rw [List.foldl_cons, ih (a.insert k v)]
    · rw [hinsert, List.append_assoc, List.singleton_append]
    · rw [hinsert, List.append_assoc, List.singleton_append]
      exact h

theorem entries_ofList {es : List (κ × ν)} (h : (es.map Prod.fst).Nodup) :
    (ofList es).entries = es :=
  entries_insertAll empty h

omit [DecidableEq κ] in
/-- Associations differ in their entries only. -/
theorem eq_iff {a b : Assoc κ ν} : a = b ↔ a.entries = b.entries := by
  constructor
  · rintro rfl
    rfl
  · obtain ⟨es, -⟩ := a
    obtain ⟨es', -⟩ := b
    rintro (rfl : es = es')
    rfl

end Assoc

/-! ## Objects -/

namespace SceneObject

/-- Whether an object takes attributes as markup objects do: declared names through the
binding setter and all others through the reflective one. -/
def IsWritten (o : SceneObject) : Prop := o.hasBinding = true ∧ o.reflection = .undeclared

/-- A declared entry once some attributes are written: the attribute of its name, if there
is one and it is accepted. -/
def overwritten (attributes : List (String × Value)) (e : String × Value) : String × Value :=
  (e.1, match Assoc.find e.1 attributes with
    | some value => if e.2.accepts value then value else e.2
    | none => e.2)

variable (o : SceneObject)

/-! ### One attribute -/

/-- An attribute goes to one of the two setters, whatever becomes of it there. -/
theorem writeAttribute_snd (name : String) (value : Value) :
    (o.writeAttribute name value).2 =
      if o.isWritable name then (o.write name value).2 else (o.setDynamic name value).2 := by
  rw [writeAttribute]
  by_cases hw : o.isWritable name = true
  · rw [if_pos hw, if_pos hw]
    rcases o.write name value with ⟨_ | _, o'⟩ <;> rfl
  · rw [if_neg hw, if_neg hw]
    rcases o.setDynamic name value with ⟨_ | _, o'⟩ <;> rfl

theorem writeAttribute_of_declared (h : o.IsWritten) {name : String} {current : Value}
    (hc : o.declared.get? name = some current) (value : Value) :
    (o.writeAttribute name value).2 =
      if current.accepts value then o.withDeclared (o.declared.insert name value) else o := by
  have hw : o.isWritable name = true := by
    rw [isWritable, Assoc.contains, h.1, hc]
    rfl
  rw [writeAttribute_snd, if_pos hw, write, hc]
  dsimp only
  split <;> rfl

theorem writeAttribute_of_undeclared (h : o.IsWritten) {name : String}
    (hc : o.declared.get? name = none) (value : Value) :
    (o.writeAttribute name value).2 = o.withDynamic (o.dynamic.insert name value) := by
  have hcontains : o.declared.contains name = false := by
    rw [Assoc.contains, hc]
    rfl
  have hw : ¬o.isWritable name = true := by
    rw [isWritable, hcontains, Bool.and_false]
    exact Bool.false_ne_true
  rw [writeAttribute_snd, if_neg hw, setDynamic, h.2]
  simp [hcontains]

/-- An attribute changes nothing but properties. -/
theorem writeAttribute_cases (name : String) (value : Value) :
    (o.writeAttribute name value).2 = o ∨
      (∃ d, (o.writeAttribute name value).2 = o.withDeclared d) ∨
      (∃ d, (o.writeAttribute name value).2 = o.withDynamic d) := by
  rw [writeAttribute_snd]
  split
  · rw [write]
    split
    · split
      · exact Or.inr (Or.inl ⟨_, rfl⟩)
      · exact Or.inl rfl
    · exact Or.inl rfl
  · rw [setDynamic]
    split
    · exact Or.inl rfl
    · split
      · exact Or.inl rfl
      · exact Or.inr (Or.inr ⟨_, rfl⟩)
    · exact Or.inr (Or.inr ⟨_, rfl⟩)

theorem writeAttribute_frame (name : String) (value : Value) :
    (o.writeAttribute name value).2.typeName = o.typeName ∧
      (o.writeAttribute name value).2.visibility = o.visibility ∧
      (o.writeAttribute name value).2.hasBinding = o.hasBinding ∧
      (o.writeAttribute name value).2.reflection = o.reflection := by
  rcases o.writeAttribute_cases name value with h | ⟨d, h⟩ | ⟨d, h⟩ <;> rw [h] <;>
    exact ⟨rfl, rfl, rfl, rfl⟩

theorem writeAttributes_frame (attributes : Attributes) :
    (o.writeAttributes attributes).typeName = o.typeName ∧
      (o.writeAttributes attributes).visibility = o.visibility := by
  rw [writeAttributes]
  generalize attributes.entries = es
  induction es generalizing o with
  | nil => exact ⟨rfl, rfl⟩
  | cons e es ih =>
    obtain ⟨ht, hv⟩ := ih (o.writeAttribute e.1 e.2).2
    obtain ⟨ht', hv', -⟩ := o.writeAttribute_frame e.1 e.2
    exact ⟨ht.trans ht', hv.trans hv'⟩

theorem IsWritten.writeAttribute {o : SceneObject} (h : o.IsWritten) (name : String)
    (value : Value) : (o.writeAttribute name value).2.IsWritten := by
  obtain ⟨-, -, hb, hr⟩ := o.writeAttribute_frame name value
  exact ⟨hb.trans h.1, hr.trans h.2⟩

theorem overwritten_of_not_mem {attributes : List (String × Value)} {e : String × Value}
    (h : e.1 ∉ attributes.map Prod.fst) : overwritten attributes e = e := by
  rw [overwritten, (Assoc.find_eq_none_iff e.1 attributes).2 h]

theorem overwritten_singleton (name : String) (value : Value) (e : String × Value) :
    overwritten [(name, value)] e =
      if e.1 = name then (name, if e.2.accepts value then value else e.2) else e := by
  by_cases hn : e.1 = name
  · rw [if_pos hn, overwritten, hn, Assoc.find, if_pos rfl]
  · rw [if_neg hn]
    apply overwritten_of_not_mem
    simpa using hn

/-- Entries are overwritten by one attribute after the other. -/
theorem overwritten_cons {name : String} (value : Value) {rest : List (String × Value)}
    (h : name ∉ rest.map Prod.fst) (e : String × Value) :
    overwritten ((name, value) :: rest) e = overwritten rest (overwritten [(name, value)] e) := by
  rw [overwritten_singleton]
  by_cases hn : e.1 = name
  · -- no later attribute has the name
    have hlast : ∀ v, overwritten rest (name, v) = (name, v) := fun v =>
      overwritten_of_not_mem (e := (name, v)) h
    rw [if_pos hn, hlast, overwritten, hn, Assoc.find, if_pos rfl]
  · rw [if_neg hn, overwritten, Assoc.find, if_neg (Ne.symm hn), overwritten]

/-- What one attribute does to a markup object: a declared property is overwritten in
place, any other is added behind. -/
theorem writeAttribute_entries (h : o.IsWritten) {name : String} (value : Value)
    (hfresh : name ∉ o.dynamic.keys) :
    (o.writeAttribute name value).2.declared.entries =
        o.declared.entries.map (overwritten [(name, value)]) ∧
      (o.writeAttribute name value).2.dynamic.entries =
        o.dynamic.entries ++ [(name, value)].filter fun e => e.1 ∉ o.declaredNames := by
  cases hc : o.declared.get? name with
  | some current =>
    have hmem : name ∈ o.declaredNames := by
      rw [declaredNames, ← Assoc.contains_iff_mem_keys, Assoc.contains, hc]
      rfl
    have hcurrent : ∀ e ∈ o.declared.entries, e.1 = name → e.2 = current := by
      rintro ⟨other, v⟩ he rfl
      have hfind : o.declared.get? other = some v :=
        Assoc.find_of_mem o.declared.nodup_keys he
      rw [hc] at hfind
      exact (Option.some.inj hfind).symm
    have hwritten := o.writeAttribute_of_declared h hc value
    by_cases ha : current.accepts value = true
    · rw [if_pos ha] at hwritten
      rw [hwritten]
      refine ⟨?_, by simp [withDeclared, hmem]⟩
      apply (Assoc.put_of_mem value o.declared.nodup_keys hmem).trans
      apply List.map_congr_left
      intro e he
      rw [overwritten_singleton]
      by_cases hn : e.1 = name
      · rw [if_pos hn, if_pos hn, hcurrent e he hn, if_pos ha]
      · rw [if_neg hn, if_neg hn]
    · rw [if_neg ha] at hwritten
      rw [hwritten]
      refine ⟨?_, by simp [hmem]⟩
      refine ((List.map_congr_left ?_).trans (List.map_id _)).symm
      intro e he
      rw [overwritten_singleton]
      by_cases hn : e.1 = name
      · rw [if_pos hn, hcurrent e he hn, if_neg ha, ← hcurrent e he hn, ← hn]
        rfl
      · exact if_neg hn
  | none =>
    have hmem : name ∉ o.declaredNames := (o.declared.get?_eq_none_iff name).1 hc
    rw [o.writeAttribute_of_undeclared h hc value]
    constructor
    · refine ((List.map_congr_left ?_).trans (List.map_id _)).symm
      intro e he
      apply overwritten_of_not_mem
      rw [List.map_singleton, List.mem_singleton]
      rintro rfl
      exact hmem (List.mem_map_of_mem he)
    · rw [List.filter_cons_of_pos (by simpa using hmem)]
      exact Assoc.put_of_not_mem value hfresh

/-! ### Attribute sets -/

/-- What writing attributes one after the other does to a markup object. -/
theorem foldl_writeAttribute_entries (h : o.IsWritten) {es : List (String × Value)}
    (hnodup : (es.map Prod.fst).Nodup) (hfresh : ∀ e ∈ es, e.1 ∉ o.dynamic.keys) :
    let written := es.foldl (fun o e => (o.writeAttribute e.1 e.2).2) o
    written.declared.entries = o.declared.entries.map (overwritten es) ∧
      written.dynamic.entries =
        o.dynamic.entries ++ es.filter fun e => e.1 ∉ o.declaredNames := by
  induction es generalizing o with
  | nil => exact ⟨(List.map_id o.declared.entries).symm, (List.append_nil _).symm⟩
  | cons e es ih =>
    obtain ⟨name, value⟩ := e
    obtain ⟨hnew, hrest⟩ := List.nodup_cons.1 hnodup
    have hnames := o.declaredNames_writeAttribute name value
    obtain ⟨hdeclared, hdynamic⟩ :=
      o.writeAttribute_entries h value (hfresh _ List.mem_cons_self)
    -- the dynamic properties are those from before and at most the one that is written
    have hkeys : ∀ e ∈ es, e.1 ∉ (o.writeAttribute name value).2.dynamic.keys := by
      intro e he hkey
      rw [Assoc.keys, hdynamic, List.map_append] at hkey
      rcases List.mem_append.1 hkey with hkey | hkey
      · exact hfresh e (List.mem_cons_of_mem _ he) hkey
      · obtain ⟨written, hmem, heq⟩ := List.mem_map.1 hkey
        cases List.mem_singleton.1 (List.mem_filter.1 hmem).1
        apply hnew
        exact List.mem_map.2 ⟨e, he, heq.symm⟩
    obtain ⟨hd, hy⟩ := ih (o.writeAttribute name value).2 (h.writeAttribute name value) hrest hkeys
    refine ⟨hd.trans ?_, hy.trans ?_⟩
    · rw [hdeclared, List.map_map]
      apply List.map_congr_left
      intro e _
      exact (overwritten_cons value hnew e).symm
    · rw [hdynamic, hnames, List.append_assoc, ← List.filter_append, List.singleton_append]

/-- What an attribute set does to a markup object without dynamic properties. -/
theorem writeAttributes_entries (h : o.IsWritten) (hempty : o.dynamic = .empty)
    (attributes : Attributes) :
    (o.writeAttributes attributes).declared.entries =
        o.declared.entries.map (overwritten attributes.entries) ∧
      (o.writeAttributes attributes).dynamic.entries =
        attributes.entries.filter fun e => e.1 ∉ o.declaredNames := by
  have hwritten := o.foldl_writeAttribute_entries h attributes.nodup_keys fun e _ => by
    rw [hempty]
    exact List.not_mem_nil
  rw [hempty] at hwritten
  exact hwritten

end SceneObject

end SceneFactory
