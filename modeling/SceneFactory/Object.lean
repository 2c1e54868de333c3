import SceneFactory.Attributes

/-!
# Objects of the scene

What a template produces: a typed object with declared properties and, if it
takes them, dynamic ones. An object says through which of its setters attributes
may be written, and whether it can join the visual tree. A direct attribute goes
to the binding setter if the name is declared, and never from there to the
reflective one (`writeAttribute`).

Main statements: a write leaves every other property alone
(`property?_write_of_ne`, `property?_setDynamic_of_ne`), a refused write leaves
the object alone (`writeAttribute_dropped`), and no write changes which names are
declared (`declaredNames_writeAttribute`).
-/

namespace SceneFactory

/-- When an object can be attached to a visual container. -/
inductive Visibility where
  | always
  | never
  /-- Unless a declared property has the given value. -/
  | unlessEqual (name : String) (value : Value)
deriving DecidableEq, Inhabited

/-- Which names an object's reflective setter takes. -/
inductive Reflection where
  /-- There is no reflective setter. -/
  | none
  /-- Every name that is not declared. -/
  | undeclared
  /-- Every name. -/
  | everything
deriving DecidableEq, Inhabited

/-- An object produced by a template. -/
structure SceneObject where
  typeName : String
  visibility : Visibility
  /-- Whether declared properties can be written. -/
  hasBinding : Bool
  reflection : Reflection
  /-- The name that the visual part holds of its container. -/
  parentName : Option String
  declared : Attributes
  dynamic : Attributes
deriving DecidableEq, Inhabited

/-- Where an attribute went. -/
inductive AttributeWrite where
  | bound
  | reflective
  | dropped
deriving DecidableEq, Inhabited

namespace SceneObject

/-- Whether the object can be attached to a visual container now. -/
def isVisual (o : SceneObject) : Bool :=
  match o.visibility with
  | .always => true
  | .never => false
  | .unlessEqual name value =>
    match o.declared.get? name with
    | some current => !current.same value
    | none => true

/-- Tells the visual part its container's name; nothing happens without one. -/
def setParentName (o : SceneObject) (name : Option String) : SceneObject :=
  if o.isVisual then
    ⟨o.typeName, o.visibility, o.hasBinding, o.reflection, name, o.declared, o.dynamic⟩
  else o

/-- The container name that the visual part reports. -/
def reportedParentName (o : SceneObject) : Option String :=
  if o.isVisual then o.parentName else none

/-! ## Reading -/

/-- The value of a property; a declared one hides a dynamic one. -/
def property? (o : SceneObject) (name : String) : Option Value :=
  (o.declared.get? name).or (o.dynamic.get? name)

/-- All properties, the declared ones first. -/
def properties (o : SceneObject) : List (String × Value) := o.declared.entries ++ o.dynamic.entries

/-- The names of the declared properties. -/
def declaredNames (o : SceneObject) : List String := o.declared.keys

/-! ## Writing -/

/-- The object with other declared values. -/
def withDeclared (o : SceneObject) (declared : Attributes) : SceneObject :=
  ⟨o.typeName, o.visibility, o.hasBinding, o.reflection, o.parentName, declared, o.dynamic⟩

/-- The object with other dynamic values. -/
def withDynamic (o : SceneObject) (dynamic : Attributes) : SceneObject :=
  ⟨o.typeName, o.visibility, o.hasBinding, o.reflection, o.parentName, o.declared, dynamic⟩

/-- Whether the binding setter knows a name. -/
def isWritable (o : SceneObject) (name : String) : Bool := o.hasBinding && o.declared.contains name

/-- Writes a declared property through the binding setter, if its present value
accepts the new one. Says whether it was written. -/
def write (o : SceneObject) (name : String) (value : Value) : Bool × SceneObject :=
  match o.declared.get? name with
  | some current =>
    if current.accepts value then (true, o.withDeclared (o.declared.insert name value))
    else (false, o)
  | none => (false, o)

/-- Writes a dynamic property through the reflective setter, if it takes the
name. Says whether it was written. -/
def setDynamic (o : SceneObject) (name : String) (value : Value) : Bool × SceneObject :=
  match o.reflection with
  | .none => (false, o)
  | .undeclared =>
    if o.declared.contains name then (false, o)
    else (true, o.withDynamic (o.dynamic.insert name value))
  | .everything => (true, o.withDynamic (o.dynamic.insert name value))

/-- Writes one direct attribute: a name that the binding setter knows goes there
and nowhere else, any other name to the reflective setter. -/
def writeAttribute (o : SceneObject) (name : String) (value : Value) :
    AttributeWrite × SceneObject :=
  if o.isWritable name then
    match o.write name value with
    | (true, o) => (.bound, o)
    -- a refused value does not go on to the reflective setter
    | (false, o) => (.dropped, o)
  else
    match o.setDynamic name value with
    | (true, o) => (.reflective, o)
    | (false, o) => (.dropped, o)

/-- Writes direct attributes one after the other. -/
def writeAttributes (o : SceneObject) (attributes : Attributes) : SceneObject :=
  attributes.entries.foldl (fun o e => (o.writeAttribute e.1 e.2).2) o

/-! ## Laws -/

theorem write_of_false {o : SceneObject} {name : String} {value : Value}
    (h : (o.write name value).1 = false) : (o.write name value).2 = o := by
  unfold write at *
  split at h
  · split at h
    · simp at h
    · rename_i hv; simp [hv]
  · rfl

theorem setDynamic_of_false {o : SceneObject} {name : String} {value : Value}
    (h : (o.setDynamic name value).1 = false) : (o.setDynamic name value).2 = o := by
  unfold setDynamic at *
  split at h
  · rfl
  · split at h
    · rename_i hv; simp [hv]
    · simp at h
  · simp at h

/-- An attribute that is dropped leaves the object as it was. -/
theorem writeAttribute_dropped {o : SceneObject} {name : String} {value : Value}
    (h : (o.writeAttribute name value).1 = .dropped) : (o.writeAttribute name value).2 = o := by
  unfold writeAttribute at *
  split at h
  · rename_i hw
    cases hr : o.write name value with
    | mk b o' =>
      have hf := @write_of_false o name value
      rw [hr] at h hf
      cases b with
      | true => simp at h
      | false => simp [hw]; simpa using hf
  · rename_i hw
    cases hr : o.setDynamic name value with
    | mk b o' =>
      have hf := @setDynamic_of_false o name value
      rw [hr] at h hf
      cases b with
      | true => simp at h
      | false => simp [hw]; simpa using hf

theorem declaredNames_write (o : SceneObject) (name : String) (value : Value) :
    (o.write name value).2.declaredNames = o.declaredNames := by
  unfold write
  split
  · rename_i current hc
    split
    · have hmem : name ∈ o.declared.keys := by
        rw [← Assoc.contains_iff_mem_keys]; simp [Assoc.contains, hc]
      simp [declaredNames, withDeclared, Assoc.keys_insert, hmem]
    · rfl
  · rfl

theorem declaredNames_setDynamic (o : SceneObject) (name : String) (value : Value) :
    (o.setDynamic name value).2.declaredNames = o.declaredNames := by
  unfold setDynamic
  split
  · rfl
  · split <;> rfl
  · rfl

/-- No attribute changes which names are declared, or their order. -/
theorem declaredNames_writeAttribute (o : SceneObject) (name : String) (value : Value) :
    (o.writeAttribute name value).2.declaredNames = o.declaredNames := by
  have hw := declaredNames_write o name value
  have hd := declaredNames_setDynamic o name value
  unfold writeAttribute
  split <;> split <;> simp_all

theorem property?_write_of_ne (o : SceneObject) {name other : String} (value : Value)
    (h : name ≠ other) : (o.write name value).2.property? other = o.property? other := by
  unfold write
  split
  · split
    · simp [property?, withDeclared, Assoc.get?_insert, h]
    · rfl
  · rfl

theorem property?_setDynamic_of_ne (o : SceneObject) {name other : String} (value : Value)
    (h : name ≠ other) : (o.setDynamic name value).2.property? other = o.property? other := by
  unfold setDynamic
  split
  · rfl
  · split
    · rfl
    · simp [property?, withDynamic, Assoc.get?_insert, h]
  · simp [property?, withDynamic, Assoc.get?_insert, h]

end SceneObject

end SceneFactory
