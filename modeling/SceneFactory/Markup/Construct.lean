import SceneFactory.Markup.Component
import SceneFactory.Object

/-!
# Constructing an object from a component

A component's object has the declared properties with the values of their
initializers, in which bare names are looked up in the context of construction.
Its construction is complete when no required property is null.
-/

namespace SceneFactory.Markup

/-! ## Initializers -/

mutual

/-- The value of an initializer, given how names are looked up. A name without a
value is null. -/
def Expr.evaluate (lookup : String → Option Value) : Expr → Value
  | .literal value => value
  | .name n => (lookup n).getD .null
  | .list items => .list (evaluateItems lookup items)

/-- The values of the items of a list. -/
def Expr.evaluateItems (lookup : String → Option Value) : List (Located Expr) → List Value
  | [] => []
  | item :: rest => Expr.evaluateLocated lookup item :: evaluateItems lookup rest

/-- The value of an initializer, wherever it stands. -/
def Expr.evaluateLocated (lookup : String → Option Value) : Located Expr → Value
  | ⟨e, _⟩ => Expr.evaluate lookup e

end

/-- The value with which a property begins; without an initializer it is null. -/
def Property.initialValue (lookup : String → Option Value) (p : Property) : Value :=
  match p.init with
  | some init => init.node.evaluate lookup
  | none => .null

/-! ## Objects -/

/-- The declared properties with the values with which they begin. -/
def Component.initialValues (lookup : String → Option Value) (component : Component) :
    Attributes :=
  Assoc.ofList (component.properties.map fun p =>
    (p.node.name.node, p.node.initialValue lookup))

/-- The object of a component, before any attribute is written. -/
def Component.construct (lookup : String → Option Value) (component : Component) : SceneObject where
  typeName := component.name.node
  visibility :=
    match component.kind with
    | .item => .always
    | .object => .never
  hasBinding := true
  reflection := .undeclared
  parentName := none
  declared := component.initialValues lookup
  dynamic := Assoc.empty

/-- Whether a property of an object is missing or null. -/
def isUnset (o : SceneObject) (name : String) : Bool :=
  match o.property? name with
  | some value => value.isNull
  | none => true

/-- The required properties that an object lacks, in order of declaration. -/
def Component.unset (component : Component) (o : SceneObject) : List String :=
  ((component.properties.filter fun p => p.node.required).map fun p => p.node.name.node).filter
    fun name => isUnset o name

/-- What is said of required properties that are not set. -/
def unsetMessage (names : List String) : String :=
  "required property not set: " ++ ", ".intercalate names

/-- Completes the construction of an object, which is left as it is. -/
def Component.complete (component : Component) (o : SceneObject) : Except String SceneObject :=
  match component.unset o with
  | [] => .ok o
  | names => .error (unsetMessage names)

end SceneFactory.Markup
