import SceneFactory.Markup.Token
import SceneFactory.Value.Basic

/-!
# Component declarations

What a markup source declares: the kind and the name of a component, and its
properties in order, each with an optional initializer.
-/

namespace SceneFactory.Markup

/-- Whether instances of a component can join the visual tree. -/
inductive ComponentKind where
  /-- Attachable to a visual container. -/
  | item
  /-- A plain object outside the visual tree. -/
  | object
deriving DecidableEq, Inhabited

/-- An initializer: a literal, a bare name that is looked up in the context of
construction, or a list. -/
inductive Expr where
  | literal (value : Value)
  | name (name : String)
  | list (items : List (Located Expr))
deriving Inhabited

/-- `[required] property name [: init]` -/
structure Property where
  name : Located String
  required : Bool
  init : Option (Located Expr)
deriving Inhabited

/-- A component with its properties in source order. -/
structure Component where
  kind : ComponentKind
  name : Located String
  properties : List (Located Property)
deriving Inhabited

/-- The first property of a given name. -/
def Component.property? (component : Component) (name : String) : Option Property :=
  (component.properties.map Located.node).find? fun p => p.name.node = name

/-- The names of the properties in source order. -/
def Component.propertyNames (component : Component) : List String :=
  component.properties.map fun p => p.node.name.node

end SceneFactory.Markup
