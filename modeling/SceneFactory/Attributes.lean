import SceneFactory.Value.Basic

/-!
# Attribute sets

The named values that are handed to a component: contextual ones, which its
initializers read, and direct ones, which are written onto the object. An
attribute set is an association of values to names, so a repeated name keeps its
first place and takes its last value.
-/

namespace SceneFactory

/-- Named values in order of first insertion. -/
abbrev Attributes := Assoc String Value

namespace Attributes

/-- A copy with one name set, in place if the set has it. -/
def merged (base : Attributes) (name : String) (value : Value) : Attributes :=
  base.insert name value

/-- Equality of contents, without regard to order. -/
def same (a b : Attributes) : Bool := (Value.map a.entries).same (.map b.entries)

/-- In a merged set the given name has the given value, and every other name
the value it had. -/
theorem get?_merged (base : Attributes) (name other : String) (value : Value) :
    (base.merged name value).get? other = if name = other then some value else base.get? other :=
  base.get?_insert name other value

end Attributes

end SceneFactory
