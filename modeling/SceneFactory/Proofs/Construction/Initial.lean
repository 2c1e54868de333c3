import Mathlib.Data.List.Forall2
import SceneFactory.Markup.Construct

/-!
# What initializers mean

`Expr.Denotes` says what value an initializer has, rule by rule and without an evaluator.
The evaluator finds this value and no other (`Expr.denotes_iff`), so a property begins
with what its initializer means, and with null if it has none
(`Property.beginsWith_iff`).
-/

set_option autoImplicit false

namespace SceneFactory.Markup

/-- The value that an initializer has where names mean what `lookup` says. -/
inductive Expr.Denotes (lookup : String → Option Value) : Expr → Value → Prop where
  | literal (value : Value) : Denotes lookup (.literal value) value
  | known {name : String} {value : Value} (h : lookup name = some value) :
      Denotes lookup (.name name) value
  /-- A name that means nothing is null. -/
  | unknown {name : String} (h : lookup name = none) : Denotes lookup (.name name) .null
  | list {items : List (Located Expr)} {values : List Value}
      (h : List.Forall₂ (fun item value => Denotes lookup item.node value) items values) :
      Denotes lookup (.list items) (.list values)

section Denotes

variable (lookup : String → Option Value)

mutual

/-- The evaluator finds what an initializer means. -/
theorem Expr.denotes_evaluate : (e : Expr) → e.Denotes lookup (e.evaluate lookup)
  | .literal value => .literal value
  | .name n => by
    rw [Expr.evaluate]
    cases h : lookup n with
    | none => exact .unknown h
    | some value => exact .known h
  | .list items => by
    rw [Expr.evaluate]
    exact .list (Expr.denotes_evaluateItems items)

theorem Expr.denotes_evaluateItems : (items : List (Located Expr)) →
    List.Forall₂ (fun item value => Expr.Denotes lookup item.node value) items
      (Expr.evaluateItems lookup items)
  | [] => by
    rw [Expr.evaluateItems]
    exact .nil
  | item :: rest => by
    rw [Expr.evaluateItems]
    exact .cons (Expr.denotes_evaluateLocated item) (Expr.denotes_evaluateItems rest)

theorem Expr.denotes_evaluateLocated : (item : Located Expr) →
    item.node.Denotes lookup (Expr.evaluateLocated lookup item)
  | ⟨e, _⟩ => by
    rw [Expr.evaluateLocated]
    exact Expr.denotes_evaluate e

end

mutual

/-- An initializer means one thing only. -/
theorem Expr.eq_evaluate_of_denotes : (e : Expr) → {value : Value} → e.Denotes lookup value →
    value = e.evaluate lookup
  | .literal _, _, .literal _ => by rw [Expr.evaluate]
  | .name _, _, .known h => by rw [Expr.evaluate, h, Option.getD_some]
  | .name _, _, .unknown h => by rw [Expr.evaluate, h, Option.getD_none]
  | .list items, _, .list h => by
    rw [Expr.evaluate, Expr.eq_evaluateItems_of_denotes items h]

theorem Expr.eq_evaluateItems_of_denotes : (items : List (Located Expr)) →
    {values : List Value} →
    List.Forall₂ (fun item value => Expr.Denotes lookup item.node value) items values →
      values = Expr.evaluateItems lookup items
  | [], _, .nil => by rw [Expr.evaluateItems]
  | item :: rest, _, .cons h hrest => by
    rw [Expr.evaluateItems, Expr.eq_evaluateLocated_of_denotes item h,
      Expr.eq_evaluateItems_of_denotes rest hrest]

theorem Expr.eq_evaluateLocated_of_denotes : (item : Located Expr) → {value : Value} →
    item.node.Denotes lookup value → value = Expr.evaluateLocated lookup item
  | ⟨e, _⟩, _, h => by
    rw [Expr.evaluateLocated]
    exact Expr.eq_evaluate_of_denotes e h

end

/-- The evaluator decides what an initializer means. -/
theorem Expr.denotes_iff (e : Expr) (value : Value) :
    e.Denotes lookup value ↔ value = e.evaluate lookup := by
  constructor
  · exact e.eq_evaluate_of_denotes lookup
  · rintro rfl
    exact e.denotes_evaluate lookup

end Denotes

/-! ## Properties -/

/-- The value with which a property begins, as its declaration says. -/
def Property.BeginsWith (lookup : String → Option Value) (p : Property) (value : Value) : Prop :=
  match p.init with
  | some init => init.node.Denotes lookup value
  | none => value = .null

theorem Property.beginsWith_iff (lookup : String → Option Value) (p : Property) (value : Value) :
    p.BeginsWith lookup value ↔ value = p.initialValue lookup := by
  rw [BeginsWith, initialValue]
  cases p.init with
  | none => exact Iff.rfl
  | some init => exact Expr.denotes_iff lookup init.node value

/-- The value that a property has in the end: the direct attribute of its name, if there
is one that the initial value accepts, and the initial value otherwise. -/
def Property.finalValue (lookup : String → Option Value) (direct : Attributes) (p : Property) :
    Value :=
  match direct.get? p.name.node with
  | some value =>
    if (p.initialValue lookup).accepts value then value else p.initialValue lookup
  | none => p.initialValue lookup

/-- The required properties that are null in the end, in order of declaration. -/
def Component.lacking (lookup : String → Option Value) (direct : Attributes)
    (component : Component) : List String :=
  (component.properties.filter fun p =>
    p.node.required && (p.node.finalValue lookup direct).isNull).map fun p => p.node.name.node

end SceneFactory.Markup
