import SceneFactory.Markup.Parse

/-!
# The grammar of the markup

What a source declares, places aside (`Declaration`), and the grammar that says of a list of
tokens what it declares, one rule for each way of writing:

    component   ::= (item | object) Name { property* }
    property    ::= [required] property Name [: initializer]
    initializer ::= String | Color | true | false | null | number | Name | [ items ]
    number      ::= [-] (Int | Float)
    items       ::= nothing | sequence | sequence ,
    sequence    ::= initializer | initializer , sequence

The grammar does not look at places and knows nothing of reading.
-/

set_option autoImplicit false

namespace SceneFactory.Markup

/-! ## Declarations without places -/

/-- An initializer without its places. -/
inductive Initializer where
  | literal (value : Value)
  | name (name : String)
  | list (items : List Initializer)
deriving Inhabited

/-- A property without its places. -/
structure PropertyDeclaration where
  name : String
  required : Bool
  init : Option Initializer
deriving Inhabited

/-- A component without its places. -/
structure Declaration where
  kind : ComponentKind
  name : String
  properties : List PropertyDeclaration
deriving Inhabited

mutual

/-- The initializer that an expression is, places aside. -/
def Expr.bare : Expr → Initializer
  | .literal value => .literal value
  | .name n => .name n
  | .list items => .list (bareItems items)

/-- The initializers of a list, places aside. -/
def Expr.bareItems : List (Located Expr) → List Initializer
  | [] => []
  | item :: rest => Expr.bareLocated item :: bareItems rest

/-- An initializer, wherever it stands. -/
def Expr.bareLocated : Located Expr → Initializer
  | ⟨e, _⟩ => Expr.bare e

end

@[simp] theorem Expr.bareItems_nil : Expr.bareItems [] = [] := by
  rw [bareItems]

@[simp] theorem Expr.bareItems_cons (item : Located Expr) (rest : List (Located Expr)) :
    Expr.bareItems (item :: rest) = item.node.bare :: Expr.bareItems rest := by
  cases item
  rw [bareItems, bareLocated]

/-- The property, places aside. -/
def Property.bare (p : Property) : PropertyDeclaration :=
  ⟨p.name.node, p.required, p.init.map fun init => init.node.bare⟩

/-- What a component declares, places aside. -/
def Component.declaration (c : Component) : Declaration :=
  ⟨c.kind, c.name.node, c.properties.map fun p => p.node.bare⟩

/-! ## Tokens -/

/-- The tokens of some lexemes. -/
def tokens (ts : List Lexeme) : List Token := ts.map Located.node

@[simp] theorem tokens_cons (t : Lexeme) (ts : List Lexeme) :
    tokens (t :: ts) = t.node :: tokens ts := rfl

/-! ## The rules -/

/-- The tokens of a number. A sign in front is folded into it. -/
inductive IsNumber : List Token → Value → Prop where
  | int (n : Int64) : IsNumber [.int n] (.int n)
  | float (x : Binary64) : IsNumber [.float x] (.float x)
  | negativeInt (n : Int64) : IsNumber [.mark .minus, .int n] (.int (-n))
  | negativeFloat (x : Binary64) : IsNumber [.mark .minus, .float x] (.float (-x))

mutual

/-- The tokens of an initializer. -/
inductive IsInitializer : List Token → Initializer → Prop where
  | string (s : String) : IsInitializer [.string s] (.literal (.string s))
  | color (s : String) : IsInitializer [.color s] (.literal (.string s))
  | trueWord : IsInitializer [.keyword .trueWord] (.literal (.bool true))
  | falseWord : IsInitializer [.keyword .falseWord] (.literal (.bool false))
  | nullWord : IsInitializer [.keyword .nullWord] (.literal .null)
  | number {ts : List Token} {value : Value} (h : IsNumber ts value) :
      IsInitializer ts (.literal value)
  | name (n : String) : IsInitializer [.ident n] (.name n)
  | list {ts : List Token} {items : List Initializer} (h : IsItems ts items) :
      IsInitializer (.mark .bracketOpen :: ts ++ [.mark .bracketClose]) (.list items)

/-- The tokens between the brackets of a list. A comma may come last, but not alone. -/
inductive IsItems : List Token → List Initializer → Prop where
  | none : IsItems [] []
  | some {ts : List Token} {items : List Initializer} (h : IsSequence ts items) : IsItems ts items
  | trailing {ts : List Token} {items : List Initializer} (h : IsSequence ts items) :
      IsItems (ts ++ [.mark .comma]) items

/-- The tokens of one or more initializers with a comma between two of them. -/
inductive IsSequence : List Token → List Initializer → Prop where
  | one {ts : List Token} {item : Initializer} (h : IsInitializer ts item) :
      IsSequence ts [item]
  | more {ts us : List Token} {item : Initializer} {items : List Initializer}
      (h : IsInitializer ts item) (hmore : IsSequence us items) :
      IsSequence (ts ++ .mark .comma :: us) (item :: items)

end

/-- The tokens behind the name of a property. -/
inductive IsInit : List Token → Option Initializer → Prop where
  | none : IsInit [] none
  | some {ts : List Token} {init : Initializer} (h : IsInitializer ts init) :
      IsInit (.mark .colon :: ts) (some init)

/-- The tokens of a property. -/
inductive IsProperty : List Token → PropertyDeclaration → Prop where
  | optional (name : String) {ts : List Token} {init : Option Initializer} (h : IsInit ts init) :
      IsProperty (.keyword .property :: .ident name :: ts) ⟨name, false, init⟩
  | required (name : String) {ts : List Token} {init : Option Initializer} (h : IsInit ts init) :
      IsProperty (.keyword .required :: .keyword .property :: .ident name :: ts)
        ⟨name, true, init⟩

/-- The tokens of properties one after the other. -/
inductive IsProperties : List Token → List PropertyDeclaration → Prop where
  | nil : IsProperties [] []
  | cons {ts us : List Token} {p : PropertyDeclaration} {ps : List PropertyDeclaration}
      (h : IsProperty ts p) (hrest : IsProperties us ps) : IsProperties (ts ++ us) (p :: ps)

/-- The keyword of a kind of component. -/
def ComponentKind.keyword : ComponentKind → Keyword
  | .item => .item
  | .object => .object

/-- The tokens of a component, and of nothing after it. -/
inductive IsComponent : List Token → Declaration → Prop where
  | mk (kind : ComponentKind) (name : String) {ts : List Token}
      {properties : List PropertyDeclaration} (h : IsProperties ts properties) :
      IsComponent (.keyword kind.keyword :: .ident name :: .mark .braceOpen ::
        ts ++ [.mark .braceClose]) ⟨kind, name, properties⟩

/-! ## Consequences -/

/-- An item may be put in front of others, and of a trailing comma alone. -/
theorem IsItems.cons {ts us : List Token} {item : Initializer} {items : List Initializer}
    (h : IsInitializer ts item) (hitems : IsItems us items) :
    IsItems (ts ++ .mark .comma :: us) (item :: items) := by
  cases hitems with
  | none => exact .trailing (.one h)
  | some hmore => exact .some (.more h hmore)
  | @trailing us items hmore =>
    have htrailing := IsItems.trailing (.more h hmore)
    rw [List.append_assoc, List.cons_append] at htrailing
    exact htrailing

end SceneFactory.Markup
