import SceneFactory.Proofs.Markup.Neighbours
import SceneFactory.Proofs.Markup.Recognition

/-!
# Components with a hole

A component in which one initializer is left open: the initializer of a property or, if lists stand
around the hole, an item of the innermost (`Hole`). The tokens in front of the hole and those
behind it say which hole it is (`IsHole`), whatever is put in.

What may be put in is decided by the two tokens beside the hole. An initializer always may, and
then the rest is as it was (`IsHole.isComponent`). A sign alone never may
(`IsHole.not_isComponent_sign`). Nothing at all may if a closing bracket comes next, and then the
hole is gone from its list (`IsHole.isComponent_close_iff`).
-/

set_option autoImplicit false

namespace SceneFactory.Markup

/-! ## Holes -/

/-- A list with one item left open. -/
structure Frame where
  before : List Initializer
  behind : List Initializer

/-- The list with its open item put in. -/
def Frame.fill (f : Frame) (init : Initializer) : Initializer :=
  .list (f.before ++ init :: f.behind)

/-- The list without its open item. -/
def Frame.close (f : Frame) : Initializer := .list (f.before ++ f.behind)

/-- An initializer with lists around it, the innermost first. -/
def enclose : List Frame → Initializer → Initializer
  | [], init => init
  | f :: around, init => enclose around (f.fill init)

/-- A component in which one initializer is left open: in the named property, with the lists around
it, the innermost first. -/
structure Hole where
  kind : ComponentKind
  name : String
  before : List PropertyDeclaration
  property : String
  required : Bool
  around : List Frame
  behind : List PropertyDeclaration

/-- The component with the open initializer put in. -/
def Hole.fill (hole : Hole) (init : Initializer) : Declaration :=
  ⟨hole.kind, hole.name,
    hole.before ++
      ⟨hole.property, hole.required, some (enclose hole.around init)⟩ :: hole.behind⟩

/-- The component without the open initializer, if that is an item of a list. -/
def Hole.close? (hole : Hole) : Option Declaration :=
  match hole.around with
  | [] => none
  | f :: around => some ({ hole with around := around }.fill f.close)

/-! ## The tokens around a hole -/

/-- The tokens of items that others follow. -/
inductive IsBefore : List Token → List Initializer → Prop where
  | nil : IsBefore [] []
  | cons {ts us : List Token} {item : Initializer} {items : List Initializer}
      (h : IsInitializer ts item) (hrest : IsBefore us items) :
      IsBefore (ts ++ .mark .comma :: us) (item :: items)

/-- The tokens of items that follow another, or of the comma behind it. -/
inductive IsBehind : List Token → List Initializer → Prop where
  | nil : IsBehind [] []
  | comma {ts : List Token} {items : List Initializer} (h : IsItems ts items) :
      IsBehind (.mark .comma :: ts) items

/-- The tokens on both sides of an initializer that lists stand around. -/
inductive IsAround : List Token → List Frame → List Token → Prop where
  | here : IsAround [] [] []
  | item {pre post ts us : List Token} {f : Frame} {around : List Frame}
      (hbefore : IsBefore ts f.before) (hbehind : IsBehind us f.behind)
      (h : IsAround pre around post) :
      IsAround (pre ++ .mark .bracketOpen :: ts) (f :: around) (us ++ .mark .bracketClose :: post)

/-- The tokens of a property up to its name. -/
def propertyHead (required : Bool) (name : String) : List Token :=
  (if required then [.keyword .required] else []) ++ [.keyword .property, .ident name]

/-- The tokens on both sides of a hole. -/
inductive IsHole : List Token → Hole → List Token → Prop where
  | mk (kind : ComponentKind) (name property : String) (required : Bool)
      {pre post ts us : List Token} {before behind : List PropertyDeclaration}
      {around : List Frame} (hbefore : IsProperties ts before) (h : IsAround pre around post)
      (hbehind : IsProperties us behind) :
      IsHole
        (.keyword kind.keyword :: .ident name :: .mark .braceOpen :: ts ++
          propertyHead required property ++ .mark .colon :: pre)
        ⟨kind, name, before, property, required, around, behind⟩
        (post ++ (us ++ [.mark .braceClose]))

/-! ## Putting an initializer in -/

theorem isProperty_head {ts : List Token} {init : Option Initializer} (h : IsInit ts init)
    (required : Bool) (name : String) :
    IsProperty (propertyHead required name ++ ts) ⟨name, required, init⟩ := by
  cases required with
  | true => exact .required name h
  | false => exact .optional name h

theorem IsProperties.append {ts us : List Token} {ps qs : List PropertyDeclaration}
    (h : IsProperties ts ps) (hus : IsProperties us qs) : IsProperties (ts ++ us) (ps ++ qs) := by
  induction h with
  | nil => exact hus
  | cons h hrest ih =>
    rw [List.append_assoc]
    exact .cons h ih

theorem IsBefore.isItems {ts us : List Token} {before items : List Initializer}
    (h : IsBefore ts before) (hitems : IsItems us items) :
    IsItems (ts ++ us) (before ++ items) := by
  induction h with
  | nil => exact hitems
  | cons h hrest ih =>
    rw [List.append_assoc, List.cons_append]
    exact .cons h ih

theorem IsBehind.isItems {ts us : List Token} {item : Initializer} {items : List Initializer}
    (h : IsBehind us items) (hitem : IsInitializer ts item) :
    IsItems (ts ++ us) (item :: items) := by
  cases h with
  | nil =>
    rw [List.append_nil]
    exact .some (.one hitem)
  | comma h => exact .cons hitem h

theorem IsAround.isInitializer {pre post : List Token} {around : List Frame}
    (h : IsAround pre around post) : ∀ {us : List Token} {init : Initializer},
      IsInitializer us init → IsInitializer (pre ++ us ++ post) (enclose around init) := by
  induction h with
  | here =>
    intro us init hinit
    rw [List.nil_append, List.append_nil]
    exact hinit
  | item hbefore hbehind h ih =>
    intro us init hinit
    have hlist := ih (.list (hbefore.isItems (hbehind.isItems hinit)))
    simp only [List.append_assoc, List.cons_append, List.nil_append] at hlist ⊢
    exact hlist

/-- A component with a property in the middle. -/
theorem isComponent_around (kind : ComponentKind) (name : String) {ts us vs : List Token}
    {before behind : List PropertyDeclaration} {p : PropertyDeclaration}
    (hbefore : IsProperties ts before) (h : IsProperty us p) (hbehind : IsProperties vs behind) :
    IsComponent (.keyword kind.keyword :: .ident name :: .mark .braceOpen ::
      (ts ++ (us ++ (vs ++ [.mark .braceClose])))) ⟨kind, name, before ++ p :: behind⟩ := by
  have hcomponent := IsComponent.mk kind name (hbefore.append (.cons h hbehind))
  simp only [List.append_assoc, List.cons_append] at hcomponent
  exact hcomponent

/-- An initializer may be put into a hole, and all around it stays. -/
theorem IsHole.isComponent {pre post us : List Token} {hole : Hole} {init : Initializer}
    (h : IsHole pre hole post) (hinit : IsInitializer us init) :
    IsComponent (pre ++ us ++ post) (hole.fill init) := by
  cases h with
  | mk kind name property required hbefore h hbehind =>
    have hproperty := isProperty_head (.some (h.isInitializer hinit)) required property
    have hcomponent := isComponent_around kind name hbefore hproperty hbehind
    simp only [List.append_assoc, List.cons_append] at hcomponent ⊢
    exact hcomponent

/-! ## Leaving the hole empty -/

/-- Tokens derive one component at most. -/
theorem IsComponent.unique {ts : List Token} {d d' : Declaration} (h : IsComponent ts d)
    (h' : IsComponent ts d') : d = d' := by
  obtain ⟨us, rfl⟩ : ∃ us : List Lexeme, tokens us = ts :=
    ⟨ts.map fun t => ⟨t, ⟨0, 0⟩⟩, by simp [tokens, Function.comp_def]⟩
  obtain ⟨c, hc, rfl⟩ := readComponent_of_isComponent h
  obtain ⟨c', hc', rfl⟩ := readComponent_of_isComponent h'
  cases hc.symm.trans hc'
  rfl

/-- Items that others follow end with a comma, if there are any. -/
theorem IsBefore.getLast? {ts : List Token} {items : List Initializer} (h : IsBefore ts items) :
    ∀ m : Token, (m = .mark .bracketOpen ∨ m = .mark .comma) →
      ∃ t : Token, (m :: ts).getLast? = some t ∧ (t = .mark .bracketOpen ∨ t = .mark .comma) := by
  induction h with
  | nil => exact fun m hm => ⟨m, rfl, hm⟩
  | cons h hrest ih =>
    intro m _
    obtain ⟨t, hlast, ht⟩ := ih (.mark .comma) (.inr rfl)
    refine ⟨t, ?_, ht⟩
    rw [← List.cons_append, List.getLast?_append, hlast, Option.some_or]

/-- Behind properties comes a keyword or the closing brace. -/
theorem IsProperties.next {ts : List Token} {ps : List PropertyDeclaration}
    (h : IsProperties ts ps) :
    ∃ u, (ts ++ [Token.mark .braceClose]).head? = some u ∧ u.begins = false ∧
      u ≠ .mark .bracketClose := by
  cases h with
  | nil => exact ⟨_, rfl, rfl, nofun⟩
  | cons h hrest =>
    cases h with
    | optional name h => exact ⟨_, rfl, rfl, nofun⟩
    | required name h => exact ⟨_, rfl, rfl, nofun⟩

/-- The tokens beside a hole. Either the hole is all of an initializer, between a colon and
what may come behind a property, or it is an item, behind a bracket or a comma, and what follows is
a comma or the bracket that closes its list without it. -/
theorem IsHole.beside {pre post : List Token} {hole : Hole} (h : IsHole pre hole post) :
    (pre.getLast? = some (.mark .colon) ∧
        ∃ u : Token, post.head? = some u ∧ u.begins = false ∧ u ≠ .mark .bracketClose) ∨
      (∃ t : Token, pre.getLast? = some t ∧ (t = .mark .bracketOpen ∨ t = .mark .comma)) ∧
        (post.head? = some (.mark .comma) ∨
          post.head? = some (.mark .bracketClose) ∧
            ∃ d, hole.close? = some d ∧ IsComponent (pre ++ post) d) := by
  cases h with
  | mk kind name property required hbefore h hbehind =>
    cases h with
    | here => exact .inl ⟨List.getLast?_concat, hbehind.next⟩
    | @item pre post ts us f around hitems hrest h =>
      obtain ⟨t, hlast, ht⟩ := hitems.getLast? (.mark .bracketOpen) (.inl rfl)
      refine .inr ⟨⟨t, ?_, ht⟩, ?_⟩
      · rw [List.getLast?_append, ← List.cons_append, List.getLast?_append, hlast]
        rfl
      · obtain ⟨items, others⟩ := f
        cases hrest with
        | comma hmore => exact .inl rfl
        | nil =>
          -- the hole is the last item, so the items before it make a list with a trailing comma
          have hlist := IsInitializer.list (hitems.isItems .none)
          have hhole := IsHole.mk kind name property required hbefore h hbehind
          have hcomponent := hhole.isComponent hlist
          refine .inr ⟨rfl, _, rfl, ?_⟩
          simp only [Frame.close, List.append_assoc, List.cons_append, List.append_nil,
            List.nil_append] at hcomponent ⊢
          exact hcomponent

/-- A sign alone may not be put into a hole. -/
theorem IsHole.not_isComponent_sign {pre post : List Token} {hole : Hole} (h : IsHole pre hole post)
    (d : Declaration) : ¬IsComponent (pre ++ [.mark .minus] ++ post) d := by
  obtain ⟨u, hu, hadmits⟩ : ∃ u, post.head? = some u ∧ (Token.mark .minus).admits u = false := by
    rcases h.beside with ⟨-, u, hu, hbegins, -⟩ | ⟨-, hcomma | ⟨hclose, -⟩⟩
    · refine ⟨u, hu, Bool.eq_false_iff.2 fun hnumber => ?_⟩
      rw [Token.begins_of_isNumber hnumber] at hbegins
      cases hbegins
    · exact ⟨_, hcomma, rfl⟩
    · exact ⟨_, hclose, rfl⟩
  exact not_isComponent_of_admits List.getLast?_concat hu hadmits d

/-- A hole may stay empty exactly if a closing bracket comes next, and then it is gone. -/
theorem IsHole.isComponent_close_iff {pre post : List Token} {hole : Hole}
    (h : IsHole pre hole post) {d : Declaration} :
    IsComponent (pre ++ post) d ↔
      post.head? = some (.mark .bracketClose) ∧ hole.close? = some d := by
  rcases h.beside with
    ⟨hlast, u, hu, hbegins, hbracket⟩ | ⟨⟨t, hlast, ht⟩, hcomma | ⟨hclose, d', hd', hempty⟩⟩
  · refine iff_of_false (not_isComponent_of_admits hlast hu hbegins d) fun hclosed => hbracket ?_
    exact Option.some.inj (hu.symm.trans hclosed.1)
  · have hadmits : t.admits (.mark .comma) = false := by
      rcases ht with rfl | rfl <;> rfl
    refine iff_of_false (not_isComponent_of_admits hlast hcomma hadmits d) fun hclosed => ?_
    rw [hcomma] at hclosed
    cases hclosed.1
  · rw [hd', Option.some.injEq]
    refine ⟨fun hd => ⟨hclose, hempty.unique hd⟩, ?_⟩
    rintro ⟨-, rfl⟩
    exact hempty

/-- Before a closing bracket a hole is an item of a list. -/
theorem IsHole.exists_close? {pre post : List Token} {hole : Hole} (h : IsHole pre hole post)
    (hclose : post.head? = some (.mark .bracketClose)) : ∃ d, hole.close? = some d := by
  rcases h.beside with ⟨-, u, hu, -, hbracket⟩ | ⟨-, hcomma | ⟨-, d, hd, -⟩⟩
  · exact absurd (Option.some.inj (hu.symm.trans hclose)) hbracket
  · rw [hclose] at hcomma
    cases hcomma
  · exact ⟨d, hd⟩

end SceneFactory.Markup
