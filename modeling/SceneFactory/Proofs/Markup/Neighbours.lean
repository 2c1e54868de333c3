import Mathlib.Data.List.Chain
import SceneFactory.Proofs.Markup.Grammar

/-!
# Tokens side by side

Four tokens want something behind them: a colon an initializer, an opening bracket and a comma an
initializer or the closing bracket, a sign a number (`Token.admits`). Wherever two tokens stand side
by side in what the grammar derives, the first admits the second (`fits_of_isComponent`), so a
place where that fails shows that nothing is derived.
-/

set_option autoImplicit false

namespace SceneFactory.Markup

/-! ## What wants what -/

/-- Whether a token is a number without its sign. -/
def Token.isNumber : Token → Bool
  | .int _ | .float _ => true
  | _ => false

/-- Whether an initializer can begin with a token. -/
def Token.begins : Token → Bool
  | .string _ | .color _ | .int _ | .float _ | .ident _ => true
  | .keyword .trueWord | .keyword .falseWord | .keyword .nullWord => true
  | .mark .minus | .mark .bracketOpen => true
  | _ => false

/-- Whether a token wants something behind it. -/
def Token.isOpen : Token → Bool
  | .mark .colon | .mark .comma | .mark .bracketOpen | .mark .minus => true
  | _ => false

/-- Whether the second token may stand behind the first, if the first wants something. -/
def Token.admits : Token → Token → Bool
  | .mark .colon, u => u.begins
  | .mark .comma, u | .mark .bracketOpen, u => u.begins || u = .mark .bracketClose
  | .mark .minus, u => u.isNumber
  | _, _ => true

theorem Token.admits_of_not_isOpen {t : Token} (h : t.isOpen = false) (u : Token) :
    t.admits u = true := by
  cases t with
  | mark m => cases m <;> first | rfl | cases h
  | _ => rfl

/-- A number can begin an initializer. -/
theorem Token.begins_of_isNumber {t : Token} (h : t.isNumber = true) : t.begins = true := by
  cases t <;> first | rfl | cases h

/-- Every token admits the one behind it. -/
abbrev Fits (ts : List Token) : Prop := ts.IsChain fun t u => t.admits u = true

/-- Tokens that fit and want nothing behind them. -/
structure Joins (ts : List Token) : Prop where
  fits : Fits ts
  closed : ∀ t ∈ ts.getLast?, t.isOpen = false

theorem joins_nil : Joins [] := ⟨.nil, nofun⟩

theorem joins_singleton {t : Token} (h : t.isOpen = false) : Joins [t] :=
  ⟨.singleton t, fun _ hu => Option.mem_some.1 hu ▸ h⟩

theorem Joins.append {ts us : List Token} (h : Joins ts) (hus : Joins us) : Joins (ts ++ us) := by
  refine ⟨h.fits.append hus.fits fun t ht u _ => Token.admits_of_not_isOpen (h.closed t ht) u, ?_⟩
  intro t ht
  rw [List.getLast?_append, Option.mem_def, Option.or_eq_some_iff] at ht
  rcases ht with ht | ⟨-, ht⟩
  · exact hus.closed t ht
  · exact h.closed t ht

/-- In front may come a token that admits the first. -/
theorem Joins.cons {t u : Token} {us : List Token} (h : t.admits u = true)
    (hus : Joins (u :: us)) : Joins (t :: u :: us) :=
  ⟨.cons_cons h hus.fits, fun v hv => hus.closed v (List.getLast?_cons_cons ▸ hv)⟩

/-- In front may come a token that wants nothing. -/
theorem Joins.cons_closed {t : Token} {us : List Token} (h : t.isOpen = false) (hus : Joins us) :
    Joins (t :: us) :=
  (joins_singleton h).append hus

/-! ## Initializers -/

/-- Tokens that join and begin as an initializer does. -/
def IsExpression (ts : List Token) : Prop := Joins ts ∧ ∃ t us, ts = t :: us ∧ t.begins = true

theorem isExpression_singleton {t : Token} (h : t.begins = true) (hclosed : t.isOpen = false) :
    IsExpression [t] := ⟨joins_singleton hclosed, t, [], rfl, h⟩

/-- What wants an initializer may stand in front of one. -/
theorem IsExpression.joins_cons {ts rest : List Token} (h : IsExpression ts) (hrest : Joins rest)
    {t : Token} (ht : ∀ u : Token, u.begins = true → t.admits u = true) :
    Joins (t :: (ts ++ rest)) := by
  obtain ⟨hjoins, u, us, rfl, hu⟩ := h
  exact (hjoins.append hrest).cons (ht u hu)

theorem IsExpression.append {ts rest : List Token} (h : IsExpression ts) (hrest : Joins rest) :
    IsExpression (ts ++ rest) := by
  obtain ⟨hjoins, u, us, rfl, hu⟩ := h
  exact ⟨hjoins.append hrest, u, us ++ rest, rfl, hu⟩

theorem isExpression_of_isNumber {ts : List Token} {value : Value} (h : IsNumber ts value) :
    IsExpression ts := by
  cases h with
  | int n => exact isExpression_singleton rfl rfl
  | float x => exact isExpression_singleton rfl rfl
  | negativeInt n => exact ⟨(joins_singleton rfl).cons rfl, _, _, rfl, rfl⟩
  | negativeFloat x => exact ⟨(joins_singleton rfl).cons rfl, _, _, rfl, rfl⟩

theorem admits_of_begins (u : Token) (h : u.begins = true) :
    (Token.mark .comma).admits u = true ∧ (Token.mark .bracketOpen).admits u = true := by
  simp [Token.admits, h]

theorem joins_bracketClose : Joins [.mark .bracketClose] := joins_singleton rfl

mutual

/-- The tokens of an initializer fit. -/
theorem isExpression_of_isInitializer : {ts : List Token} → {init : Initializer} →
    IsInitializer ts init → IsExpression ts
  | _, _, .string _ => isExpression_singleton rfl rfl
  | _, _, .color _ => isExpression_singleton rfl rfl
  | _, _, .trueWord => isExpression_singleton rfl rfl
  | _, _, .falseWord => isExpression_singleton rfl rfl
  | _, _, .nullWord => isExpression_singleton rfl rfl
  | _, _, .number h => isExpression_of_isNumber h
  | _, _, .name _ => isExpression_singleton rfl rfl
  | _, _, .list h => ⟨joins_of_isItems h, _, _, rfl, rfl⟩

/-- The tokens of a list fit between its brackets. -/
theorem joins_of_isItems : {ts : List Token} → {items : List Initializer} → IsItems ts items →
    Joins (.mark .bracketOpen :: ts ++ [.mark .bracketClose])
  | _, _, .none => joins_bracketClose.cons rfl
  | _, _, .some h =>
    (isExpression_of_isSequence h).joins_cons joins_bracketClose fun u hu =>
      (admits_of_begins u hu).2
  | _, _, .trailing h => by
    have hclose : Joins [.mark .comma, .mark .bracketClose] := joins_bracketClose.cons rfl
    have hlist := (isExpression_of_isSequence h).joins_cons hclose fun u hu =>
      (admits_of_begins u hu).2
    simpa using hlist

/-- The tokens of initializers with commas between them fit. -/
theorem isExpression_of_isSequence : {ts : List Token} → {items : List Initializer} →
    IsSequence ts items → IsExpression ts
  | _, _, .one h => isExpression_of_isInitializer h
  | _, _, .more h hmore => by
    have hrest := (isExpression_of_isSequence hmore).joins_cons joins_nil fun u hu =>
      (admits_of_begins u hu).1
    rw [List.append_nil] at hrest
    exact (isExpression_of_isInitializer h).append hrest

end

/-! ## Components -/

theorem joins_of_isInit {ts : List Token} {init : Option Initializer} (h : IsInit ts init) :
    Joins ts := by
  cases h with
  | none => exact joins_nil
  | some h =>
    have hcolon : ∀ u : Token, u.begins = true → (Token.mark .colon).admits u = true :=
      fun _ hu => hu
    have hinit := (isExpression_of_isInitializer h).joins_cons joins_nil hcolon
    rw [List.append_nil] at hinit
    exact hinit

theorem joins_of_isProperty {ts : List Token} {p : PropertyDeclaration} (h : IsProperty ts p) :
    Joins ts := by
  cases h with
  | optional name h =>
    exact .cons_closed rfl (.cons_closed rfl (joins_of_isInit h))
  | required name h =>
    exact .cons_closed rfl (.cons_closed rfl (.cons_closed rfl (joins_of_isInit h)))

theorem joins_of_isProperties {ts : List Token} {ps : List PropertyDeclaration}
    (h : IsProperties ts ps) : Joins ts := by
  induction h with
  | nil => exact joins_nil
  | cons h _ ih => exact (joins_of_isProperty h).append ih

/-- In what the grammar derives every token admits the one behind it. -/
theorem fits_of_isComponent {ts : List Token} {d : Declaration} (h : IsComponent ts d) :
    Fits ts := by
  cases h with
  | mk kind name h =>
    have hbody := (joins_of_isProperties h).append (joins_singleton (t := .mark .braceClose) rfl)
    have hjoins : Joins (.keyword kind.keyword :: .ident name :: .mark .braceOpen :: (_ ++ _)) :=
      .cons_closed rfl (.cons_closed rfl (.cons_closed rfl hbody))
    exact hjoins.fits

/-- Nothing is derived where a token stands behind one that does not admit it. -/
theorem not_isComponent_of_admits {ts us : List Token} {t u : Token} (ht : ts.getLast? = some t)
    (hu : us.head? = some u) (h : t.admits u = false) (d : Declaration) :
    ¬IsComponent (ts ++ us) d := by
  intro hd
  -- the last of the ones in front and the first of the others stand side by side
  have hseam := (List.isChain_append.1 (fits_of_isComponent hd)).2.2 t ht u hu
  rw [h] at hseam
  cases hseam

end SceneFactory.Markup
