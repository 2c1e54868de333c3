import SceneFactory.Proofs.Markup.Stops
import SceneFactory.Proofs.Markup.Grammar

/-!
# What is read is derivable

Whenever reading succeeds, the tokens that were taken derive what was read, place by place aside
(`isComponent_of_readComponent`). Reading an expression and reading the items of a list call each
other on shorter tokens, so both are shown together, by induction on the number of tokens.
-/

set_option autoImplicit false

namespace SceneFactory.Markup

/-! ## Expressions -/

/-- The tokens that a reading took derive a node. -/
def Derives {α β : Type} (rule : List Token → β → Prop) (bare : α → β) {ts : List Lexeme} :
    Except Stop (Reading α ts) → Prop
  | .ok r => ∃ us, tokens ts = us ++ tokens r.rest ∧ rule us (bare r.node)
  | .error _ => True

/-- The tokens of the items of a list and of its closing bracket. -/
def IsClosed (ts : List Token) (items : List Initializer) : Prop :=
  ∃ us, ts = us ++ [.mark .bracketClose] ∧ IsItems us items

/-- What `readExpr` gives. -/
abbrev DerivesExpr {ts : List Lexeme} (result : Except Stop (Reading (Located Expr) ts)) : Prop :=
  Derives IsInitializer (fun e => e.node.bare) result

/-- What `readItems` gives. -/
abbrev DerivesItems {ts : List Lexeme}
    (result : Except Stop (Reading (List (Located Expr) × Nat) ts)) : Prop :=
  Derives IsClosed (fun items => Expr.bareItems items.1) result

theorem derives_readExpr {n : Nat}
    (hitems : ∀ ts : List Lexeme, ts.length < n → DerivesItems (readItems ts))
    {ts : List Lexeme} (hlength : ts.length ≤ n) : DerivesExpr (readExpr ts) := by
  unfold readExpr
  split
  case h_1 s span rest => exact ⟨[.string s], rfl, .string s⟩
  case h_2 c span rest => exact ⟨[.color c], rfl, .color c⟩
  case h_3 span rest => exact ⟨[.keyword .trueWord], rfl, .trueWord⟩
  case h_4 span rest => exact ⟨[.keyword .falseWord], rfl, .falseWord⟩
  case h_5 span rest => exact ⟨[.keyword .nullWord], rfl, .nullWord⟩
  case h_6 n span rest => exact ⟨[.int n], rfl, .number (.int n)⟩
  case h_7 x span rest => exact ⟨[.float x], rfl, .number (.float x)⟩
  case h_8 name span rest => exact ⟨[.ident name], rfl, .name name⟩
  case h_9 sign n span rest => exact ⟨[.mark .minus, .int n], rfl, .number (.negativeInt n)⟩
  case h_10 sign x span rest =>
    exact ⟨[.mark .minus, .float x], rfl, .number (.negativeFloat x)⟩
  case h_11 => exact trivial
  case h_12 span rest =>
    have hrest := hitems rest (Nat.lt_of_succ_le hlength)
    split
    · exact trivial
    · rename_i items stop after h heq
      rw [heq] at hrest
      obtain ⟨us, hus, vs, rfl, hderived⟩ := hrest
      refine ⟨.mark .bracketOpen :: vs ++ [.mark .bracketClose], ?_, .list hderived⟩
      rw [tokens_cons, hus]
      rfl
  case h_13 => exact trivial

theorem derives_readItems {n : Nat}
    (hexpr : ∀ ts : List Lexeme, ts.length ≤ n → DerivesExpr (readExpr ts))
    (hitems : ∀ ts : List Lexeme, ts.length < n → DerivesItems (readItems ts))
    {ts : List Lexeme} (hlength : ts.length ≤ n) : DerivesItems (readItems ts) := by
  have hitem := hexpr ts hlength
  unfold readItems
  split
  · exact ⟨[.mark .bracketClose], rfl, [], rfl, .none⟩
  · split
    · split <;> exact trivial
    · rename_i item rest h heq
      rw [heq] at hitem
      obtain ⟨us, hus, hitem⟩ := hitem
      split
      · rename_i span after h
        refine ⟨us ++ [.mark .bracketClose], ?_, us, rfl, ?_⟩
        · rw [hus]
          simp
        · change IsItems us (Expr.bareItems [item])
          rw [Expr.bareItems_cons, Expr.bareItems_nil]
          exact .some (.one hitem)
      · rename_i span more h
        have hmore := hitems more (Nat.lt_of_lt_of_le (Nat.lt_trans shorter_cons h) hlength)
        split
        · exact trivial
        · rename_i items stop after h' heq'
          rw [heq'] at hmore
          obtain ⟨vs, hvs, ws, rfl, hmore⟩ := hmore
          refine ⟨(us ++ .mark .comma :: ws) ++ [.mark .bracketClose], ?_, _, rfl, ?_⟩
          · rw [hus]
            simp only [tokens_cons] at hvs ⊢
            rw [hvs]
            simp
          · change IsItems _ (Expr.bareItems (item :: items))
            rw [Expr.bareItems_cons]
            exact .cons hitem hmore
      · exact trivial

/-- What is read of an expression, or of the items of a list, is derivable. -/
theorem derives_reading (n : Nat) : ∀ ts : List Lexeme, ts.length ≤ n →
    DerivesExpr (readExpr ts) ∧ DerivesItems (readItems ts) := by
  induction n using Nat.strongRecOn with
  | ind n ih =>
    have hitems : ∀ ts : List Lexeme, ts.length < n → DerivesItems (readItems ts) :=
      fun ts hts => (ih ts.length hts ts (Nat.le_refl _)).2
    have hexpr : ∀ ts : List Lexeme, ts.length ≤ n → DerivesExpr (readExpr ts) :=
      fun ts hts => derives_readExpr hitems hts
    intro ts hts
    exact ⟨hexpr ts hts, derives_readItems hexpr hitems hts⟩

theorem isInitializer_of_readExpr {ts : List Lexeme} {r : Reading (Located Expr) ts}
    (h : readExpr ts = .ok r) :
    ∃ us, tokens ts = us ++ tokens r.rest ∧ IsInitializer us r.node.node.bare := by
  have hderives := (derives_reading ts.length ts (Nat.le_refl _)).1
  rw [h] at hderives
  exact hderives

/-! ## Properties and components -/

theorem isInit_of_readPropertyTail {start : Nat} {required : Bool} {ts : List Lexeme}
    {r : Reading (Located Property) ts} (h : readPropertyTail start required ts = .ok r) :
    ∃ name us init, tokens ts = .ident name :: us ++ tokens r.rest ∧ IsInit us init ∧
      r.node.node.bare = ⟨name, required, init⟩ := by
  simp only [readPropertyTail] at h
  split at h
  · rename_i name nameSpan colon rest
    split at h
    · cases h
    · rename_i init after hlt heq
      cases h
      obtain ⟨us, hus, hinit⟩ := isInitializer_of_readExpr heq
      refine ⟨name, .mark .colon :: us, _, ?_, .some hinit, rfl⟩
      rw [tokens_cons, tokens_cons, hus]
      rfl
  · rename_i name nameSpan rest hcolon
    cases h
    exact ⟨name, [], none, rfl, .none, rfl⟩
  · cases h

theorem isProperty_of_readProperty {ts : List Lexeme} {r : Reading (Located Property) ts}
    (h : readProperty ts = .ok r) :
    ∃ us, tokens ts = us ++ tokens r.rest ∧ IsProperty us r.node.node.bare := by
  simp only [readProperty] at h
  split at h
  · rename_i span span' rest
    cases htail : readPropertyTail span.start true rest with
    | error stop =>
      rw [htail] at h
      cases h
    | ok tail =>
      rw [htail] at h
      cases h
      obtain ⟨name, us, init, hus, hinit, hbare⟩ := isInit_of_readPropertyTail htail
      refine ⟨.keyword .required :: .keyword .property :: .ident name :: us, ?_, ?_⟩
      · rw [tokens_cons, tokens_cons, hus]
        rfl
      · change IsProperty _ tail.node.node.bare
        rw [hbare]
        exact .required name hinit
  · cases h
  · rename_i span rest
    cases htail : readPropertyTail span.start false rest with
    | error stop =>
      rw [htail] at h
      cases h
    | ok tail =>
      rw [htail] at h
      cases h
      obtain ⟨name, us, init, hus, hinit, hbare⟩ := isInit_of_readPropertyTail htail
      refine ⟨.keyword .property :: .ident name :: us, ?_, ?_⟩
      · rw [tokens_cons, hus]
        rfl
      · change IsProperty _ tail.node.node.bare
        rw [hbare]
        exact .optional name hinit
  · cases h

/-- What is read of properties up to the closing brace is derivable. -/
theorem isProperties_of_readProperties {colon : Bool} {ts rest : List Lexeme}
    {properties : List (Located Property)}
    (h : readProperties colon ts = .ok (properties, rest)) :
    ∃ us, tokens ts = us ++ .mark .braceClose :: tokens rest ∧
      IsProperties us (properties.map fun p => p.node.bare) := by
  fun_induction readProperties colon ts generalizing properties with
  | case1 =>
    cases h
    exact ⟨[], rfl, .nil⟩
  | case2 => cases h
  | case3 => cases h
  | case4 => cases h
  | case5 colon ts hclose property middle hlt heq others after hrest ih =>
    cases h
    obtain ⟨us, hus, hproperty⟩ := isProperty_of_readProperty heq
    obtain ⟨vs, hvs, hothers⟩ := ih hrest
    refine ⟨us ++ vs, ?_, .cons hproperty hothers⟩
    rw [hus, hvs, List.append_assoc]

theorem isComponent_of_readNamed {kind : ComponentKind} {ts : List Lexeme} {c : Component}
    (h : readComponent.readNamed kind ts = .ok c) :
    IsComponent (.keyword kind.keyword :: tokens ts) c.declaration := by
  simp only [readComponent.readNamed] at h
  split at h
  · rename_i name span rest
    split at h
    · rename_i braceSpan body
      split at h
      · cases h
      · rename_i properties heq
        cases h
        obtain ⟨us, hus, hproperties⟩ := isProperties_of_readProperties heq
        simp only [tokens_cons, hus]
        exact .mk kind name hproperties
      · cases h
    · cases h
  · cases h

/-- What is read is derivable from all of the tokens. -/
theorem isComponent_of_readComponent {ts : List Lexeme} {c : Component}
    (h : readComponent ts = .ok c) : IsComponent (tokens ts) c.declaration := by
  simp only [readComponent] at h
  split at h
  · exact isComponent_of_readNamed h
  · exact isComponent_of_readNamed h
  · cases h

end SceneFactory.Markup
