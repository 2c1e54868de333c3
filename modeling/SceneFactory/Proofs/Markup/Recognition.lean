import SceneFactory.Proofs.Markup.Derivations

/-!
# What is derivable is read

From tokens that begin with a derivation, the reader takes exactly the tokens of the derivation
and reads what it derives, whatever follows. The induction is on the derivation, whose three kinds
of lists call each other.

Main statement: `parse_iff`. A source is read iff all of its tokens are derivable, and what is
read is the one thing that they derive.
-/

set_option autoImplicit false

namespace SceneFactory.Markup

theorem exists_of_tokens_cons {ts : List Lexeme} {t : Token} {us : List Token}
    (h : tokens ts = t :: us) : ∃ span rest, ts = ⟨t, span⟩ :: rest ∧ tokens rest = us := by
  obtain ⟨⟨_, span⟩, rest, rfl, rfl, rfl⟩ := List.map_eq_cons_iff.1 h
  exact ⟨span, rest, rfl, rfl⟩

/-! ## Expressions -/

/-- An expression does not begin with a closing bracket. -/
theorem not_bracketClose_of_readExpr {ts : List Lexeme} {r : Reading (Located Expr) ts}
    (h : readExpr ts = .ok r) (span : Span) (rest : List Lexeme) :
    ts ≠ ⟨.mark .bracketClose, span⟩ :: rest := by
  rintro rfl
  rw [readExpr] at h
  cases h
  all_goals simp

theorem readItems_last {ts after : List Lexeme} {item : Located Expr} {span : Span}
    {hlt : (⟨.mark .bracketClose, span⟩ :: after : List Lexeme).length < ts.length}
    (h : readExpr ts = .ok ⟨item, ⟨.mark .bracketClose, span⟩ :: after, hlt⟩) :
    readItems ts = .ok ⟨([item], span.stop), after, Nat.lt_trans shorter_cons hlt⟩ := by
  rw [readItems, h]
  exact not_bracketClose_of_readExpr h

theorem readItems_more {ts more after : List Lexeme} {item : Located Expr} {span : Span}
    {items : List (Located Expr)} {stop : Nat}
    {hlt : (⟨.mark .comma, span⟩ :: more : List Lexeme).length < ts.length}
    {hafter : after.length < more.length}
    (h : readExpr ts = .ok ⟨item, ⟨.mark .comma, span⟩ :: more, hlt⟩)
    (hmore : readItems more = .ok ⟨(items, stop), after, hafter⟩) :
    readItems ts = .ok ⟨(item :: items, stop), after,
      Nat.lt_trans hafter (Nat.lt_trans shorter_cons hlt)⟩ := by
  rw [readItems, h]
  · dsimp only
    rw [hmore]
  · exact not_bracketClose_of_readExpr h

theorem readExpr_list {rest after : List Lexeme} {span : Span} {items : List (Located Expr)}
    {stop : Nat} {hafter : after.length < rest.length}
    (h : readItems rest = .ok ⟨(items, stop), after, hafter⟩) :
    readExpr (⟨.mark .bracketOpen, span⟩ :: rest) =
      .ok ⟨⟨.list items, ⟨span.start, stop⟩⟩, after, Nat.lt_trans hafter shorter_cons⟩ := by
  rw [readExpr, h]

/-- From tokens that begin with those of a number the number is read. -/
theorem readExpr_of_isNumber {us vs : List Token} {value : Value} (h : IsNumber us value)
    {ts : List Lexeme} (hts : tokens ts = us ++ vs) :
    ∃ r, readExpr ts = .ok r ∧ tokens r.rest = vs ∧ r.node.node.bare = .literal value := by
  cases h with
  | int n =>
    obtain ⟨span, rest, rfl, hrest⟩ := exists_of_tokens_cons hts
    exact ⟨_, by rw [readExpr], hrest, by rw [Expr.bare]⟩
  | float x =>
    obtain ⟨span, rest, rfl, hrest⟩ := exists_of_tokens_cons hts
    exact ⟨_, by rw [readExpr], hrest, by rw [Expr.bare]⟩
  | negativeInt n =>
    obtain ⟨sign, middle, rfl, hmiddle⟩ := exists_of_tokens_cons hts
    obtain ⟨span, rest, rfl, hrest⟩ := exists_of_tokens_cons hmiddle
    exact ⟨_, by rw [readExpr], hrest, by rw [Expr.bare]⟩
  | negativeFloat x =>
    obtain ⟨sign, middle, rfl, hmiddle⟩ := exists_of_tokens_cons hts
    obtain ⟨span, rest, rfl, hrest⟩ := exists_of_tokens_cons hmiddle
    exact ⟨_, by rw [readExpr], hrest, by rw [Expr.bare]⟩

mutual

/-- From tokens that begin with those of an initializer the initializer is read, and the
others are left. -/
theorem readExpr_of_isInitializer : {us : List Token} → {init : Initializer} →
    IsInitializer us init → {ts : List Lexeme} → {vs : List Token} → tokens ts = us ++ vs →
      ∃ r, readExpr ts = .ok r ∧ tokens r.rest = vs ∧ r.node.node.bare = init
  | _, _, .string s, ts, vs, hts => by
    obtain ⟨span, rest, rfl, hrest⟩ := exists_of_tokens_cons hts
    exact ⟨_, by rw [readExpr], hrest, by rw [Expr.bare]⟩
  | _, _, .color s, ts, vs, hts => by
    obtain ⟨span, rest, rfl, hrest⟩ := exists_of_tokens_cons hts
    exact ⟨_, by rw [readExpr], hrest, by rw [Expr.bare]⟩
  | _, _, .trueWord, ts, vs, hts => by
    obtain ⟨span, rest, rfl, hrest⟩ := exists_of_tokens_cons hts
    exact ⟨_, by rw [readExpr], hrest, by rw [Expr.bare]⟩
  | _, _, .falseWord, ts, vs, hts => by
    obtain ⟨span, rest, rfl, hrest⟩ := exists_of_tokens_cons hts
    exact ⟨_, by rw [readExpr], hrest, by rw [Expr.bare]⟩
  | _, _, .nullWord, ts, vs, hts => by
    obtain ⟨span, rest, rfl, hrest⟩ := exists_of_tokens_cons hts
    exact ⟨_, by rw [readExpr], hrest, by rw [Expr.bare]⟩
  | _, _, .number h, ts, vs, hts => readExpr_of_isNumber h hts
  | _, _, .name n, ts, vs, hts => by
    obtain ⟨span, rest, rfl, hrest⟩ := exists_of_tokens_cons hts
    exact ⟨_, by rw [readExpr], hrest, by rw [Expr.bare]⟩
  | _, _, .list h, ts, vs, hts => by
    rw [List.cons_append, List.cons_append, List.append_assoc] at hts
    obtain ⟨span, rest, rfl, hrest⟩ := exists_of_tokens_cons hts
    obtain ⟨⟨⟨items, stop⟩, after, hafter⟩, hitems, hvs, hbare⟩ := readItems_of_isItems h hrest
    exact ⟨_, readExpr_list hitems, hvs, by rw [Expr.bare]; exact congrArg _ hbare⟩

/-- From tokens that begin with the items of a list and its closing bracket the items are
read. -/
theorem readItems_of_isItems : {us : List Token} → {items : List Initializer} →
    IsItems us items → {ts : List Lexeme} → {vs : List Token} →
      tokens ts = us ++ .mark .bracketClose :: vs →
        ∃ r, readItems ts = .ok r ∧ tokens r.rest = vs ∧ Expr.bareItems r.node.1 = items
  | _, _, .none, ts, vs, hts => by
    obtain ⟨span, rest, rfl, hrest⟩ := exists_of_tokens_cons hts
    exact ⟨_, by rw [readItems], hrest, Expr.bareItems_nil⟩
  | _, _, .some h, ts, vs, hts => readItems_of_isSequence h hts (Or.inl rfl)
  | _, _, .trailing h, ts, vs, hts => by
    rw [List.append_assoc] at hts
    exact readItems_of_isSequence h hts (Or.inr rfl)

/-- The closing bracket may come behind a comma. -/
theorem readItems_of_isSequence : {us : List Token} → {items : List Initializer} →
    IsSequence us items → {ts : List Lexeme} → {tail vs : List Token} → tokens ts = us ++ tail →
      tail = .mark .bracketClose :: vs ∨ tail = .mark .comma :: .mark .bracketClose :: vs →
        ∃ r, readItems ts = .ok r ∧ tokens r.rest = vs ∧ Expr.bareItems r.node.1 = items
  | _, _, .one h, ts, tail, vs, hts, htail => by
    obtain ⟨⟨item, rest, hlt⟩, hread, hrest, hbare⟩ := readExpr_of_isInitializer h hts
    rcases htail with rfl | rfl
    · obtain ⟨span, after, rfl, hafter⟩ := exists_of_tokens_cons hrest
      exact ⟨_, readItems_last hread, hafter, by simpa using hbare⟩
    · obtain ⟨comma, more, rfl, hmore⟩ := exists_of_tokens_cons hrest
      obtain ⟨span, after, rfl, hafter⟩ := exists_of_tokens_cons hmore
      have hclose : readItems (⟨.mark .bracketClose, span⟩ :: after) =
          .ok ⟨([], span.stop), after, shorter_cons⟩ := by rw [readItems]
      exact ⟨_, readItems_more hread hclose, hafter, by simpa using hbare⟩
  | _, _, .more h hmore, ts, tail, vs, hts, htail => by
    rw [List.append_assoc, List.cons_append] at hts
    obtain ⟨⟨item, rest, hlt⟩, hread, hrest, hbare⟩ := readExpr_of_isInitializer h hts
    obtain ⟨comma, more, rfl, hothers⟩ := exists_of_tokens_cons hrest
    obtain ⟨⟨⟨items, stop⟩, after, hafter⟩, hitems, hvs, hbares⟩ :=
      readItems_of_isSequence hmore hothers htail
    refine ⟨_, readItems_more hread hitems, hvs, ?_⟩
    rw [Expr.bareItems_cons, hbares]
    exact congrArg (· :: _) hbare

end

/-! ## Properties and components -/

/-- A property is read from its name on, if no colon follows it that is not its own. -/
theorem readPropertyTail_of_isInit {us vs : List Token} {init : Option Initializer}
    (h : IsInit us init) (start : Nat) (required : Bool) (name : String) {ts : List Lexeme}
    (hts : tokens ts = .ident name :: us ++ vs) (hcolon : vs.head? ≠ some (.mark .colon)) :
    ∃ r, readPropertyTail start required ts = .ok r ∧ tokens r.rest = vs ∧
      r.node.node.bare = ⟨name, required, init⟩ := by
  obtain ⟨span, rest, rfl, hrest⟩ := exists_of_tokens_cons hts
  cases h with
  | none =>
    change tokens rest = vs at hrest
    have hnot : ∀ colon after, rest ≠ ⟨.mark .colon, colon⟩ :: after := by
      rintro colon after rfl
      rw [← hrest] at hcolon
      exact hcolon rfl
    exact ⟨_, by rw [readPropertyTail]; exact hnot, hrest, rfl⟩
  | some hinit =>
    obtain ⟨colon, more, rfl, hmore⟩ := exists_of_tokens_cons hrest
    obtain ⟨r, hread, hvs, hbare⟩ := readExpr_of_isInitializer hinit hmore
    refine ⟨_, by rw [readPropertyTail, hread], hvs, ?_⟩
    rw [Property.bare]
    exact congrArg (fun init => PropertyDeclaration.mk name required (some init)) hbare

theorem readProperty_of_isProperty {us vs : List Token} {p : PropertyDeclaration}
    (h : IsProperty us p) {ts : List Lexeme} (hts : tokens ts = us ++ vs)
    (hcolon : vs.head? ≠ some (.mark .colon)) :
    ∃ r, readProperty ts = .ok r ∧ tokens r.rest = vs ∧ r.node.node.bare = p := by
  cases h with
  | optional name hinit =>
    obtain ⟨span, rest, rfl, hrest⟩ := exists_of_tokens_cons hts
    obtain ⟨r, hread, hvs, hbare⟩ :=
      readPropertyTail_of_isInit hinit span.start false name hrest hcolon
    exact ⟨_, by rw [readProperty, hread]; rfl, hvs, hbare⟩
  | required name hinit =>
    obtain ⟨span, middle, rfl, hmiddle⟩ := exists_of_tokens_cons hts
    obtain ⟨_, rest, rfl, hrest⟩ := exists_of_tokens_cons hmiddle
    obtain ⟨r, hread, hvs, hbare⟩ :=
      readPropertyTail_of_isInit hinit span.start true name hrest hcolon
    exact ⟨_, by rw [readProperty, hread]; rfl, hvs, hbare⟩

/-- Properties do not begin with a colon, nor with a closing brace. -/
theorem IsProperty.head? {us : List Token} {p : PropertyDeclaration} (h : IsProperty us p) :
    ∃ k rest, us = .keyword k :: rest := by
  cases h with
  | optional => exact ⟨_, _, rfl⟩
  | required => exact ⟨_, _, rfl⟩

/-- From the tokens of properties and a closing brace the properties are read. -/
theorem readProperties_of_isProperties {us : List Token} {ps : List PropertyDeclaration}
    (h : IsProperties us ps) : ∀ (colon : Bool) {ts : List Lexeme} {vs : List Token},
      tokens ts = us ++ .mark .braceClose :: vs →
        ∃ properties rest, readProperties colon ts = .ok (properties, rest) ∧ tokens rest = vs ∧
          (properties.map fun p => p.node.bare) = ps := by
  induction h with
  | nil =>
    intro colon ts vs hts
    obtain ⟨span, rest, rfl, hrest⟩ := exists_of_tokens_cons hts
    exact ⟨[], rest, by rw [readProperties], hrest, rfl⟩
  | @cons us₁ us₂ p ps hp hrest ih =>
    intro colon ts vs hts
    rw [List.append_assoc] at hts
    have hcolon : (us₂ ++ .mark .braceClose :: vs).head? ≠ some (.mark .colon) := by
      cases hrest with
      | nil => simp
      | cons hq =>
        obtain ⟨k, rest, rfl⟩ := hq.head?
        simp
    obtain ⟨⟨property, middle, hlt⟩, hread, hmiddle, hbare⟩ :=
      readProperty_of_isProperty hp hts hcolon
    obtain ⟨properties, rest, hothers, hvs, hbares⟩ := ih property.node.init.isNone hmiddle
    refine ⟨property :: properties, rest, ?_, hvs, ?_⟩
    · have hnot : ∀ span after, ts ≠ ⟨.mark .braceClose, span⟩ :: after := by
        rintro span after rfl
        obtain ⟨k, tail, rfl⟩ := hp.head?
        cases hts
      rw [readProperties, hread]
      · dsimp only
        rw [hothers]
      · exact hnot
    · rw [List.map_cons, hbares]
      exact congrArg (· :: _) hbare

/-- From the tokens of a component the component is read. -/
theorem readComponent_of_isComponent {ts : List Lexeme} {d : Declaration}
    (h : IsComponent (tokens ts) d) : ∃ c, readComponent ts = .ok c ∧ c.declaration = d := by
  generalize hts : tokens ts = us at h
  cases h with
  | mk kind name hproperties =>
    obtain ⟨kindSpan, rest, rfl, hrest⟩ := exists_of_tokens_cons hts
    obtain ⟨nameSpan, opened, rfl, hopened⟩ := exists_of_tokens_cons hrest
    obtain ⟨braceSpan, body, rfl, hbody⟩ := exists_of_tokens_cons hopened
    obtain ⟨properties, after, hread, hafter, hbares⟩ :=
      readProperties_of_isProperties hproperties false hbody
    cases after with
    | cons t after => cases hafter
    | nil =>
      refine ⟨⟨kind, ⟨name, nameSpan⟩, properties⟩, ?_, ?_⟩
      · cases kind with
        | item => simp only [ComponentKind.keyword, readComponent, readComponent.readNamed, hread]
        | object => simp only [ComponentKind.keyword, readComponent, readComponent.readNamed, hread]
      · rw [Component.declaration, hbares]

/-! ## Sources -/

theorem parse_eq_ok_iff (source : String) (c : Component) :
    parse source = .ok c ↔ readComponent (lexemes source) = .ok c := by
  simp only [parse]
  split
  · rename_i heq
    rw [heq, Except.ok.injEq, Except.ok.injEq]
  · rename_i heq
    rw [heq]
    exact ⟨nofun, nofun⟩

/-- Exactly what the grammar derives is read. For every source:

* a declaration is read from it, places aside, iff all of its tokens derive the declaration;
* they derive at most one;
* there is an error iff they derive none. -/
theorem parse_iff (source : String) :
    (∀ d, (∃ c, parse source = .ok c ∧ c.declaration = d) ↔
        IsComponent (tokens (lexemes source)) d) ∧
      (∀ d d', IsComponent (tokens (lexemes source)) d →
        IsComponent (tokens (lexemes source)) d' → d = d') ∧
      ((∃ e, parse source = .error e) ↔ ¬∃ d, IsComponent (tokens (lexemes source)) d) := by
  have hread : ∀ d, (∃ c, parse source = .ok c ∧ c.declaration = d) ↔
      IsComponent (tokens (lexemes source)) d := by
    intro d
    constructor
    · rintro ⟨c, hc, rfl⟩
      exact isComponent_of_readComponent ((parse_eq_ok_iff source c).1 hc)
    · intro h
      obtain ⟨c, hc, hd⟩ := readComponent_of_isComponent h
      exact ⟨c, (parse_eq_ok_iff source c).2 hc, hd⟩
  refine ⟨hread, ?_, ?_⟩
  · intro d d' h h'
    obtain ⟨c, hc, rfl⟩ := (hread d).2 h
    obtain ⟨c', hc', rfl⟩ := (hread d').2 h'
    cases hc.symm.trans hc'
    rfl
  · constructor
    · rintro ⟨e, he⟩ ⟨d, h⟩
      obtain ⟨c, hc, -⟩ := (hread d).2 h
      rw [hc] at he
      cases he
    · intro hnone
      cases hparse : parse source with
      | error e => exact ⟨e, rfl⟩
      | ok c => exact absurd ⟨c.declaration, (hread _).1 ⟨c, hparse, rfl⟩⟩ hnone

end SceneFactory.Markup
