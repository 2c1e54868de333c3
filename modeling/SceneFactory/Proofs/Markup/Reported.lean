import Mathlib
import SceneFactory.Markup.Engine
import SceneFactory.Proofs.Markup.Places
import SceneFactory.Proofs.Markup.Stops

/-!
# Which syntax errors can be reported

An error at a token has the token's place. An error at the end of the source begins at the
end of the source and stops where the last token stops, which is before it as soon as
anything else comes behind the last token; such a span cannot be rendered. The main
statement (`compile_unreportable_iff`) says for exactly which sources this happens.
-/

set_option autoImplicit false

namespace SceneFactory.Markup

/-- The error stands at the end of a source in which something else comes behind the last
token. -/
def SyntaxError.IsBehindTokens (source : String) (e : SyntaxError) : Prop :=
  e.found = none ∧ lexemes source ≠ [] ∧ endsInToken source = false

/-! ## Places of errors -/

/-- No error is placed beyond the source, and its place starts before its end unless the
error stands behind tokens and more. -/
theorem span_of_parse_error {source : String} {e : SyntaxError}
    (h : parse source = .error e) :
    e.span.stop ≤ byteLength source.toList ∧
      (e.span.start ≤ e.span.stop ↔ ¬e.IsBehindTokens source) := by
  simp only [parse] at h
  split at h
  · cases h
  · rename_i stop hstop
    cases h
    have hsuffix := suffix_of_readComponent hstop
    rw [Stop.span, SyntaxError.IsBehindTokens]
    cases hrest : stop.rest with
    | cons t rest =>
      have hmem : t ∈ lexemes source := by
        apply hsuffix.mem
        rw [hrest]
        exact List.mem_cons_self
      obtain ⟨hle, hend⟩ := span_of_mem_lexemes hmem
      refine ⟨hend, ⟨?_, fun _ => hle⟩⟩
      rintro - ⟨hfound, -⟩
      cases hfound
    | nil =>
      cases hlast : (lexemes source).getLast? with
      | none =>
        have hempty : lexemes source = [] := List.getLast?_eq_none_iff.1 hlast
        refine ⟨Nat.le_refl _, ⟨?_, fun _ => Nat.le_refl _⟩⟩
        rintro - ⟨-, hne, -⟩
        exact hne hempty
      | some t =>
        have hmem : t ∈ lexemes source := List.mem_of_getLast? hlast
        have hne : lexemes source ≠ [] := List.ne_nil_of_mem hmem
        have hend := (span_of_mem_lexemes hmem).2
        have hiff := stop_getLast_lexemes hlast
        refine ⟨hend, ?_⟩
        constructor
        · rintro hle ⟨-, -, hnot⟩
          have heq : t.span.stop = byteLength source.toList := Nat.le_antisymm hend hle
          rw [hiff.1 heq] at hnot
          cases hnot
        · intro hbehind
          cases hends : endsInToken source with
          | true => exact Nat.le_of_eq (hiff.2 hends).symm
          | false => exact absurd ⟨rfl, hne, hends⟩ hbehind

/-! ## Compiling -/

/-- A compile has nothing to report its error with iff the error's span is reversed. -/
theorem compile_eq_unreportable_iff (uri source : String) :
    compile uri source = .error (.unreportable uri) ↔
      ∃ e, parse source = .error e ∧ e.span.stop < e.span.start := by
  rw [compile]
  cases hparse : parse source with
  | ok component =>
    constructor
    · intro h
      dsimp only at h
      split at h <;> cases h
    · rintro ⟨e, he, -⟩
      cases he
  | error e =>
    have hrender := Report.render?_isSome uri source e.diagnostic
    change (Report.render? uri source e.diagnostic).isSome = true ↔
      e.span.start ≤ e.span.stop at hrender
    dsimp only
    cases hr : Report.render? uri source e.diagnostic with
    | some report =>
      rw [hr] at hrender
      have hle := hrender.1 rfl
      constructor
      · intro h
        cases h
      · rintro ⟨e', he, hlt⟩
        cases he
        exact absurd hle (Nat.not_le_of_lt hlt)
    | none =>
      rw [hr] at hrender
      refine ⟨fun _ => ⟨e, rfl, ?_⟩, fun _ => rfl⟩
      apply Nat.lt_of_not_le
      intro hle
      cases hrender.2 hle

/-- What a pending compile comes to is what compiling its source comes to. -/
theorem Engine.outcome_eq_unreportable_iff {pending : PendingCompile} {source : String}
    (h : pending.source = .ok source) :
    outcome pending = .failed (.unreportable pending.uri) ↔
      Markup.compile pending.uri source = .error (.unreportable pending.uri) := by
  have hbind : pending.source.bind (Markup.compile pending.uri) =
      Markup.compile pending.uri source := by
    rw [h]
    rfl
  rw [outcome, hbind]
  cases Markup.compile pending.uri source with
  | ok component =>
    constructor <;> intro heq <;> cases heq
  | error e =>
    constructor <;> intro heq <;> cases heq <;> rfl

/-- A pending compile that is finished settles its template. -/
theorem Engine.get?_finish (engine : Engine) {pending : PendingCompile} {t : Template}
    (h : engine.templates.get? pending.template = some t) :
    (engine.finish pending).templates.get? pending.template =
      some ⟨t.uri, outcome pending⟩ := by
  change (engine.templates.modify pending.template _).get? pending.template = _
  rw [Numbered.get?_modify, if_pos rfl, h]
  rfl

/-- The span of an error is reversed iff the error stands behind tokens and more. -/
theorem exists_reversed_iff (source : String) :
    (∃ e, parse source = .error e ∧ e.span.stop < e.span.start) ↔
      ∃ e, parse source = .error e ∧ e.IsBehindTokens source := by
  constructor
  · rintro ⟨e, he, hlt⟩
    refine ⟨e, he, Classical.byContradiction fun hnot => ?_⟩
    exact absurd ((span_of_parse_error he).2.2 hnot) (Nat.not_le_of_lt hlt)
  · rintro ⟨e, he, hb⟩
    refine ⟨e, he, Nat.lt_of_not_le fun hle => ?_⟩
    exact (span_of_parse_error he).2.1 hle hb

/-- Finishing a pending compile has nothing to report its error with iff the error stands
behind tokens and more. -/
theorem Engine.finish_unreportable_iff (engine : Engine) {pending : PendingCompile}
    {t : Template} {source : String}
    (ht : engine.templates.get? pending.template = some t) (hsource : pending.source = .ok source) :
    (engine.finish pending).templates.get? pending.template =
        some ⟨t.uri, .failed (.unreportable pending.uri)⟩ ↔
      ∃ e, parse source = .error e ∧ e.IsBehindTokens source := by
  rw [engine.get?_finish ht, ← exists_reversed_iff, ← compile_eq_unreportable_iff pending.uri,
    ← outcome_eq_unreportable_iff hsource]
  constructor
  · intro heq
    exact congrArg Template.state (Option.some.inj heq)
  · intro heq
    rw [heq]

/-- For which sources there is no report. No error is placed beyond its source, and
an error's span is in order unless the error stands behind tokens and more. Exactly then
compiling ends without a report, and so do the engine's compiles, those that are finished
at once and those that are finished from a queue. -/
theorem compile_unreportable_iff (uri source : String) :
    (∀ e, parse source = .error e → e.span.stop ≤ byteLength source.toList ∧
        (e.span.start ≤ e.span.stop ↔ ¬e.IsBehindTokens source)) ∧
      (Markup.compile uri source = .error (.unreportable uri) ↔
        ∃ e, parse source = .error e ∧ e.IsBehindTokens source) ∧
      (∀ (engine : Engine) (mode : CompileMode), engine.source uri = .ok source →
        ¬(engine.deferred = true ∧ mode = .asynchronous) →
        ((engine.compile uri mode).2.templates.get? (engine.compile uri mode).1 =
            some ⟨uri, .failed (.unreportable uri)⟩ ↔
          ∃ e, parse source = .error e ∧ e.IsBehindTokens source)) ∧
      (∀ (engine : Engine) (pending : PendingCompile) (t : Template),
        engine.templates.get? pending.template = some t → pending.uri = uri →
        pending.source = .ok source →
        ((engine.finish pending).templates.get? pending.template =
            some ⟨t.uri, .failed (.unreportable uri)⟩ ↔
          ∃ e, parse source = .error e ∧ e.IsBehindTokens source)) := by
  refine ⟨fun e he => span_of_parse_error he, ?_, ?_, ?_⟩
  · exact (compile_eq_unreportable_iff uri source).trans (exists_reversed_iff source)
  · intro engine mode hsource hnow
    -- a compile that is not deferred finishes what it has just begun
    let pending : PendingCompile := ⟨engine.templates.next, uri, engine.source uri⟩
    have hbegun : (engine.begin uri).templates.get? pending.template = some ⟨uri, .loading⟩ :=
      engine.templates.get?_push_self _
    have hread : pending.source = .ok source := hsource
    have hdirect := (engine.begin uri).finish_unreportable_iff hbegun hread
    simp only [Engine.compile]
    rw [if_neg hnow]
    exact hdirect
  · rintro engine pending t ht rfl hsource
    exact engine.finish_unreportable_iff ht hsource

/-- An open brace and a blank behind it: the span of the error is reversed, and there is
no report. -/
theorem unreportable_of_open_brace :
    parse "item A \x7b " = .error ⟨⟨9, 8⟩, none,
        [.token (.keyword .required), .token (.keyword .property), .token (.mark .braceClose)]⟩ ∧
      Markup.compile "a" "item A \x7b " = .error (.unreportable "a") := by
  have hlexemes : lexemes "item A \x7b " =
      [⟨.keyword .item, ⟨0, 4⟩⟩, ⟨.ident "A", ⟨5, 6⟩⟩, ⟨.mark .braceOpen, ⟨7, 8⟩⟩] := by
    decide +kernel
  have hparse : parse "item A \x7b " = .error ⟨⟨9, 8⟩, none,
      [.token (.keyword .required), .token (.keyword .property),
        .token (.mark .braceClose)]⟩ := by
    rw [parse, hlexemes]
    cbv
  refine ⟨hparse, ?_⟩
  rw [Markup.compile, hparse]
  rfl

end SceneFactory.Markup
