import SceneFactory.Proofs.Template.Requests

/-!
# Templates along a run

Whatever operation a session carries out, it does one of three things to the templates that
its factory holds: it leaves them alone, or it is one request for a template, which waits or
does not (`Factory.Handling`); and tearing down forgets them all. `Session.handling_perform`
says so once, and what a run keeps follows from the requests alone: every handle is kept under
its own URI (`Session.isFiled_after`), a factory without an engine holds nothing
(`Session.isIdleUnbound_after`), and what is held for a URI is never replaced
(`Factory.Handling.get?`).
-/

set_option autoImplicit false

namespace SceneFactory

variable {H : Host}

/-- The second factory has the engine and the templates of the first. -/
structure Factory.SameTemplates (f f' : Factory H) : Prop where
  engine? : f'.engine? = f.engine?
  cache : f'.cache = f.cache

/-- What an operation that tears nothing down does to the engine and the templates of a factory,
the host being in a given state. -/
inductive Factory.Handling (state : H.State) (f f' : Factory H) : Prop where
  /-- Templates are no concern of the operation, but for an engine that it may bind. -/
  | idle (engine : f'.engine? = f.engine? ∨ f'.engine?.isSome = true) (cache : f'.cache = f.cache)
  /-- A request is made that does not wait. -/
  | asking (shop : Workshop H) (same : f.SameTemplates shop.factory)
      (state : shop.world.state = state) (identifier : String)
      (after : (shop.template identifier).2.factory.SameTemplates f')
  /-- A request is made that waits. -/
  | awaiting (shop : Workshop H) (same : f.SameTemplates shop.factory)
      (state : shop.world.state = state) (container? : Option ContainerId) (identifier : String)
      (after : (shop.readyTemplate container? identifier).2.factory.SameTemplates f')

namespace Factory

variable {state : H.State} {f f' f'' : Factory H}

theorem SameTemplates.refl (f : Factory H) : f.SameTemplates f := ⟨rfl, rfl⟩

theorem SameTemplates.trans (h : f.SameTemplates f') (h' : f'.SameTemplates f'') :
    f.SameTemplates f'' :=
  ⟨h'.engine?.trans h.engine?, h'.cache.trans h.cache⟩

theorem SameTemplates.handling (h : f.SameTemplates f') : f.Handling state f' :=
  .idle (Or.inl h.engine?) h.cache

end Factory

/-! ## What each operation does -/

namespace Workshop

variable (shop : Workshop H)

theorem sameTemplates_construct (handle : TemplateHandle H.Template) (container : ContainerId)
    (contextual direct : Attributes) (ownership : Ownership) :
    shop.factory.SameTemplates
      (shop.construct handle container contextual direct ownership).2.factory := by
  rw [construct]
  split
  · exact .refl _
  · cases ownership <;> exact ⟨rfl, rfl⟩

theorem sameTemplates_constructEach (handle : TemplateHandle H.Template)
    (container : ContainerId) (key : String) (base : Attributes) (ownership : Ownership)
    (values : List Value) :
    shop.factory.SameTemplates
      (constructEach handle container key base ownership values shop).2.factory := by
  refine constructEach_induction (P := fun next => shop.factory.SameTemplates next.factory) ?_
    values (.refl _)
  intro next direct h
  exact h.trans (next.sameTemplates_construct handle container .empty direct ownership)

/-- A creation is one request that waits, if it asks for a template at all. -/
theorem handling_create (container? : Option ContainerId) (identifier : String)
    (contextual direct : Attributes) (ownership : Ownership) :
    shop.factory.Handling shop.world.state
      (shop.create container? identifier contextual direct ownership).2.factory := by
  cases container? with
  | none => exact (Factory.SameTemplates.refl _).handling
  | some container =>
    refine .awaiting shop.flush.2 ⟨rfl, rfl⟩ rfl (some container) identifier ?_
    simp only [create]
    cases shop.flush.2.readyTemplate (some container) identifier with
    | mk result next =>
      cases result with
      | error e => exact .refl _
      | ok handle => exact next.sameTemplates_construct handle container _ _ ownership

theorem handling_createMany (key : String) (values : List Value)
    (container? : Option ContainerId) (identifier : String) (base : Attributes)
    (ownership : Ownership) :
    shop.factory.Handling shop.world.state
      (shop.createMany key values container? identifier base ownership).2.factory := by
  cases container? with
  | none => exact (Factory.SameTemplates.refl _).handling
  | some container =>
    simp only [createMany]
    split
    · exact (Factory.SameTemplates.refl _).handling
    · refine .awaiting shop.flush.2 ⟨rfl, rfl⟩ rfl (some container) identifier ?_
      cases shop.flush.2.readyTemplate (some container) identifier with
      | mk result next =>
        cases result with
        | error e => exact .refl _
        | ok handle =>
          exact next.sameTemplates_constructEach handle container key base ownership values

end Workshop

/-- Whether an operation tears the factory down and leaves it there. -/
def Operation.tearsDown : Operation H → Bool
  | .teardown => true
  | _ => false

namespace Session

variable (s : Session H)

/-- What every factory does at work, that of a session does. -/
theorem handling_atWork {work : Workshop H → Outcome H × Workshop H} {f' : Factory H}
    (hf' : (s.atWork work).2.factory? = some f')
    (hwork : ∀ shop : Workshop H, shop.factory.Handling shop.world.state (work shop).2.factory) :
    ∃ f, s.factory? = some f ∧ f.Handling s.world.state f' := by
  rw [atWork] at hf'
  cases hf : s.factory? with
  | none =>
    rw [hf] at hf'
    cases hf.symm.trans hf'
  | some f =>
    rw [hf] at hf'
    cases hf'
    exact ⟨f, rfl, hwork ⟨f, s.world⟩⟩

/-- What an operation does to the templates of a factory: it handles them, or it tears the
factory down, which forgets them and unbinds the engine. -/
theorem handling_perform (op : Operation H) {f' : Factory H}
    (hf' : (s.perform op).2.factory? = some f') :
    ∃ f, s.factory? = some f ∧
      ((op.tearsDown = true ∧ f'.engine? = none ∧ f'.cache = f.cache.clear) ∨
        (op.tearsDown = false ∧ f.Handling s.world.state f')) := by
  change (s.carryOut op).2.factory? = some f' at hf'
  by_cases hdown : op.tearsDown = true
  · cases op with
    | teardown =>
      change (s.atWork fun shop => (.nothing, shop.teardown)).2.factory? = some f' at hf'
      rw [atWork] at hf'
      cases hf : s.factory? with
      | none =>
        rw [hf] at hf'
        cases hf.symm.trans hf'
      | some f =>
        rw [hf] at hf'
        cases hf'
        exact ⟨f, rfl, Or.inl ⟨rfl, rfl, rfl⟩⟩
    | _ => cases hdown
  · suffices hhandled : ∃ f, s.factory? = some f ∧ f.Handling s.world.state f' by
      obtain ⟨f, hf, hhandling⟩ := hhandled
      exact ⟨f, hf, Or.inr ⟨Bool.eq_false_iff.2 hdown, hhandling⟩⟩
    have hsame : ∀ f : Factory H, f.Handling s.world.state f :=
      fun f => (Factory.SameTemplates.refl f).handling
    cases op with
    | bind engine => exact s.handling_atWork hf' fun _ => .idle (Or.inr rfl) rfl
    | template identifier =>
      exact s.handling_atWork hf' fun shop => .asking shop (.refl _) rfl identifier (.refl _)
    | readyTemplate container? identifier =>
      exact s.handling_atWork hf' fun shop =>
        .awaiting shop (.refl _) rfl container? identifier (.refl _)
    | create container? identifier contextual direct ownership =>
      obtain ⟨ids, heq⟩ := s.carryOut_create container? identifier contextual direct ownership
      rw [heq] at hf'
      exact s.handling_atWork hf' fun shop => shop.handling_create _ _ _ _ _
    | createMany key values container? identifier base ownership =>
      obtain ⟨ids, heq⟩ :=
        s.carryOut_createMany key values container? identifier base ownership
      rw [heq] at hf'
      exact s.handling_atWork hf' fun shop => shop.handling_createMany _ _ _ _ _ _
    | destroy i => exact s.handling_atWork hf' fun _ => .idle (Or.inl rfl) rfl
    | destroyAll ids => exact s.handling_atWork hf' fun _ => .idle (Or.inl rfl) rfl
    | flush => exact s.handling_atWork hf' fun _ => .idle (Or.inl rfl) rfl
    | teardown => exact absurd rfl hdown
    | dropFactory =>
      rw [carryOut, Session.dropFactory] at hf'
      cases hf : s.factory? with
      | none =>
        rw [hf] at hf'
        cases hf.symm.trans hf'
      | some f =>
        rw [hf] at hf'
        cases hf'
    | setRootContext name value => exact s.handling_atWork hf' fun _ => .idle (Or.inl rfl) rfl
    | holdContext i =>
      simp only [carryOut] at hf'
      split at hf' <;> exact ⟨f', hf', hsame f'⟩
    | _ => exact ⟨f', hf', hsame f'⟩

end Session

/-! ## Handles under their own URIs -/

/-- Whatever is done to templates, handles stay under their own URIs. -/
theorem Factory.Handling.isFiled {state : H.State} {f f' : Factory H} (h : f.Handling state f')
    (hfiled : f.cache.IsFiled) : f'.cache.IsFiled := by
  cases h with
  | idle _ hcache =>
    rw [hcache]
    exact hfiled
  | asking shop hsame _ identifier hafter =>
    rw [hafter.cache]
    rw [← hsame.cache] at hfiled
    exact shop.isFiled_template hfiled identifier
  | awaiting shop hsame _ container? identifier hafter =>
    rw [hafter.cache]
    rw [← hsame.cache] at hfiled
    exact (shop.readyTemplate_factory hfiled container? identifier).2.2.2

namespace Session

variable {s : Session H}

/-- The factory, if it is there, keeps every handle under its own URI. -/
def IsFiled (s : Session H) : Prop := ∀ f, s.factory? = some f → f.cache.IsFiled

theorem isFiled_start (config : Config) (state : H.State) : (start config state).IsFiled := by
  intro f hf
  cases hf
  intro uri handle hget
  cases hget

/-- Every operation keeps handles under their own URIs. -/
theorem IsFiled.perform (h : s.IsFiled) (op : Operation H) : (s.perform op).2.IsFiled := by
  intro f' hf'
  obtain ⟨f, hf, ⟨-, -, hcache⟩ | ⟨-, hhandling⟩⟩ := s.handling_perform op hf'
  · rw [hcache]
    exact TemplateCache.IsFiled.clear
  · exact hhandling.isFiled (h f hf)

theorem isFiled_after (config : Config) (state : H.State) (ops : List (Operation H)) :
    ((start config state).after ops).IsFiled :=
  (start config state).after_induction (P := Session.IsFiled) ops (fun _ op _ h => h.perform op)
    (isFiled_start config state)

end Session

/-! ## Nothing without an engine -/

theorem TemplateCache.get?_of_size_zero {τ : Type} {cache : TemplateCache τ}
    (h : cache.size = 0) (uri : String) : cache.get? uri = none := by
  have hentries : cache.entries.entries = [] := List.length_eq_zero_iff.1 h
  rw [get?, Assoc.get?, hentries]
  rfl

/-- A factory to which no engine is bound holds no template. -/
def Factory.IsIdleUnbound (f : Factory H) : Prop := f.engine? = none → f.cache.size = 0

namespace Factory.IsIdleUnbound

variable {shop : Workshop H} (h : shop.factory.IsIdleUnbound)

include h

/-- Without an engine a request that does not wait finds nothing and changes nothing. -/
theorem template_of_unbound (hunbound : shop.factory.engine? = none) (identifier : String) :
    shop.template identifier = (.error .engineNotBound, shop) := by
  have hnone := TemplateCache.get?_of_size_zero (h hunbound) (shop.factory.resolve identifier)
  rcases shop.template_cases identifier with
    ⟨handle, hheld, -⟩ | ⟨-, -, heq⟩ | ⟨engine, -, hengine, -⟩
  · rw [hnone] at hheld
    cases hheld
  · exact heq
  · rw [hunbound] at hengine
    cases hengine

/-- Without an engine at hand a request that waits changes nothing either. -/
theorem readyTemplate_of_unbound {container? : Option ContainerId}
    (hunbound : (shop.bindFrom container?).factory.engine? = none) (identifier : String) :
    shop.readyTemplate container? identifier = (.error .engineNotBound, shop) := by
  have hengine := hunbound
  rw [shop.engine?_bindFrom, Option.or_eq_none_iff] at hengine
  have hsame : shop.bindFrom container? = shop := by
    obtain ⟨⟨config, engine?, cache, tracker, rootContext⟩, world⟩ := shop
    obtain ⟨hnone, hcontainer⟩ := hengine
    cases hnone
    simp only [Workshop.bindFrom, hcontainer]
    rfl
  have hget := TemplateCache.get?_of_size_zero (h hengine.1) (shop.factory.resolve identifier)
  rw [shop.readyTemplate_of_unbound container? identifier hget hunbound, hsame]

end Factory.IsIdleUnbound

/-- Whatever is done to templates, a factory without an engine holds none. -/
theorem Factory.Handling.isIdleUnbound {state : H.State} {f f' : Factory H}
    (h : f.Handling state f') (hfiled : f.cache.IsFiled) (hidle : f.IsIdleUnbound) :
    f'.IsIdleUnbound := by
  intro hunbound
  cases h with
  | idle hengine hcache =>
    rw [hcache]
    rcases hengine with hengine | hbound
    · exact hidle (hengine.symm.trans hunbound)
    · rw [hunbound] at hbound
      cases hbound
  | asking shop hsame _ identifier hafter =>
    have hshop : shop.factory.IsIdleUnbound := by
      rw [IsIdleUnbound, hsame.engine?, hsame.cache]
      exact hidle
    -- a request does not unbind, so there was no engine before
    have hbefore : shop.factory.engine? = none := hafter.engine?.symm.trans hunbound
    rw [hafter.cache, hshop.template_of_unbound hbefore]
    exact hshop hbefore
  | awaiting shop hsame _ container? identifier hafter =>
    have hshop : shop.factory.IsIdleUnbound := by
      rw [IsIdleUnbound, hsame.engine?, hsame.cache]
      exact hidle
    rw [← hsame.cache] at hfiled
    obtain ⟨hengine, -⟩ := shop.readyTemplate_factory hfiled container? identifier
    have hathand := hengine.symm.trans (hafter.engine?.symm.trans hunbound)
    have hbefore := hathand
    rw [shop.engine?_bindFrom, Option.or_eq_none_iff] at hbefore
    rw [hafter.cache, hshop.readyTemplate_of_unbound hathand]
    exact hshop hbefore.1

/-- A factory to which no engine is bound holds no template, in any run. -/
theorem Session.isIdleUnbound_after (config : Config) (state : H.State)
    (ops : List (Operation H)) :
    ∀ f, ((start config state).after ops).factory? = some f → f.IsIdleUnbound := by
  suffices hboth : ((start config state).after ops).IsFiled ∧
      ∀ f, ((start config state).after ops).factory? = some f → f.IsIdleUnbound from hboth.2
  refine (start config state).after_induction
    (P := fun s => s.IsFiled ∧ ∀ f, s.factory? = some f → f.IsIdleUnbound) ops ?_
    ⟨isFiled_start config state, ?_⟩
  · rintro s op - ⟨hfiled, h⟩
    refine ⟨hfiled.perform op, ?_⟩
    intro f' hf'
    obtain ⟨f, hf, ⟨-, -, hcache⟩ | ⟨-, hhandling⟩⟩ := s.handling_perform op hf'
    · intro _
      rw [hcache]
      rfl
    · exact hhandling.isIdleUnbound (hfiled f hf) (h f hf)
  · intro f hf _
    cases hf
    rfl

/-! ## What is held stays -/

namespace Factory.Handling

variable {state : H.State} {f f' : Factory H} (h : f.Handling state f')

include h

/-- What is held for a URI is never replaced: it stays, or it is forgotten, and then not
before it has failed. -/
theorem get? (hfiled : f.cache.IsFiled) {uri : String} {handle : TemplateHandle H.Template}
    (hget : f.cache.get? uri = some handle) :
    f'.cache.get? uri = some handle ∨
      (f'.cache.get? uri = none ∧ H.status handle.template state ≠ .ready) := by
  cases h with
  | idle _ hcache =>
    rw [hcache]
    exact Or.inl hget
  | asking shop hsame _ identifier hafter =>
    rw [← hsame.cache] at hget
    rw [hafter.cache]
    by_cases huri : uri = shop.factory.resolve identifier
    · rw [huri] at hget ⊢
      rw [shop.template_of_get? hget]
      exact Or.inl hget
    · rw [(shop.sameBut_template identifier).get? huri]
      exact Or.inl hget
  | awaiting shop hsame hstate container? identifier hafter =>
    rw [← hsame.cache] at hget hfiled
    rw [hafter.cache, ← hstate]
    by_cases huri : uri = shop.factory.resolve identifier
    · rw [huri] at hget ⊢
      exact shop.get?_readyTemplate_of_get? hfiled container? hget
    · obtain ⟨-, -, hbut, -⟩ := shop.readyTemplate_factory hfiled container? identifier
      rw [hbut.get? huri]
      exact Or.inl hget

end Factory.Handling

end SceneFactory
