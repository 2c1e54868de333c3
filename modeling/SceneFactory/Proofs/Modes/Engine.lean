import SceneFactory.Markup.Engine

/-!
# The markup engine in its two modes

With nothing else in the queue, a compile that is finished from the queue ends where a compile
ends that is finished at once: the two differ only in when the template is settled
(`Markup.Engine.compile_cases`).
-/

set_option autoImplicit false

namespace SceneFactory

namespace Markup.Engine

variable (engine : Engine) (uri : String)

theorem compile_synchronous :
    engine.compile uri .synchronous =
      (engine.templates.next,
        (engine.begin uri).finish ⟨engine.templates.next, uri, engine.source uri⟩) := by
  simp [compile]

/-- A run of a queue with one compile carries it out, whether or not it breaks off. -/
theorem runQueue_of_singleton {pending : PendingCompile}
    (h : engine.queue.tasks = [.mk pending []]) :
    engine.runQueue.2 = (engine.withQueue .empty).finish pending := by
  obtain ⟨roots, sources, files, deferred, ⟨tasks⟩, compiles, templates⟩ := engine
  subst h
  change (if breaksOff pending = true then _ else _ : List PendingCompile × Engine).2 = _
  split <;> rfl

/-- From an empty queue a compile comes to what it comes to at once, now or when the queue
runs; until then its template is loading. -/
theorem compile_cases (hqueue : engine.queue.tasks = []) (mode : CompileMode) :
    let now := engine.compile uri .synchronous
    let asked := engine.compile uri mode
    asked = now ∨
      (asked.1 = now.1 ∧ asked.2.verdict asked.1 = .loading ∧ asked.2.runQueue.2 = now.2) := by
  intro now asked
  by_cases hlater : engine.deferred = true ∧ mode = .asynchronous
  · refine Or.inr ?_
    have hasked : asked = _ := if_pos hlater
    rw [hasked]
    simp only [now]
    rw [compile_synchronous]
    obtain ⟨roots, sources, files, deferred, ⟨tasks⟩, compiles, templates⟩ := engine
    subst hqueue
    refine ⟨rfl, ?_, runQueue_of_singleton _ rfl⟩
    simp [verdict, withQueue, begin, TemplateState.verdict]
  · refine Or.inl ?_
    simp only [now]
    rw [compile_synchronous]
    exact if_neg hlater

/-- A compile that is finished at once is settled. -/
theorem verdict_compile_synchronous_ne :
    (engine.compile uri .synchronous).2.verdict (engine.compile uri .synchronous).1 ≠
      .loading := by
  rw [verdict_compile_of_now engine uri fun h => CompileMode.noConfusion h.2, outcome]
  split <;> exact CompileStatus.noConfusion

@[simp] theorem queue_compile_synchronous :
    (engine.compile uri .synchronous).2.queue = engine.queue := by
  rw [compile_synchronous]
  rfl

/-- A compile leaves the templates that are there alone. -/
theorem verdict_compile_of_ready {t : Nat} (h : engine.verdict t = .ready) :
    (engine.compile uri .synchronous).2.verdict t = .ready := by
  have hne : engine.templates.next ≠ t := by
    rintro rfl
    have hnone : engine.templates.get? engine.templates.next = none :=
      (engine.templates.get?_eq_none_iff _).2 (Or.inr (Nat.lt_succ_self _))
    rw [verdict, hnone] at h
    cases h
  rw [compile_synchronous]
  simp only [verdict, finish, withTemplates, begin] at h ⊢
  rw [Numbered.get?_modify, if_neg hne, Numbered.get?_push, if_neg (Ne.symm hne)]
  exact h

end Markup.Engine

end SceneFactory
