import SceneFactory.Proofs.World.Change
import SceneFactory.Studio

/-!
# Runs of a session

A run is a list of operations carried out one after the other. This module names the
session that a run leads to (`Session.after`) and what was asked and answered on the way
(`Session.trace`), and says how both are put together from the runs of two parts.
-/

set_option autoImplicit false

namespace SceneFactory

/-- An operation with its answer. -/
abbrev Event (H : Host) := Operation H × Outcome H

namespace Session

variable {H : Host} (s : Session H)

/-- The session after some operations. -/
def after (ops : List (Operation H)) : Session H := (run ops s).2

/-- The operations of a run with their answers. -/
def trace (ops : List (Operation H)) : List (Event H) := ops.zip (run ops s).1

theorem after_cons (op : Operation H) (ops : List (Operation H)) :
    s.after (op :: ops) = (s.perform op).2.after ops := rfl

theorem after_append (ops more : List (Operation H)) :
    s.after (ops ++ more) = (s.after ops).after more := by
  induction ops generalizing s with
  | nil => rfl
  | cons op ops ih =>
    rw [List.cons_append, after_cons, after_cons]
    exact ih (s.perform op).2

/-- The session after one more operation. -/
theorem after_concat (ops : List (Operation H)) (op : Operation H) :
    s.after (ops ++ [op]) = ((s.after ops).perform op).2 :=
  s.after_append ops [op]

theorem trace_cons (op : Operation H) (ops : List (Operation H)) :
    s.trace (op :: ops) = (op, (s.perform op).1) :: (s.perform op).2.trace ops := rfl

theorem trace_append (ops more : List (Operation H)) :
    s.trace (ops ++ more) = s.trace ops ++ (s.after ops).trace more := by
  induction ops generalizing s with
  | nil => rfl
  | cons op ops ih =>
    rw [List.cons_append, trace_cons, trace_cons, List.cons_append, after_cons]
    exact congrArg _ (ih (s.perform op).2)

/-- The trace after one more operation. -/
theorem trace_concat (ops : List (Operation H)) (op : Operation H) :
    s.trace (ops ++ [op]) = s.trace ops ++ [(op, ((s.after ops).perform op).1)] :=
  s.trace_append ops [op]

/-- What every operation of a run preserves, the run preserves. -/
theorem after_induction {P : Session H → Prop} (ops : List (Operation H))
    (step : ∀ s, ∀ op ∈ ops, P s → P (s.perform op).2) (h : P s) : P (s.after ops) := by
  induction ops generalizing s with
  | nil => exact h
  | cons op ops ih =>
    rw [after_cons]
    refine ih (s.perform op).2 ?_ (step s op List.mem_cons_self h)
    intro t other hmem
    exact step t other (List.mem_cons_of_mem op hmem)

/-- Every operation of a run meets a condition in the session in which it is carried out. -/
def Throughout (P : Session H → Operation H → Prop) : Session H → List (Operation H) → Prop
  | _, [] => True
  | s, op :: ops => P s op ∧ Throughout P (s.perform op).2 ops

/-- What every operation that meets a condition preserves, a run in which all of them meet it
preserves. -/
theorem Throughout.induction {P : Session H → Operation H → Prop} {s : Session H}
    {ops : List (Operation H)} (h : s.Throughout P ops) {Q : Session H → Prop}
    (step : ∀ s op, P s op → Q s → Q (s.perform op).2) (hs : Q s) : Q (s.after ops) := by
  induction ops generalizing s with
  | nil => exact hs
  | cons op ops ih => exact ih h.2 (step s op h.1 hs)

/-- What holds throughout a run holds throughout its beginning. -/
theorem Throughout.of_append {P : Session H → Operation H → Prop} {s : Session H}
    {ops more : List (Operation H)} (h : s.Throughout P (ops ++ more)) : s.Throughout P ops := by
  induction ops generalizing s with
  | nil => exact trivial
  | cons op ops ih => exact ⟨h.1, ih h.2⟩

end Session

/-- A run in the studio: of three labels in one container the first is detached, destroyed
and released. -/
def Studio.labelRun : List (Operation studio) :=
  [.outside fun (s : Studio.State) => s.withScripted (s.scripted.add
      ⟨"/label", .ready, .visual, "", "Label", .empty, true, true, none, []⟩),
    .bind EngineName.scripted, .addContainer "root" none none,
    .create (some 1) "/label" .empty .empty .tracked,
    .create (some 1) "/label" .empty .empty .delegated,
    .detach 1 .free, .destroy 1,
    .create (some 1) "/label" .empty .empty .delegated]

end SceneFactory
