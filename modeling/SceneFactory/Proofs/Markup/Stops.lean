import SceneFactory.Markup.Parse

/-!
# Where reading stops

Reading takes tokens from the front, so what is left of them, after a reading or where
reading stopped, is a suffix of the tokens (`suffix_of_readComponent`). An error therefore
stands at one of the tokens of the source or behind all of them.
-/

set_option autoImplicit false

namespace SceneFactory.Markup

/-- What is left of some tokens, whether or not the reading succeeds, is a suffix of
them. -/
def Leaves {α : Type} {ts : List Lexeme} : Except Stop (Reading α ts) → Prop
  | .ok r => r.rest <:+ ts
  | .error stop => stop.rest <:+ ts

theorem suffix_cons_of {t : Lexeme} {us ts : List Lexeme} (h : us <:+ ts) : us <:+ t :: ts :=
  h.trans (List.suffix_cons t ts)

/-! ## Expressions -/

theorem leaves_readExpr {n : Nat}
    (hitems : ∀ ts : List Lexeme, ts.length < n → Leaves (readItems ts)) {ts : List Lexeme}
    (hlength : ts.length ≤ n) : Leaves (readExpr ts) := by
  unfold readExpr
  split
  all_goals first
    | exact List.suffix_cons _ _
    | exact suffix_cons_of (List.suffix_cons _ _)
    | exact List.suffix_refl _
    | skip
  rename_i span rest
  have hrest := hitems rest (Nat.lt_of_succ_le hlength)
  split
  · rename_i stop heq
    rw [heq] at hrest
    exact suffix_cons_of hrest
  · rename_i items stop after h heq
    rw [heq] at hrest
    exact suffix_cons_of hrest

theorem leaves_readItems {n : Nat}
    (hexpr : ∀ ts : List Lexeme, ts.length ≤ n → Leaves (readExpr ts))
    (hitems : ∀ ts : List Lexeme, ts.length < n → Leaves (readItems ts)) {ts : List Lexeme}
    (hlength : ts.length ≤ n) : Leaves (readItems ts) := by
  have hitem := hexpr ts hlength
  unfold readItems
  split
  · exact List.suffix_cons _ _
  · split
    · rename_i stop heq
      rw [heq] at hitem
      split <;> exact hitem
    · rename_i item rest h heq
      rw [heq] at hitem
      split
      · exact (List.suffix_cons _ _).trans hitem
      · rename_i span more h
        have hmore := hitems more (Nat.lt_of_lt_of_le (Nat.lt_trans shorter_cons h) hlength)
        split
        · rename_i stop heq'
          rw [heq'] at hmore
          exact (suffix_cons_of hmore).trans hitem
        · rename_i items stop after h' heq'
          rw [heq'] at hmore
          exact (suffix_cons_of hmore).trans hitem
      · exact hitem

/-- Reading an expression, or the items of a list, leaves a suffix. -/
theorem leaves_reading (n : Nat) : ∀ ts : List Lexeme, ts.length ≤ n →
    Leaves (readExpr ts) ∧ Leaves (readItems ts) := by
  induction n using Nat.strongRecOn with
  | ind n ih =>
    have hitems : ∀ ts : List Lexeme, ts.length < n → Leaves (readItems ts) :=
      fun ts hts => (ih ts.length hts ts (Nat.le_refl _)).2
    have hexpr : ∀ ts : List Lexeme, ts.length ≤ n → Leaves (readExpr ts) :=
      fun ts hts => leaves_readExpr hitems hts
    intro ts hts
    exact ⟨hexpr ts hts, leaves_readItems hexpr hitems hts⟩

/-! ## Properties and components -/

theorem leaves_readPropertyTail (start : Nat) (required : Bool) (ts : List Lexeme) :
    Leaves (readPropertyTail start required ts) := by
  simp only [readPropertyTail]
  split
  · rename_i rest
    have hinit := (leaves_reading rest.length rest (Nat.le_refl _)).1
    split
    · rename_i stop heq
      rw [heq] at hinit
      exact suffix_cons_of (suffix_cons_of hinit)
    · rename_i init after h heq
      rw [heq] at hinit
      exact suffix_cons_of (suffix_cons_of hinit)
  · exact List.suffix_cons _ _
  · exact List.suffix_refl _

/-- A reading of a tail leaves a suffix of the whole. -/
theorem Leaves.weaken {α : Type} {ts us : List Lexeme} {result : Except Stop (Reading α us)}
    (h : Leaves result) (hus : us <:+ ts) (hlength : us.length ≤ ts.length) :
    Leaves (result.map fun r => r.weaken hlength) := by
  cases result with
  | error stop => exact List.IsSuffix.trans h hus
  | ok r => exact List.IsSuffix.trans h hus

theorem leaves_readProperty (ts : List Lexeme) : Leaves (readProperty ts) := by
  simp only [readProperty]
  split
  · exact (leaves_readPropertyTail _ _ _).weaken (suffix_cons_of (List.suffix_cons _ _)) _
  · exact List.suffix_cons _ _
  · exact (leaves_readPropertyTail _ _ _).weaken (List.suffix_cons _ _) _
  · exact List.suffix_refl _

/-- Where reading properties ends, a suffix is left. -/
theorem suffix_of_readProperties (colon : Bool) (ts : List Lexeme) :
    match readProperties colon ts with
    | .ok (_, rest) => rest <:+ ts
    | .error stop => stop.rest <:+ ts := by
  fun_induction readProperties colon ts with
  | case1 => exact List.suffix_cons _ _
  | case2 colon ts hclose stop heq hlength =>
    have hproperty := leaves_readProperty ts
    rw [heq] at hproperty
    exact hproperty
  | case3 colon ts hclose stop heq hlength =>
    have hproperty := leaves_readProperty ts
    rw [heq] at hproperty
    exact hproperty
  | case4 colon ts hclose property rest h heq stop hrest ih =>
    have hproperty := leaves_readProperty ts
    rw [heq] at hproperty
    rw [hrest] at ih
    exact List.IsSuffix.trans ih hproperty
  | case5 colon ts hclose property rest h heq properties after hrest ih =>
    have hproperty := leaves_readProperty ts
    rw [heq] at hproperty
    rw [hrest] at ih
    exact List.IsSuffix.trans ih hproperty

theorem suffix_of_readNamed (kind : ComponentKind) (ts : List Lexeme) {stop : Stop}
    (h : readComponent.readNamed kind ts = .error stop) : stop.rest <:+ ts := by
  simp only [readComponent.readNamed] at h
  split at h
  · split at h
    · rename_i body
      have hbody := suffix_of_readProperties false body
      split at h
      · rename_i heq
        rw [heq] at hbody
        cases h
        exact suffix_cons_of (suffix_cons_of hbody)
      · cases h
      · rename_i heq
        rw [heq] at hbody
        cases h
        exact suffix_cons_of (suffix_cons_of hbody)
    · cases h
      exact List.suffix_cons _ _
  · cases h
    exact List.suffix_refl _

/-- Where reading stops, a suffix of the tokens is left. -/
theorem suffix_of_readComponent {ts : List Lexeme} {stop : Stop}
    (h : readComponent ts = .error stop) : stop.rest <:+ ts := by
  simp only [readComponent] at h
  split at h
  · exact suffix_cons_of (suffix_of_readNamed _ _ h)
  · exact suffix_cons_of (suffix_of_readNamed _ _ h)
  · cases h
    exact List.suffix_refl _

end SceneFactory.Markup
