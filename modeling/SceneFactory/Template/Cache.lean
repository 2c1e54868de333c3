import SceneFactory.Assoc
import SceneFactory.FactoryError
import SceneFactory.Template.Identifier
import SceneFactory.Template.Status
import SceneFactory.Text.Quoted

/-!
# The template cache

Compiled templates by canonical URI. A template is compiled when it is first
asked for and handed out again from then on; a compile that has failed by the time
it is requested is reported and not kept. Handles carry a serial number, which
tells apart two compiles of the same URI.

Main statements: what is cached is handed out without a compile
(`getOrCreate_of_get?`), a failed compile leaves the cache as it was
(`getOrCreate_of_failed`), and other URIs are never touched
(`get?_getOrCreate_of_ne`).
-/

namespace SceneFactory

/-- A template under its canonical URI. Two handles of one cache are the same
handle if their serial numbers are. -/
structure TemplateHandle (τ : Type) where
  uri : String
  template : τ
  serial : Nat
deriving DecidableEq, Inhabited

/-- The written form of a handle for diagnostics, given its status. -/
def TemplateHandle.debugText {τ : Type} (handle : TemplateHandle τ) (status : CompileStatus) :
    String :=
  "TemplateHandle \x7b uri: " ++ Text.quoted handle.uri ++ ", status: " ++
    (match status with
      | .loading => "Loading"
      | .ready => "Ready"
      | .failed detail => "Error(" ++ Text.quoted detail ++ ")") ++ " \x7d"

/-- The templates compiled so far, by canonical URI. -/
structure TemplateCache (τ : Type) where
  /-- Put in front of relative identifiers. -/
  basePath : String
  /-- How templates are compiled. -/
  mode : CompileMode
  entries : Assoc String (TemplateHandle τ)
  /-- How many handles have been kept so far. -/
  issued : Nat
deriving Inhabited

namespace TemplateCache

variable {τ σ : Type}

/-- The cache without templates. -/
def new (basePath : String) (mode : CompileMode) : TemplateCache τ := ⟨basePath, mode, .empty, 0⟩

/-- The canonical URI of an identifier. -/
def resolve (cache : TemplateCache τ) (identifier : String) : String :=
  Template.resolve cache.basePath identifier

/-- The handle cached under a URI. -/
def get? (cache : TemplateCache τ) (uri : String) : Option (TemplateHandle τ) :=
  cache.entries.get? uri

/-- Whether a URI is cached. -/
def contains (cache : TemplateCache τ) (uri : String) : Bool := cache.entries.contains uri

/-- The number of cached templates. -/
def size (cache : TemplateCache τ) : Nat := cache.entries.size

/-- The cached URIs in ascending order. -/
def uris (cache : TemplateCache τ) : List String :=
  cache.entries.keys.mergeSort fun a b => decide (a ≤ b)

/-- Keeps a freshly compiled template under its URI. -/
def keep (cache : TemplateCache τ) (uri : String) (template : τ) :
    TemplateHandle τ × TemplateCache τ :=
  let handle : TemplateHandle τ := ⟨uri, template, cache.issued⟩
  (handle, ⟨cache.basePath, cache.mode, cache.entries.insert uri handle, cache.issued + 1⟩)

/-- Forgets a URI. -/
def evict (cache : TemplateCache τ) (uri : String) : TemplateCache τ :=
  ⟨cache.basePath, cache.mode, cache.entries.erase uri, cache.issued⟩

/-- Forgets all URIs. -/
def clear (cache : TemplateCache τ) : TemplateCache τ :=
  ⟨cache.basePath, cache.mode, .empty, cache.issued⟩

/-- The handle for a URI, compiled on first use. `compile?` compiles with the bound
engine, if there is one, in the state `s` of the host. -/
def getOrCreate (cache : TemplateCache τ) (status : τ → σ → CompileStatus)
    (compile? : Option (String → CompileMode → σ → τ × σ)) (uri : String) (s : σ) :
    Except FactoryError (TemplateHandle τ) × TemplateCache τ × σ :=
  match cache.get? uri with
  | some handle => (.ok handle, cache, s)
  | none =>
    match compile? with
    | none => (.error .engineNotBound, cache, s)
    | some compile =>
      let (template, s) := compile uri cache.mode s
      match status template s with
      -- not kept, so that the next request compiles again
      | .failed detail => (.error (.compileFailed uri detail), cache, s)
      | _ =>
        let (handle, cache) := cache.keep uri template
        (.ok handle, cache, s)

/-! ## Laws -/

section Laws

variable (cache : TemplateCache τ) (status : τ → σ → CompileStatus)
  (compile? : Option (String → CompileMode → σ → τ × σ))

@[simp] theorem get?_new (base : String) (mode : CompileMode) (uri : String) :
    (new base mode : TemplateCache τ).get? uri = none := rfl

@[simp] theorem get?_clear (uri : String) : cache.clear.get? uri = none := rfl

theorem get?_evict (uri other : String) :
    (cache.evict uri).get? other = if uri = other then none else cache.get? other :=
  cache.entries.get?_erase uri other

theorem get?_keep (uri other : String) (template : τ) :
    (cache.keep uri template).2.get? other =
      if uri = other then some (cache.keep uri template).1 else cache.get? other :=
  cache.entries.get?_insert uri other _

/-- A cached template is handed out again, without a compile. -/
theorem getOrCreate_of_get? {uri : String} {handle : TemplateHandle τ} {s : σ}
    (h : cache.get? uri = some handle) :
    cache.getOrCreate status compile? uri s = (.ok handle, cache, s) := by
  simp [getOrCreate, h]

/-- A request that fails leaves the cache as it was. -/
theorem getOrCreate_of_failed {uri : String} {s : σ} {e : FactoryError}
    (h : (cache.getOrCreate status compile? uri s).1 = .error e) :
    (cache.getOrCreate status compile? uri s).2.1 = cache := by
  unfold getOrCreate at *
  split
  · rfl
  · split
    · rfl
    · simp_all only
      split <;> simp_all

/-- A request for one URI touches no other. -/
theorem get?_getOrCreate_of_ne {uri other : String} {s : σ} (h : uri ≠ other) :
    (cache.getOrCreate status compile? uri s).2.1.get? other = cache.get? other := by
  unfold getOrCreate
  split
  · rfl
  · split
    · rfl
    · simp only
      split
      · rfl
      · simp [get?_keep, h]

end Laws

end TemplateCache

end SceneFactory
