import SceneFactory.Proofs.Template.Requests

/-!
# One compile for each URI

A cache is used in any order: templates are requested with an engine or without, URIs are evicted,
the cache is cleared, and the templates' statuses change meanwhile (`TemplateCache.Use`). The
compiles of a run are counted by an engine that writes them down, which makes no other difference
(`TemplateCache.Tally.request_eq`).

A handle carries the number of handles that were kept before it, so what is kept later can be told
from it. Whether two requests for a URI get one handle is therefore decided by what happens in
between: a use that does not forget the URI leaves the handle where it is
(`TemplateCache.Tally.get?_after_of_keeping`), and once it is forgotten every handle that comes in
its place is younger (`TemplateCache.Tally.lt_of_forgetting`).

Main statement: `TemplateCache.memoized`.
-/

set_option autoImplicit false

namespace SceneFactory.TemplateCache

variable {τ σ : Type}

/-! ## Uses of a cache -/

/-- What can be done to a cache, or to the templates in it. -/
inductive Use (τ σ : Type) where
  /-- Asks for the template of a URI, with an engine or without one. -/
  | request (compile? : Option (String → CompileMode → σ → τ × σ)) (uri : String)
  | evict (uri : String)
  | clear
  /-- Changes the state of the host, and the statuses of templates with it. -/
  | change (next : σ → σ)

namespace Use

/-- Whether a use is about a URI. -/
def Concerns (uri : String) : Use τ σ → Prop
  | .request _ other | .evict other => other = uri
  | .clear => True
  | .change _ => False

/-- Whether a use makes a cache forget a URI. -/
def Forgets (uri : String) : Use τ σ → Prop
  | .evict other => other = uri
  | .clear => True
  | .request _ _ | .change _ => False

end Use

/-- An engine that writes its compiles down. -/
def recorded (compile : String → CompileMode → σ → τ × σ) (uri : String) (mode : CompileMode)
    (s : σ × List (String × CompileMode)) : τ × σ × List (String × CompileMode) :=
  let (template, state) := compile uri mode s.1
  (template, state, s.2 ++ [(uri, mode)])

/-- A cache, the state of its host, and what was compiled so far, in order. -/
structure Tally (τ σ : Type) where
  cache : TemplateCache τ
  state : σ
  compiles : List (String × CompileMode)

namespace Tally

/-- A new cache. -/
def start (base : String) (mode : CompileMode) (s : σ) : Tally τ σ := ⟨.new base mode, s, []⟩

section Steps

variable (status : τ → σ → CompileStatus) (t : Tally τ σ)

/-- A request, whose compile is written down if there is one. -/
def request (compile? : Option (String → CompileMode → σ → τ × σ)) (uri : String) :
    Except FactoryError (TemplateHandle τ) × Tally τ σ :=
  let (answer, cache, state, compiles) :=
    t.cache.getOrCreate (fun template s => status template s.1) (compile?.map recorded) uri
      (t.state, t.compiles)
  (answer, ⟨cache, state, compiles⟩)

/-- One use of the cache. -/
def perform : Use τ σ → Tally τ σ
  | .request compile? uri => (t.request status compile? uri).2
  | .evict uri => ⟨t.cache.evict uri, t.state, t.compiles⟩
  | .clear => ⟨t.cache.clear, t.state, t.compiles⟩
  | .change next => ⟨t.cache, next t.state, t.compiles⟩

/-- Several uses, one after the other. -/
def after (uses : List (Use τ σ)) : Tally τ σ := uses.foldl (fun t use => t.perform status use) t

/-! ## One use -/

variable (compile? : Option (String → CompileMode → σ → τ × σ)) (uri : String)

/-- Writing the compiles down makes no other difference, and there is one iff nothing is held
and an engine is given. -/
theorem request_eq :
    t.request status compile? uri =
      let plain := t.cache.getOrCreate status compile? uri t.state
      (plain.1, ⟨plain.2.1, plain.2.2, t.compiles ++
        if t.cache.get? uri = none ∧ compile?.isSome = true then [(uri, t.cache.mode)]
        else []⟩) := by
  rw [request]
  cases hget : t.cache.get? uri with
  | some handle =>
    rw [getOrCreate_of_get? _ _ _ hget, getOrCreate_of_get? _ _ _ hget]
    simp
  | none =>
    cases compile? with
    | none =>
      rw [Option.map_none, getOrCreate_of_unbound _ hget, getOrCreate_of_unbound _ hget]
      simp
    | some compile =>
      simp only [getOrCreate, hget, Option.map_some, recorded]
      cases status (compile uri t.cache.mode t.state).1 (compile uri t.cache.mode t.state).2 <;>
        simp

variable {uri}

/-- What a request does for a URI that is held. -/
theorem request_of_get? {handle : TemplateHandle τ} (hget : t.cache.get? uri = some handle) :
    t.request status compile? uri = (.ok handle, t) := by
  rw [request_eq, getOrCreate_of_get? _ _ _ hget, hget]
  simp

/-- What a request does without an engine for a URI that is not held. -/
theorem request_of_unbound (hget : t.cache.get? uri = none) :
    t.request status none uri = (.error .engineNotBound, t) := by
  rw [request_eq, getOrCreate_of_unbound _ hget]
  simp

/-- The tally behind a compile. -/
def compiled (compile : String → CompileMode → σ → τ × σ) (uri : String)
    (cache : TemplateCache τ) : Tally τ σ :=
  ⟨cache, (compile uri t.cache.mode t.state).2, t.compiles ++ [(uri, t.cache.mode)]⟩

variable (compile : String → CompileMode → σ → τ × σ)

/-- What a request does if its compile fails at once. -/
theorem request_of_failing (hget : t.cache.get? uri = none) {detail : String}
    (hstatus : status (compile uri t.cache.mode t.state).1
      (compile uri t.cache.mode t.state).2 = .failed detail) :
    t.request status (some compile) uri =
      (.error (.compileFailed uri detail), t.compiled compile uri t.cache) := by
  rw [request_eq, getOrCreate_of_failing _ _ hget hstatus, hget]
  rfl

/-- What a request does if its compile does not fail at once. -/
theorem request_of_compiling (hget : t.cache.get? uri = none)
    (hstatus : ∀ detail, status (compile uri t.cache.mode t.state).1
      (compile uri t.cache.mode t.state).2 ≠ .failed detail) :
    t.request status (some compile) uri =
      let kept := t.cache.keep uri (compile uri t.cache.mode t.state).1
      (.ok kept.1, t.compiled compile uri kept.2) := by
  rw [request_eq, getOrCreate_of_compiling _ _ hget hstatus, hget]
  rfl

/-- What a request compiles is kept unless it fails at once. -/
theorem request_of_compile (hget : t.cache.get? uri = none) :
    let compiled := compile uri t.cache.mode t.state
    let made := t.request status (some compile) uri
    made.2.state = compiled.2 ∧
      (∀ detail, status compiled.1 compiled.2 = .failed detail →
        made.1 = .error (.compileFailed uri detail) ∧ made.2.cache = t.cache) ∧
      ((∀ detail, status compiled.1 compiled.2 ≠ .failed detail) →
        ∃ handle, made.1 = .ok handle ∧ handle.template = compiled.1 ∧
          handle.uri = uri ∧ made.2.cache.get? uri = some handle) := by
  intro compiled made
  by_cases hfails : ∃ detail, status compiled.1 compiled.2 = .failed detail
  · obtain ⟨detail, hstatus⟩ := hfails
    have hmade : made = _ := t.request_of_failing status compile hget hstatus
    rw [hmade]
    refine ⟨rfl, ?_, fun hnot => absurd hstatus (hnot detail)⟩
    intro detail' hstatus'
    cases hstatus.symm.trans hstatus'
    exact ⟨rfl, rfl⟩
  · have hstatus := not_exists.1 hfails
    have hmade : made = _ := t.request_of_compiling status compile hget hstatus
    rw [hmade]
    refine ⟨rfl, fun detail h => absurd h (hstatus detail), ?_⟩
    intro _
    exact ⟨_, rfl, rfl, rfl, (get?_keep _ _ _ _).trans (if_pos rfl)⟩

/-- What a use does to a cache: it does nothing, forgets, or keeps a new handle for a URI of
which none is held. -/
theorem perform_cases (use : Use τ σ) :
    ((t.perform status use).cache = t.cache ∧ ∀ uri, ¬use.Forgets uri) ∨
      (∃ uri, use = .evict uri ∧ (t.perform status use).cache = t.cache.evict uri) ∨
      (use = .clear ∧ (t.perform status use).cache = t.cache.clear) ∨
      ∃ compile? uri template, use = .request compile? uri ∧ t.cache.get? uri = none ∧
        (t.perform status use).cache = (t.cache.keep uri template).2 := by
  cases use with
  | evict uri => exact .inr (.inl ⟨uri, rfl, rfl⟩)
  | clear => exact .inr (.inr (.inl ⟨rfl, rfl⟩))
  | change next => exact .inl ⟨rfl, fun _ => not_false⟩
  | request compile? uri =>
    rw [perform]
    cases hget : t.cache.get? uri with
    | some handle =>
      rw [t.request_of_get? status compile? hget]
      exact .inl ⟨rfl, fun _ => not_false⟩
    | none =>
      cases compile? with
      | none =>
        rw [t.request_of_unbound status hget]
        exact .inl ⟨rfl, fun _ => not_false⟩
      | some compile =>
        cases hstatus : status (compile uri t.cache.mode t.state).1
            (compile uri t.cache.mode t.state).2 with
        | failed detail =>
          rw [t.request_of_failing status compile hget hstatus]
          exact .inl ⟨rfl, fun _ => not_false⟩
        | _ =>
          rw [t.request_of_compiling status compile hget (by simp [hstatus])]
          exact .inr (.inr (.inr ⟨_, uri, _, rfl, hget, rfl⟩))

end Steps

/-! ## What a use leaves alone -/

section Frame

variable {status : τ → σ → CompileStatus} {t : Tally τ σ} {uri : String}

/-- A use leaves alone what it is not about. -/
theorem get?_perform_of_unconcerned {use : Use τ σ} (h : ¬use.Concerns uri) :
    (t.perform status use).cache.get? uri = t.cache.get? uri := by
  rcases t.perform_cases status use with
    ⟨heq, -⟩ | ⟨other, rfl, heq⟩ | ⟨rfl, -⟩ | ⟨_, other, template, rfl, -, heq⟩
  · rw [heq]
  · have hne : other ≠ uri := h
    rw [heq, get?_evict, if_neg hne]
  · exact absurd trivial h
  · have hne : other ≠ uri := h
    rw [heq, get?_keep, if_neg hne]

/-- What a use forgets is not held any more. -/
theorem get?_perform_of_forgetting {use : Use τ σ} (h : use.Forgets uri) :
    (t.perform status use).cache.get? uri = none := by
  cases use with
  | evict other =>
    have heq : other = uri := h
    rw [perform, get?_evict, if_pos heq]
  | clear => rfl
  | _ => exact absurd h not_false

/-- What is held stays where it is until it is forgotten. -/
theorem get?_perform_of_keeping {use : Use τ σ} (h : ¬use.Forgets uri)
    {handle : TemplateHandle τ} (hget : t.cache.get? uri = some handle) :
    (t.perform status use).cache.get? uri = some handle := by
  rcases t.perform_cases status use with
    ⟨heq, -⟩ | ⟨other, rfl, heq⟩ | ⟨rfl, -⟩ | ⟨_, other, template, rfl, hnone, heq⟩
  · rw [heq, hget]
  · have hne : other ≠ uri := h
    rw [heq, get?_evict, if_neg hne, hget]
  · exact absurd trivial h
  · have hne : other ≠ uri := by
      rintro rfl
      rw [hnone] at hget
      cases hget
    rw [heq, get?_keep, if_neg hne, hget]

theorem get?_after_of_keeping {uses : List (Use τ σ)} (h : ∀ use ∈ uses, ¬use.Forgets uri)
    {handle : TemplateHandle τ} (hget : t.cache.get? uri = some handle) :
    (t.after status uses).cache.get? uri = some handle :=
  List.foldlRecOn (motive := fun t : Tally τ σ => t.cache.get? uri = some handle) uses _ hget
    fun _ hget use hmem => get?_perform_of_keeping (h use hmem) hget

end Frame

end Tally

/-! ## Runs -/

/-- What holds of a cache at any time: how it compiles does not change, handles are held under
their own URIs, and they are older than the next one. -/
structure IsKept (mode : CompileMode) (cache : TemplateCache τ) : Prop where
  mode : cache.mode = mode
  filed : cache.IsFiled
  older : ∀ uri handle, cache.get? uri = some handle → handle.serial < cache.issued

/-- A URI gets no handle any more that is older than a given one. -/
structure IsSince (serial : Nat) (uri : String) (cache : TemplateCache τ) : Prop where
  issued : serial ≤ cache.issued
  younger : ∀ handle, cache.get? uri = some handle → serial ≤ handle.serial

section Kept

variable {mode : CompileMode} {cache : TemplateCache τ} (h : cache.IsKept mode)

include h

theorem IsKept.evict (uri : String) : (cache.evict uri).IsKept mode where
  mode := h.mode
  filed := h.filed.evict uri
  older other handle hget := h.older other handle (get?_of_evict hget)

theorem IsKept.clear : cache.clear.IsKept mode where
  mode := h.mode
  filed := .clear
  older other handle hget := by cases hget

theorem IsKept.keep (uri : String) (template : τ) : (cache.keep uri template).2.IsKept mode where
  mode := h.mode
  filed := h.filed.keep uri template
  older other handle hget := by
    rcases get?_of_keep hget with ⟨-, rfl⟩ | hheld
    · exact Nat.lt_succ_self _
    · exact Nat.lt_succ_of_lt (h.older other handle hheld)

end Kept

section Since

variable {serial : Nat} {uri : String} {cache : TemplateCache τ} (h : cache.IsSince serial uri)

include h

theorem IsSince.evict (other : String) : (cache.evict other).IsSince serial uri where
  issued := h.issued
  younger handle hget := h.younger handle (get?_of_evict hget)

theorem IsSince.clear : cache.clear.IsSince serial uri where
  issued := h.issued
  younger handle hget := by cases hget

theorem IsSince.keep (other : String) (template : τ) :
    (cache.keep other template).2.IsSince serial uri where
  issued := Nat.le_succ_of_le h.issued
  younger handle hget := by
    rcases get?_of_keep hget with ⟨-, rfl⟩ | hheld
    · exact h.issued
    · exact h.younger handle hheld

end Since

namespace Tally

variable {status : τ → σ → CompileStatus} {t : Tally τ σ}

/-- What forgetting keeps and keeping a handle, a run keeps. -/
theorem after_preserves {P : TemplateCache τ → Prop}
    (hevict : ∀ cache uri, P cache → P (cache.evict uri))
    (hclear : ∀ cache, P cache → P cache.clear)
    (hkeep : ∀ cache uri template, P cache → P (cache.keep uri template).2) (h : P t.cache)
    (uses : List (Use τ σ)) : P (t.after status uses).cache := by
  refine List.foldlRecOn (motive := fun t : Tally τ σ => P t.cache) uses _ h ?_
  intro t h use _
  rcases t.perform_cases status use with
    ⟨heq, -⟩ | ⟨uri, -, heq⟩ | ⟨-, heq⟩ | ⟨_, uri, template, -, -, heq⟩
  · rw [heq]
    exact h
  · rw [heq]
    exact hevict t.cache uri h
  · rw [heq]
    exact hclear t.cache h
  · rw [heq]
    exact hkeep t.cache uri template h

theorem isKept_after_start (base : String) (mode : CompileMode) (s : σ) (uses : List (Use τ σ)) :
    ((start base mode s).after status uses).cache.IsKept mode :=
  after_preserves (fun _ uri h => h.evict uri) (fun _ h => h.clear)
    (fun _ uri template h => h.keep uri template) ⟨rfl, nofun, nofun⟩ uses

theorem isSince_after {serial : Nat} {uri : String} (h : t.cache.IsSince serial uri)
    (uses : List (Use τ σ)) : (t.after status uses).cache.IsSince serial uri :=
  after_preserves (fun _ other h => h.evict other) (fun _ h => h.clear)
    (fun _ other template h => h.keep other template) h uses

theorem le_issued_after {n : Nat} (h : n ≤ t.cache.issued) (uses : List (Use τ σ)) :
    n ≤ (t.after status uses).cache.issued :=
  after_preserves (P := fun cache => n ≤ cache.issued) (fun _ _ h => h) (fun _ h => h)
    (fun _ _ _ h => Nat.le_succ_of_le h) h uses

/-! ## Two requests for one URI -/

variable {uri : String} {handle handle' : TemplateHandle τ}
  {compile? compile'? : Option (String → CompileMode → σ → τ × σ)}

/-- A handle that is handed out is held under the URI that was asked for. -/
theorem get?_of_request (h : (t.request status compile? uri).1 = .ok handle) :
    (t.request status compile? uri).2.cache.get? uri = some handle := by
  cases hget : t.cache.get? uri with
  | some held =>
    rw [t.request_of_get? status compile? hget] at h ⊢
    cases h
    exact hget
  | none =>
    cases compile? with
    | none =>
      rw [t.request_of_unbound status hget] at h
      cases h
    | some compile =>
      obtain ⟨-, hfailed, hkept⟩ := t.request_of_compile status compile hget
      obtain ⟨held, hheld, -, -, hafter⟩ := hkept fun detail hstatus => by
        rw [(hfailed detail hstatus).1] at h
        cases h
      rw [hheld] at h
      cases h
      exact hafter

/-- A URI that is not forgotten is asked for in vain: the handle is the one that is held. -/
theorem eq_of_keeping {between : List (Use τ σ)} (hget : t.cache.get? uri = some handle)
    (hkeeps : ∀ use ∈ between, ¬use.Forgets uri)
    (h : ((t.after status between).request status compile'? uri).1 = .ok handle') :
    handle = handle' := by
  rw [request_of_get? _ _ _ (get?_after_of_keeping hkeeps hget)] at h
  cases h
  rfl

/-- Once a URI is forgotten, the next handle for it is younger than all before. -/
theorem lt_of_forgetting {between : List (Use τ σ)} {serial : Nat}
    (hserial : serial < t.cache.issued) (hforgets : ∃ use ∈ between, use.Forgets uri)
    (h : ((t.after status between).request status compile'? uri).1 = .ok handle') :
    serial < handle'.serial := by
  obtain ⟨use, hmem, hforgets⟩ := hforgets
  obtain ⟨before, behind, rfl⟩ := List.append_of_mem hmem
  -- where nothing is held, every serial from here on is beyond what has been issued
  have hforgotten : ((t.after status before).perform status use).cache.IsSince
      (serial + 1) uri := by
    refine ⟨le_issued_after (le_issued_after hserial before) [use], ?_⟩
    intro held hget
    rw [get?_perform_of_forgetting hforgets] at hget
    cases hget
  have hafter : t.after status (before ++ use :: behind) =
      ((t.after status before).perform status use).after status behind :=
    List.foldl_append
  rw [hafter] at h
  have hsince : (Tally.after status ((t.after status before).perform status use)
      (behind ++ [.request compile'? uri])).cache.IsSince (serial + 1) uri :=
    isSince_after hforgotten _
  rw [after, List.foldl_append] at hsince
  exact hsince.younger handle' (get?_of_request h)

/-- Two requests for one URI get one handle iff it is not forgotten in between, and the serials
of handles tell. -/
theorem same_iff {mode : CompileMode} (hkept : t.cache.IsKept mode) {between : List (Use τ σ)}
    (hget : t.cache.get? uri = some handle)
    (h : ((t.after status between).request status compile'? uri).1 = .ok handle') :
    (handle = handle' ↔ ∀ use ∈ between, ¬use.Forgets uri) ∧
      (handle = handle' ↔ handle.serial = handle'.serial) := by
  by_cases hforgets : ∃ use ∈ between, use.Forgets uri
  · have hlt := lt_of_forgetting (hkept.older uri handle hget) hforgets h
    have hne : handle ≠ handle' := by
      rintro rfl
      exact Nat.lt_irrefl _ hlt
    obtain ⟨use, hmem, hforgets⟩ := hforgets
    exact ⟨iff_of_false hne fun hkeeps => hkeeps use hmem hforgets, iff_of_false hne hlt.ne⟩
  · have hkeeps : ∀ use ∈ between, ¬use.Forgets uri := by
      intro use hmem hforgotten
      exact hforgets ⟨use, hmem, hforgotten⟩
    have heq := eq_of_keeping hget hkeeps h
    exact ⟨iff_of_true heq hkeeps, iff_of_true heq (congrArg _ heq)⟩

/-- A handle is got again iff it is held all the time. -/
theorem eq_iff_held {between : List (Use τ σ)} (hget : t.cache.get? uri = some handle)
    (hsame : handle = handle' ↔ ∀ use ∈ between, ¬use.Forgets uri)
    (h : ((t.after status between).request status compile'? uri).1 = .ok handle') :
    handle = handle' ↔
      ∀ k, (t.after status (between.take k)).cache.get? uri = some handle := by
  constructor
  · intro heq k
    exact get?_after_of_keeping (fun use hmem => hsame.1 heq use (List.mem_of_mem_take hmem)) hget
  · intro hheld
    have hend := hheld between.length
    rw [List.take_length] at hend
    rw [request_of_get? _ _ _ hend] at h
    cases h
    rfl

end Tally

/-- Each URI is compiled once for as long as it is not forgotten, in every run of a new cache
and for every URI. At any time:

* every handle is held under its own URI;
* a request answers as the cache does without a record of compiles. It hands out what is held and
  changes nothing; without an engine it reports that and changes nothing; otherwise it compiles
  once, in the cache's mode, and this is the only case in which anything is compiled. A compile that
  has failed already is reported with its detail, and the cache stays the same; any other is handed
  out under the URI and held from then on;
* nothing else compiles, a use changes nothing for a URI that it is not about, and evicting or
  clearing are what makes a cache forget;
* two requests that succeed get the same handle iff the URI is not forgotten in between, which is
  to say that the handle is held all the time, and handles are the same if their serials are. -/
theorem memoized (status : τ → σ → CompileStatus) (base : String) (mode : CompileMode) (s : σ)
    (uses : List (Use τ σ)) (uri : String) :
    let tally := (Tally.start base mode s).after status uses
    (∀ other handle, tally.cache.get? other = some handle → handle.uri = other) ∧
      (∀ compile?,
        let made := tally.request status compile? uri
        let plain := tally.cache.getOrCreate status compile? uri tally.state
        (made.1, made.2.cache, made.2.state) = plain ∧
          (∀ handle, tally.cache.get? uri = some handle → made = (.ok handle, tally)) ∧
          (tally.cache.get? uri = none → compile? = none →
            made = (.error .engineNotBound, tally)) ∧
          made.2.compiles = tally.compiles ++
            (if tally.cache.get? uri = none ∧ compile?.isSome = true then [(uri, mode)] else []) ∧
          ∀ compile, tally.cache.get? uri = none → compile? = some compile →
            let compiled := compile uri mode tally.state
            made.2.state = compiled.2 ∧
              (∀ detail, status compiled.1 compiled.2 = .failed detail →
                made.1 = .error (.compileFailed uri detail) ∧ made.2.cache = tally.cache) ∧
              ((∀ detail, status compiled.1 compiled.2 ≠ .failed detail) →
                ∃ handle, made.1 = .ok handle ∧ handle.template = compiled.1 ∧
                  handle.uri = uri ∧ made.2.cache.get? uri = some handle)) ∧
      (∀ use : Use τ σ,
        let next := tally.perform status use
        ((∀ compile? other, use ≠ .request compile? other) → next.compiles = tally.compiles) ∧
          (∀ other, ¬use.Concerns other →
            next.cache.get? other = tally.cache.get? other) ∧
          (∀ other, use.Forgets other → next.cache.get? other = none) ∧
          ∀ other handle, ¬use.Forgets other → tally.cache.get? other = some handle →
            next.cache.get? other = some handle) ∧
      ∀ compile? compile'? (between : List (Use τ σ)) handle handle',
        let first := tally.request status compile? uri
        let second := (first.2.after status between).request status compile'? uri
        first.1 = .ok handle → second.1 = .ok handle' →
          (handle = handle' ↔ ∀ use ∈ between, ¬use.Forgets uri) ∧
            (handle = handle' ↔
              ∀ k, (first.2.after status (between.take k)).cache.get? uri = some handle) ∧
            (handle = handle' ↔ handle.serial = handle'.serial) := by
  intro tally
  have hkept : tally.cache.IsKept mode := Tally.isKept_after_start base mode s uses
  refine ⟨hkept.filed, ?_, ?_, ?_⟩
  · intro compile? made plain
    have hmade : made = _ := tally.request_eq status compile? uri
    refine ⟨by rw [hmade], fun handle hget => tally.request_of_get? status compile? hget, ?_, ?_,
      ?_⟩
    · rintro hget rfl
      exact tally.request_of_unbound status hget
    · rw [hmade, hkept.mode]
    · rintro compile hget rfl
      have hcompile := tally.request_of_compile status compile hget
      rwa [hkept.mode] at hcompile
  · intro use next
    refine ⟨?_, fun _ => Tally.get?_perform_of_unconcerned,
      fun _ => Tally.get?_perform_of_forgetting, fun _ _ h => Tally.get?_perform_of_keeping h⟩
    intro hnot
    cases use with
    | request compile? other => exact absurd rfl (hnot compile? other)
    | _ => rfl
  · intro compile? compile'? between handle handle' first second hfirst hsecond
    have hheld : first.2.cache.get? uri = some handle := Tally.get?_of_request hfirst
    have hkeptFirst : first.2.cache.IsKept mode := by
      have hrun : ((Tally.start base mode s).after status
          (uses ++ [.request compile? uri])).cache.IsKept mode :=
        Tally.isKept_after_start base mode s _
      rwa [Tally.after, List.foldl_append] at hrun
    obtain ⟨hsame, hserial⟩ := Tally.same_iff hkeptFirst hheld hsecond
    exact ⟨hsame, Tally.eq_iff_held hheld hsame hsecond, hserial⟩

end SceneFactory.TemplateCache
