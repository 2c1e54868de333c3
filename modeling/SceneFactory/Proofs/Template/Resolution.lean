import SceneFactory.Proofs.Template.Runs

/-!
# When a canonical URI is its own canonical form

An identifier that is no full locator is put behind the base path. The result is a full locator
iff the base path is one, since the separator between them can stand in no scheme
(`Template.isAbsolute_resolve`). If it is none it is put behind the base path a second time, so
resolving twice is resolving once iff the identifier or the base path is a full locator, or there
is no base path (`Template.resolve_resolve_iff`).

A handle is held under a canonical URI, so two identifiers get one handle iff they have one
canonical URI (`Workshop.template_again_iff`). Main statement: `Session.same_handle_iff`, on
requests by an identifier and by its canonical URI.
-/

set_option autoImplicit false

namespace SceneFactory

/-! ## Resolving twice -/

namespace Template

variable {base identifier : String}

/-- The scheme test on the characters of an identifier. -/
theorem isAbsolute_eq {c : Char} {cs : List Char} (h : identifier.toList = c :: cs) :
    isAbsolute identifier = (c == '/' || c == '\\' ||
      ((c :: cs).contains ':' && isScheme ((c :: cs).takeWhile (· ≠ ':')))) := by
  rw [isAbsolute, h]

/-- A separator is no part of a scheme. -/
theorem isScheme_of_slash {cs : List Char} (h : '/' ∈ cs) : isScheme cs = false := by
  cases cs with
  | nil => cases h
  | cons c cs =>
    rw [isScheme, Bool.and_eq_false_iff]
    rcases List.mem_cons.1 h with rfl | h
    · exact Or.inl (by decide)
    · exact Or.inr (List.all_eq_false.2 ⟨'/', h, by decide⟩)

/-- What begins with a base path and a separator is a full locator iff the base path is one.
The separator may be the last character of the base path. -/
theorem isAbsolute_append {rest : String} (hbase : base ≠ "")
    (hslash : base.toList.getLast? = some '/' ∨ rest.toList.head? = some '/') :
    isAbsolute (base ++ rest) = isAbsolute base := by
  cases hcs : base.toList with
  | nil => exact absurd (String.toList_eq_nil_iff.1 hcs) hbase
  | cons c cs =>
    have happend : (base ++ rest).toList = c :: (cs ++ rest.toList) := by
      rw [String.toList_append, hcs]
      rfl
    rw [isAbsolute_eq happend, isAbsolute_eq hcs, ← List.cons_append]
    congr 1
    by_cases hcolon : ':' ∈ c :: cs
    · -- the scheme ends within the base path
      have hhead : ((c :: cs) ++ rest.toList).takeWhile (· ≠ ':') =
          (c :: cs).takeWhile (· ≠ ':') := by
        rw [List.takeWhile_append, if_neg]
        intro hall
        have hwhole := (List.takeWhile_prefix (· ≠ ':')).eq_of_length hall
        have hnone := List.takeWhile_eq_self_iff.1 hwhole ':' hcolon
        simp at hnone
      rw [hhead, List.contains_iff_mem.2 hcolon, List.contains_iff_mem.2
        (List.mem_append_left _ hcolon)]
    · have hself : (c :: cs).takeWhile (· ≠ ':') = c :: cs := by
        rw [List.takeWhile_eq_self_iff]
        intro d hd
        simpa using fun heq : d = ':' => hcolon (heq ▸ hd)
      have hscheme : isScheme (((c :: cs) ++ rest.toList).takeWhile (· ≠ ':')) = false := by
        apply isScheme_of_slash
        rw [List.takeWhile_append, if_pos (congrArg List.length hself)]
        rcases hslash with hlast | hfirst
        · rw [hcs] at hlast
          exact List.mem_append_left _ (List.mem_of_getLast? hlast)
        · obtain ⟨others, hothers⟩ := List.head?_eq_some_iff.1 hfirst
          rw [hothers, List.takeWhile_cons_of_pos (by decide)]
          exact List.mem_append_right _ List.mem_cons_self
      have hmissing : (c :: cs).contains ':' = false :=
        Bool.eq_false_iff.2 fun h => hcolon (List.contains_iff_mem.1 h)
      rw [hscheme, hmissing, Bool.and_false, Bool.false_and]

/-- What an identifier becomes that is put behind a base path. -/
theorem resolve_of_relative (hbase : base ≠ "") (h : isAbsolute identifier = false) :
    ∃ rest, resolve base identifier = base ++ rest ∧
      identifier.length ≤ rest.length ∧
      (base.toList.getLast? = some '/' ∨ rest.toList.head? = some '/') := by
  have hrelative : ¬(isAbsolute identifier = true ∨ base = "") := by
    rintro (habsolute | hempty)
    · rw [h] at habsolute
      cases habsolute
    · exact hbase hempty
  rw [resolve, if_neg hrelative]
  by_cases hends : Text.endsIn base '/' = true
  · rw [if_pos hends]
    exact ⟨identifier, rfl, Nat.le_refl _, Or.inl (by simpa [Text.endsIn] using hends)⟩
  · rw [if_neg hends]
    refine ⟨"/" ++ identifier, String.append_assoc, ?_, Or.inr ?_⟩
    · rw [String.length_append]
      exact Nat.le_add_left _ _
    · rw [String.toList_append]
      rfl

/-- What is put behind a base path is a full locator iff the base path is one. -/
theorem isAbsolute_resolve (hbase : base ≠ "") (h : isAbsolute identifier = false) :
    isAbsolute (resolve base identifier) = isAbsolute base := by
  obtain ⟨rest, heq, -, hslash⟩ := resolve_of_relative hbase h
  rw [heq]
  exact isAbsolute_append hbase hslash

/-- Resolving twice is resolving once iff the identifier or the base path is a full locator,
or there is no base path. -/
theorem resolve_resolve_iff (base identifier : String) :
    resolve base (resolve base identifier) = resolve base identifier ↔
      isAbsolute identifier = true ∨ isAbsolute base = true ∨ base = "" := by
  by_cases habsolute : isAbsolute identifier = true
  · have hself := resolve_of_isAbsolute base habsolute
    rw [hself, hself]
    exact iff_of_true rfl (Or.inl habsolute)
  by_cases hbase : base = ""
  · rw [hbase, resolve_empty, resolve_empty]
    exact iff_of_true rfl (Or.inr (Or.inr rfl))
  have hrelative := Bool.eq_false_iff.2 habsolute
  by_cases hfull : isAbsolute base = true
  · have hcanonical : isAbsolute (resolve base identifier) = true :=
      (isAbsolute_resolve hbase hrelative).trans hfull
    exact iff_of_true (resolve_of_isAbsolute base hcanonical) (Or.inr (Or.inl hfull))
  · -- the base path comes in front a second time, which makes the result longer
    refine iff_of_false ?_ ?_
    · have hcanonical := (isAbsolute_resolve hbase hrelative).trans (Bool.eq_false_iff.2 hfull)
      obtain ⟨rest, heq, hlonger, -⟩ := resolve_of_relative hbase hcanonical
      intro hsame
      have hlength := congrArg String.length (heq.symm.trans hsame)
      rw [String.length_append] at hlength
      have hpos : 0 < base.length := by
        rw [Nat.pos_iff_ne_zero]
        exact fun hzero => hbase (String.length_eq_zero_iff.1 hzero)
      omega
    · rintro (h | h | h)
      · exact habsolute h
      · exact hfull h
      · exact hbase h

-- A colon in the base path makes a full locator only where a scheme stands before it.
example : resolve "1st:/views" (resolve "1st:/views" "A") = "1st:/views/1st:/views/A" := by
  decide +kernel

end Template

/-! ## Asking twice -/

namespace Workshop

variable {H : Host} {shop next : Workshop H} {first second : String}
  {handle : TemplateHandle H.Template}

/-- Where a request has been made, identifiers mean what they meant. -/
theorem resolve_template (shop : Workshop H) (identifier other : String) :
    (shop.template identifier).2.factory.resolve other = shop.factory.resolve other :=
  congrArg (Template.resolve · other) (shop.sameBut_template identifier).basePath

/-- Two identifiers get one handle iff they have one canonical URI. -/
theorem template_again_iff (hfiled : shop.factory.cache.IsFiled)
    (h : shop.template first = (.ok handle, next)) :
    (next.template second).1 = .ok handle ↔
      shop.factory.resolve second = shop.factory.resolve first := by
  have hresolve : next.factory.resolve second = shop.factory.resolve second := by
    have hsame := shop.resolve_template first second
    rwa [h] at hsame
  have hkept := shop.isFiled_template hfiled first
  have hheld := shop.get?_of_template h
  rw [h] at hkept
  constructor
  · intro hagain
    -- the handle is held under both canonical URIs, and it has one of its own
    have hother := next.get?_of_template (Prod.ext hagain rfl)
    have hfiled' := next.isFiled_template hkept second
    rw [hresolve] at hother
    exact (hfiled' _ handle hother).symm.trans (hkept _ handle hheld)
  · intro hsame
    rw [← hsame, ← hresolve] at hheld
    rw [next.template_of_get? hheld]

/-- Where both have one canonical URI, the second request touches nothing. -/
theorem template_again_of_resolve (h : shop.template first = (.ok handle, next))
    (hsame : shop.factory.resolve second = shop.factory.resolve first) :
    next.template second = (.ok handle, next) := by
  have hresolve := shop.resolve_template first second
  have hheld := shop.get?_of_template h
  rw [h] at hresolve
  rw [← hsame, ← hresolve] at hheld
  exact next.template_of_get? hheld

end Workshop

/-- An identifier and its canonical URI get one handle, in either order and in every session,
iff resolving the canonical URI changes nothing; and that is so iff the identifier or the base
path is a full locator, or there is no base path. Then the second request changes nothing and
compiles nothing; otherwise it goes for another URI, which it compiles if nothing is held for
it. -/
theorem Session.same_handle_iff {H : Host} (config : Config) (state : H.State)
    (ops : List (Operation H)) {factory : Factory H}
    (hf : ((start config state).after ops).factory? = some factory) (identifier : String) :
    let shop : Workshop H := ⟨factory, ((start config state).after ops).world⟩
    let base := factory.cache.basePath
    let uri := factory.resolve identifier
    (factory.resolve uri = uri ↔ Template.isAbsolute identifier = true ∨
        Template.isAbsolute base = true ∨ base = "") ∧
      ∀ first second, (first = identifier ∧ second = uri ∨ first = uri ∧ second = identifier) →
        ∀ handle next, shop.template first = (.ok handle, next) →
          ((next.template second).1 = .ok handle ↔ factory.resolve uri = uri) ∧
          (factory.resolve uri = uri → (next.template second).2 = next) ∧
          ∀ count, H.Counts count →
            count (next.template second).2.world.state = count shop.world.state +
              (factory.compiles (factory.resolve first)).toNat +
              (if factory.resolve uri = uri then 0
                else (next.factory.compiles (factory.resolve second)).toNat) := by
  intro shop base uri
  have hfiled : factory.cache.IsFiled := isFiled_after config state ops factory hf
  refine ⟨Template.resolve_resolve_iff base identifier, ?_⟩
  intro first second hasked handle next hfirst
  have hsame : factory.resolve second = factory.resolve first ↔ factory.resolve uri = uri := by
    rcases hasked with ⟨rfl, rfl⟩ | ⟨rfl, rfl⟩
    · exact Iff.rfl
    · exact eq_comm
  refine ⟨(Workshop.template_again_iff hfiled hfirst).trans hsame, ?_, ?_⟩
  · intro hcanonical
    rw [Workshop.template_again_of_resolve hfirst (hsame.2 hcanonical)]
  · intro count hcount
    have hone := shop.count_template hcount first
    rw [hfirst] at hone
    by_cases hcanonical : factory.resolve uri = uri
    · rw [if_pos hcanonical, Workshop.template_again_of_resolve hfirst (hsame.2 hcanonical)]
      exact hone
    · have htwo := next.count_template hcount second
      have hresolve := shop.resolve_template first second
      rw [hfirst] at hresolve
      rw [if_neg hcanonical, htwo, hone, hresolve]

namespace Studio

/-- Settings with a base path that is no full locator. -/
def viewsConfig : Config :=
  ⟨"views/", Config.default.readyTimeout, Config.default.pollSlice, .synchronous, .empty⟩

/-- The studio with the sources of two views, one in a directory of the same name. -/
def views : State :=
  ⟨((Markup.Engine.new .empty Files.noFiles false).register "views/A" "item A \x7b \x7d").register
    "views/views/A" "item B \x7b \x7d", Scripted.Engine.empty, .sleep⟩

/-- A run in which nothing is asked for yet. -/
def viewsRun : List (Operation studio) := [.bind EngineName.markup]

end Studio

/-- With that base path a canonical URI is resolved to another one, and a request by it is
handed another template, compiled for it. -/
theorem Session.other_handle_of_viewsRun :
    Template.resolve "views/" "A" = "views/A" ∧
      Template.resolve "views/" "views/A" = "views/views/A" ∧
      let s := (start (H := studio) Studio.viewsConfig Studio.views).after Studio.viewsRun
      (s.factory?.map fun factory =>
          let shop : Workshop studio := ⟨factory, s.world⟩
          let first := shop.template "A"
          let second := first.2.template (factory.resolve "A")
          (first.1.toOption.map TemplateHandle.uri, second.1.toOption.map TemplateHandle.uri,
            second.2.world.state.markup.compiles)) =
        some (some "views/A", some "views/views/A", 2) := by
  decide +kernel

/-- What `same_handle_iff` says of that run: whatever handle the first request is handed, the
request by the canonical URI is handed another one or none. -/
theorem Session.same_handle_of_viewsRun :
    ∃ factory, ((start (H := studio) Studio.viewsConfig Studio.views).after
        Studio.viewsRun).factory? = some factory ∧
      let shop : Workshop studio := ⟨factory,
        ((start (H := studio) Studio.viewsConfig Studio.views).after Studio.viewsRun).world⟩
      ∃ handle next, shop.template "A" = (.ok handle, next) ∧
        (next.template "views/A").1 ≠ .ok handle := by
  let s := (start (H := studio) Studio.viewsConfig Studio.views).after Studio.viewsRun
  have hasked : (s.factory?.bind fun factory =>
      (Workshop.mk factory s.world |>.template "A").1.toOption.map fun _ =>
        (factory.resolve "A", factory.resolve "views/A")) =
      some ("views/A", "views/views/A") := by
    decide +kernel
  obtain ⟨factory, hf, hasked⟩ := Option.bind_eq_some_iff.1 hasked
  obtain ⟨handle, hhandle, huris⟩ := Option.map_eq_some_iff.1 hasked
  obtain ⟨huri, hagain⟩ := Prod.mk.inj huris
  obtain ⟨-, hsame⟩ := same_handle_iff Studio.viewsConfig Studio.views Studio.viewsRun hf "A"
  rw [huri, hagain] at hsame
  cases hfirst : (Workshop.mk factory s.world).template "A" with
  | mk result next =>
    rw [hfirst] at hhandle
    cases result with
    | error e => cases hhandle
    | ok held =>
      refine ⟨factory, hf, held, next, hfirst, ?_⟩
      intro hsecond
      obtain ⟨honly, -⟩ := hsame "A" "views/A" (Or.inl ⟨rfl, rfl⟩) held next hfirst
      exact absurd (honly.1 hsecond) (by decide)

end SceneFactory
