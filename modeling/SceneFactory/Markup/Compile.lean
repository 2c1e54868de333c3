import SceneFactory.Markup.Parse
import SceneFactory.Report.Render

/-!
# Compiling a source

A source compiles to a component if it parses and declares no property twice.
Syntax errors are reported with the place in the source.

Main statement: a component that compiles has distinct property names
(`nodup_of_compile`).
-/

namespace SceneFactory.Markup

/-- Why there is no component for a URI. -/
inductive MarkupError where
  /-- Nothing is registered for the URI and no file stands behind it. -/
  | notFound (uri : String)
  /-- The file behind the URI cannot be read. -/
  | unreadable (path reason : String)
  /-- The source does not parse. -/
  | badSyntax (uri report : String)
  /-- The source does not parse, and its error has no place that could be shown. -/
  | unreportable (uri : String)
  /-- Two properties have the same name. -/
  | duplicateProperty (uri name : String)
deriving DecidableEq, Inhabited

/-- The wording of an error. -/
def MarkupError.message : MarkupError → String
  | .notFound uri => "no source registered for '" ++ uri ++ "'"
  | .unreadable path reason => "failed to read '" ++ path ++ "': " ++ reason
  | .badSyntax uri report => "failed to parse '" ++ uri ++ "':\n" ++ report
  | .unreportable uri => "failed to parse '" ++ uri ++ "':\n"
  | .duplicateProperty uri name => "property '" ++ name ++ "' declared twice in '" ++ uri ++ "'"

/-- The first name that stands in a list a second time, given the names before. -/
def firstRepeated? (seen : List String) : List String → Option String
  | [] => none
  | name :: rest => if name ∈ seen then some name else firstRepeated? (name :: seen) rest

/-- Parses and checks one source. -/
def compile (uri source : String) : Except MarkupError Component :=
  match parse source with
  | .error e =>
    match Report.render? uri source e.diagnostic with
    | some report => .error (.badSyntax uri report)
    | none => .error (.unreportable uri)
  | .ok component =>
    match firstRepeated? [] component.propertyNames with
    | some name => .error (.duplicateProperty uri name)
    | none => .ok component

/-! ## Laws -/

theorem nodup_of_firstRepeated? {seen names : List String}
    (h : firstRepeated? seen names = none) : names.Nodup ∧ ∀ n ∈ names, n ∉ seen := by
  induction names generalizing seen with
  | nil => simp
  | cons name rest ih =>
    unfold firstRepeated? at h
    split at h
    · cases h
    · rename_i hn
      obtain ⟨hd, hs⟩ := ih h
      refine ⟨List.nodup_cons.2 ⟨fun hm => hs name hm (List.mem_cons_self), hd⟩, ?_⟩
      intro n hm
      rcases List.mem_cons.1 hm with rfl | hm
      · exact hn
      · exact fun hmem => hs n hm (List.mem_cons_of_mem _ hmem)

/-- A component that compiles declares no property twice. -/
theorem nodup_of_compile {uri source : String} {component : Component}
    (h : compile uri source = .ok component) : component.propertyNames.Nodup := by
  unfold compile at h
  split at h
  · split at h <;> cases h
  · split at h
    · cases h
    · rename_i hr
      cases h
      exact (nodup_of_firstRepeated? hr).1

end SceneFactory.Markup
