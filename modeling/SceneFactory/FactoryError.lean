import SceneFactory.Duration

/-!
# Why a creation fails

One constructor for each cause, with the data that its wording needs.
-/

namespace SceneFactory

/-- Why no component was created or no template obtained. -/
inductive FactoryError where
  /-- Neither the factory nor the container knows an engine. -/
  | engineNotBound
  /-- The template failed to compile. -/
  | compileFailed (uri detail : String)
  /-- The template was still loading when the timeout had passed. -/
  | timedOut (uri : String) (waited : Duration)
  /-- The template produced no object. -/
  | constructionFailed (uri : String)
  /-- The template refused to complete the object. -/
  | completionFailed (uri detail : String)
  /-- The object cannot be attached to a visual container. -/
  | incompatibleType (uri typeName : String)
  /-- There is no container to attach to. -/
  | noContainer
  /-- The time waited left the range of durations. -/
  | clockOverflow
deriving DecidableEq, Inhabited

/-- The wording of an error. -/
def FactoryError.message : FactoryError → String
  | .engineNotBound => "no template engine bound to the factory"
  | .compileFailed uri detail => "failed to compile '" ++ uri ++ "': " ++ detail
  | .timedOut uri waited =>
    "timed out after " ++ waited.text ++ " waiting for '" ++ uri ++ "' to compile"
  | .constructionFailed uri => "template '" ++ uri ++ "' produced no object"
  | .completionFailed uri detail => "failed to complete '" ++ uri ++ "': " ++ detail
  | .incompatibleType uri typeName =>
    "'" ++ uri ++ "' produced a " ++ typeName ++
      ", which cannot be attached to a visual container"
  | .noContainer => "no container to attach to"
  | .clockOverflow => "overflow when adding durations"

end SceneFactory
