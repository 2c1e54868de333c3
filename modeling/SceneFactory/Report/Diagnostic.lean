import SceneFactory.Markup.Token

/-!
# Diagnostics

A remark about a place in a source: the range of bytes, a message, and the names
of what could have stood there instead.
-/

namespace SceneFactory

/-- A remark about a place in a source. -/
structure Diagnostic where
  span : Span
  message : String
  expected : List String
deriving DecidableEq, Inhabited

/-- The remark on one line. -/
def Diagnostic.summary (d : Diagnostic) : String :=
  "Parse error at " ++ toString d.span.start ++ ".." ++ toString d.span.stop ++ ": " ++ d.message

/-- The remark with what was expected on a line of its own. -/
def Diagnostic.label (d : Diagnostic) : String :=
  if d.expected.isEmpty then d.message
  else d.message ++ "\nExpected: " ++ ", ".intercalate d.expected

end SceneFactory
