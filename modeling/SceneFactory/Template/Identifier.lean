import SceneFactory.Text.Affix

/-!
# Template identifiers

An identifier is a full locator, which stands for itself, or it is relative to a
base path. Full locators begin with a scheme (`qrc:`, `file:`), a root marker (`/`
or `\`) or a drive letter (`C:`).

Main statements: a full locator is its own canonical form (`resolve_of_isAbsolute`),
and every identifier is where there is no base path (`resolve_empty`).
-/

namespace SceneFactory.Template

/-- A letter of the Latin alphabet. -/
def isLetter (c : Char) : Bool := c.isAlpha

/-- What may follow the first letter of a scheme. -/
def isSchemeRest (c : Char) : Bool := c.isAlphanum || c == '+' || c == '-' || c == '.'

/-- Whether characters spell a scheme. -/
def isScheme : List Char → Bool
  | [] => false
  | c :: cs => isLetter c && cs.all isSchemeRest

/-- Whether an identifier is a full locator. -/
def isAbsolute (identifier : String) : Bool :=
  match identifier.toList with
  | [] => false
  | c :: cs =>
    c == '/' || c == '\\' ||
      ((c :: cs).contains ':' && isScheme ((c :: cs).takeWhile (· ≠ ':')))

/-- The canonical form of an identifier over a base path. -/
def resolve (base identifier : String) : String :=
  if isAbsolute identifier = true ∨ base = "" then identifier
  else if Text.endsIn base '/' then base ++ identifier
  else base ++ "/" ++ identifier

/-! ## Laws -/

/-- A full locator stands for itself. -/
theorem resolve_of_isAbsolute (base : String) {identifier : String}
    (h : isAbsolute identifier = true) : resolve base identifier = identifier := by
  simp [resolve, h]

/-- Without a base path every identifier stands for itself. -/
theorem resolve_empty (identifier : String) : resolve "" identifier = identifier := by
  simp [resolve]

end SceneFactory.Template
