import SceneFactory.Files
import SceneFactory.Template.Identifier

/-!
# Where a template's source is

Roots map beginnings of URIs to directories. The longest beginning that fits
decides; without one, `file:` URIs and plain paths name their files themselves,
and any other scheme has no file behind it.
-/

namespace SceneFactory.Markup

/-- Directories by URI beginnings. -/
abbrev Roots := Assoc String String

/-- The longer of two roots by the bytes of their beginnings; of two that are
equally long, the second. -/
def longerRoot (best : Option (String × String)) (root : String × String) :
    Option (String × String) :=
  match best with
  | none => some root
  | some b => if b.1.utf8ByteSize ≤ root.1.utf8ByteSize then some root else some b

/-- The root with the longest beginning that a URI has. -/
def rootOf? (roots : Roots) (uri : String) : Option (String × String) :=
  (roots.entries.filter fun root => Text.begins uri root.1).foldl longerRoot none

/-- Whether a URI begins with a drive letter. -/
def hasDrive (uri : String) : Bool :=
  match uri.toList with
  | letter :: ':' :: _ => letter.isAlpha
  | _ => false

/-- The path of the file behind a URI, if there is one. -/
def locate? (roots : Roots) (uri : String) : Option String :=
  match rootOf? roots uri with
  | some (beginning, directory) =>
    let rest := (Text.behind uri beginning).toList.dropWhile (· = '/')
    some (Files.join directory (String.ofList rest))
  | none =>
    if Text.begins uri "file://" then some (Text.behind uri "file://")
    else if Text.begins uri "file:" then some (Text.behind uri "file:")
    else if Template.isAbsolute uri && uri.toList.contains ':' && !hasDrive uri then none
    else some uri

end SceneFactory.Markup
