import SceneFactory.Value.Basic
import SceneFactory.Number.Decimal
import SceneFactory.Text.Quoted

/-!
# The text of values

How values are written in dumps: strings quoted, numbers in plain decimals,
lists and maps in brackets and braces with their members separated by a comma
and a blank. Keys of maps are written bare.
-/

namespace SceneFactory.Value

mutual

/-- The text of a value. -/
def text : Value → String
  | .null => "null"
  | .bool b => if b then "true" else "false"
  | .int n => toString n.toInt
  | .float x => x.text
  | .string s => Text.quoted s
  | .list items => "[" ++ ", ".intercalate (itemTexts items) ++ "]"
  | .map entries => "\x7b" ++ ", ".intercalate (entryTexts entries) ++ "\x7d"

/-- The texts of list items. -/
def itemTexts : List Value → List String
  | [] => []
  | v :: vs => text v :: itemTexts vs

/-- The texts of map entries. -/
def entryTexts : List (String × Value) → List String
  | [] => []
  | (k, v) :: es => (k ++ ": " ++ text v) :: entryTexts es

end

end SceneFactory.Value
