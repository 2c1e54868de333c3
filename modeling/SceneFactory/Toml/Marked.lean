import SceneFactory.Toml.Document

/-!
# Tables that stand for dates and times

Where a data format has no dates, a date or time travels as a map with one marked
key. A document that is read for its own sake honours the mark too: a table
whose first key is the mark stands for the date or time that the key spells,
whatever other keys it has, and a mark over anything else is a fault. A table
without the mark in front is left a table, and so is the root of a document.
-/

namespace SceneFactory.Toml

/-- The key that marks a date or time among maps. -/
def dateTimeKey : String := "$__toml_private_datetime"

/-- The date or time that a whole text spells. -/
def DateTime.ofText? (s : String) : Option DateTime :=
  match readDateTime s.toList with
  | some (d, []) => some d
  | _ => none

/-- The date or time that stands under a mark. -/
def Value.spelledDate? : Value → Option DateTime
  | .string s => DateTime.ofText? s
  | _ => none

/-- What stands under the mark, if the entries begin with it. -/
def underMark? : Table → Option Value
  | (key, v) :: _ => if key = dateTimeKey then some v else none
  | [] => none

mutual

/-- The value with dates and times in the place of its marked tables. -/
def Value.unmark? : Value → Option Value
  | .array items => (unmarkItems? items).map .array
  | .tables elements => (unmarkItems? elements).map .array
  | .table entries =>
    match underMark? entries with
    | some v => v.spelledDate?.map .dateTime
    | none => (unmarkEntries? entries).map .table
  | v => some v

/-- The items with dates and times in the place of marked tables. -/
def unmarkItems? : List Value → Option (List Value)
  | [] => some []
  | v :: vs => do
    let v ← v.unmark?
    let vs ← unmarkItems? vs
    some (v :: vs)

/-- The entries with dates and times in the place of marked tables. -/
def unmarkEntries? : List (String × Value) → Option Table
  | [] => some []
  | (key, v) :: es => do
    let v ← v.unmark?
    let es ← unmarkEntries? es
    some ((key, v) :: es)

end

/-- The table that a text spells, with dates and times in the place of marked
tables, if the text is a document. -/
def parseUnmarked? (text : String) : Option Table := (parse? text).bind unmarkEntries?

end SceneFactory.Toml
