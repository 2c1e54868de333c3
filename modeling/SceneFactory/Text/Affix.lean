/-!
# Beginnings and ends of texts

Whether a text begins with another, what stands behind a beginning, and whether a
text ends with a character, each by its characters.
-/

namespace SceneFactory.Text

/-- Whether a text begins with another. -/
def begins (text beginning : String) : Bool := beginning.toList.isPrefixOf text.toList

/-- What stands behind the first characters of a text, as many as another has. -/
def behind (text beginning : String) : String :=
  String.ofList (text.toList.drop beginning.toList.length)

/-- Whether a character is the last of a text. -/
def endsIn (text : String) (c : Char) : Bool := text.toList.getLast? == some c

/-- A text that begins with another is that one and what stands behind it. -/
theorem append_behind {text beginning : String} (h : begins text beginning = true) :
    beginning ++ behind text beginning = text := by
  have hp : beginning.toList <+: text.toList := List.isPrefixOf_iff_prefix.1 h
  obtain ⟨rest, hr⟩ := hp
  apply String.toList_inj.1
  simp [behind, ← hr]

end SceneFactory.Text
