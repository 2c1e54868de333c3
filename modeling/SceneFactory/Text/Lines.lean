/-!
# Lines of a source text

A text is cut after every line break; a carriage return and a line feed that
follow each other are one break. A line knows where it begins, counted in
characters, how long it is with its break, and what it shows, which is its text
without the blank space at its end. A text that ends with a break has no empty
line after it, and the empty text has no lines.
-/

namespace SceneFactory

/-- Characters that count as blank space in any script. -/
def isBlankSpace (c : Char) : Bool :=
  let n := c.toNat
  (9 ≤ n && n ≤ 13) || n == 0x20 || n == 0x85 || n == 0xA0 || n == 0x1680 ||
    (0x2000 ≤ n && n ≤ 0x200A) || n == 0x2028 || n == 0x2029 || n == 0x202F || n == 0x205F ||
    n == 0x3000

/-- Characters that end a line. -/
def isLineBreak (c : Char) : Bool :=
  let n := c.toNat
  (10 ≤ n && n ≤ 13) || n == 0x85 || n == 0x2028 || n == 0x2029

/-- A line of a text, counted in characters. -/
structure TextLine where
  offset : Nat
  length : Nat
  shown : List Char
deriving DecidableEq, Inhabited

/-- The first character after the line. -/
def TextLine.stop (line : TextLine) : Nat := line.offset + line.length

/-- Cuts a text into its lines, breaks included. `line` holds the characters of
the line that is being read, last character first. -/
def cutLines (line : List Char) : List Char → List (List Char)
  | [] => if line.isEmpty then [] else [line.reverse]
  | '\r' :: '\n' :: rest => ('\n' :: '\r' :: line).reverse :: cutLines [] rest
  | c :: rest =>
    if isLineBreak c then (c :: line).reverse :: cutLines [] rest else cutLines (c :: line) rest

/-- A text without the blank space at its end. -/
def trimEnd (cs : List Char) : List Char := (cs.reverse.dropWhile isBlankSpace).reverse

/-- Numbers the lines from a given offset on. -/
def linesFrom (offset : Nat) : List (List Char) → List TextLine
  | [] => []
  | cs :: rest => ⟨offset, cs.length, trimEnd cs⟩ :: linesFrom (offset + cs.length) rest

/-- The lines of a text. -/
def textLines (cs : List Char) : List TextLine := linesFrom 0 (cutLines [] cs)

/-- The index of the line that holds a character. The place after the last
character belongs to the last line; later places, and all places of the empty
text, belong to none. -/
def lineIndex? (cs : List Char) (place : Nat) : Option Nat :=
  if cs.isEmpty || cs.length < place then none
  else some (((textLines cs).takeWhile fun line => line.offset ≤ place).length - 1)

/-- Line and column of a character, both counted from 1. -/
def position? (cs : List Char) (place : Nat) : Option (Nat × Nat) :=
  (lineIndex? cs place).map fun i =>
    (i + 1, place - (((textLines cs)[i]?.map TextLine.offset).getD 0) + 1)

theorem flatten_cutLines (line cs : List Char) :
    (cutLines line cs).flatten = line.reverse ++ cs := by
  fun_induction cutLines line cs <;> simp_all

/-- The lines of a text spell it out again. -/
theorem flatten_cutLines_nil (cs : List Char) : (cutLines [] cs).flatten = cs := by
  simpa using flatten_cutLines [] cs

end SceneFactory
