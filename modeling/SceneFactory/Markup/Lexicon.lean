import SceneFactory.Markup.Token

/-!
# The lexicon of the markup

A source is cut into pieces from the left: tokens, blank space, comments, and
text that no rule matches, which is dropped. Each piece is the longest that a
rule allows at its place. The pieces of a source spell it out again
(`spelled_pieces`), so nothing is lost before the tokens are picked out.

Blank space is blanks, tabs and line breaks. A string runs to the first quote
that no backslash precedes; a backslash takes the next character, whatever it
is but a line feed. A block comment is read in steps of one character, or of two
from an asterisk on, and ends at an asterisk before a slash.
-/

namespace SceneFactory.Markup

/-! ## Character classes -/

/-- Blank space between tokens. -/
def isBlank (c : Char) : Bool := c = ' ' || c = '\t' || c = '\n' || c = '\r'

/-- Decimal digits. -/
def isDigit (c : Char) : Bool := '0' ≤ c && c ≤ '9'

/-- Hexadecimal digits in either case. -/
def isHexDigit (c : Char) : Bool :=
  isDigit c || ('a' ≤ c && c ≤ 'f') || ('A' ≤ c && c ≤ 'F')

/-- The first character of an identifier. -/
def isNameStart (c : Char) : Bool :=
  ('a' ≤ c && c ≤ 'z') || ('A' ≤ c && c ≤ 'Z') || c = '_'

/-- The further characters of an identifier. -/
def isNameChar (c : Char) : Bool := isNameStart c || isDigit c

/-! ## Pieces -/

/-- What a piece of source is: a token, blank space, a comment, or text that no
rule matches. -/
inductive PieceKind where
  | token (t : Token)
  | blank
  | comment
  | dropped
deriving DecidableEq, Inhabited

/-- A piece of source with its text. -/
structure Piece where
  kind : PieceKind
  text : List Char
deriving DecidableEq, Inhabited

/-- A piece at the head of a non-empty text: its kind and how many characters it
takes after the first. -/
structure Cut where
  kind : PieceKind
  more : Nat

/-! ## Numbers, strings and comments -/

/-- The escapes of a string undone: `\n` and `\t` are line feed and tab, any
other escaped character stands for itself. -/
def unescape : List Char → List Char
  | '\\' :: 'n' :: rest => '\n' :: unescape rest
  | '\\' :: 't' :: rest => '\t' :: unescape rest
  | '\\' :: c :: rest => c :: unescape rest
  | c :: rest => c :: unescape rest
  | [] => []

/-- How a string ends: closed after the given number of characters, the quote
included, or open, with the number of characters that were read. -/
inductive StringEnd where
  | closed (length : Nat)
  | opened (length : Nat)
deriving DecidableEq

/-- The same end seen from some characters earlier. -/
def StringEnd.after (n : Nat) : StringEnd → StringEnd
  | .closed length => .closed (length + n)
  | .opened length => .opened (length + n)

/-- Reads on to the end of a string whose opening quote has been read. -/
def stringEnd : List Char → StringEnd
  | [] => .opened 0
  | '"' :: _ => .closed 1
  | '\\' :: '\n' :: _ => .opened 1
  | '\\' :: _ :: rest => (stringEnd rest).after 2
  | _ :: rest => (stringEnd rest).after 1

/-- The number of characters to the end of a block comment whose opening has
been read, the closing included. -/
def blockEnd : List Char → Option Nat
  | '*' :: '/' :: _ => some 2
  | '*' :: _ :: rest => (blockEnd rest).map (· + 2)
  | '*' :: [] => none
  | _ :: rest => (blockEnd rest).map (· + 1)
  | [] => none

/-- The integer token of a digit string, if it is in range. -/
def intToken (digits : List Char) : PieceKind :=
  let n := natOfDigits digits
  if n ≤ 9223372036854775807 then .token (.int (Int64.ofNat n)) else .dropped

/-- The decimal token of the digits before and after the point. -/
def floatToken (whole part : List Char) : PieceKind :=
  .token (.float (Binary64.ofDecimal false (natOfDigits (whole ++ part)) (-part.length)))

/-- The token of a word. -/
def wordToken (word : String) : PieceKind :=
  match Keyword.ofSpelling? word with
  | some k => .token (.keyword k)
  | none => .token (.ident word)

/-! ## Cutting -/

/-- A number: digits, and if a point and a digit follow, those too. -/
def cutNumber (c : Char) (cs : List Char) : Cut :=
  let whole := cs.takeWhile isDigit
  match cs.dropWhile isDigit with
  | '.' :: d :: rest =>
    if isDigit d then
      let part := d :: rest.takeWhile isDigit
      ⟨floatToken (c :: whole) part, whole.length + 1 + part.length⟩
    else ⟨intToken (c :: whole), whole.length⟩
  | _ => ⟨intToken (c :: whole), whole.length⟩

/-- A string, its opening quote read. -/
def cutString (cs : List Char) : Cut :=
  match stringEnd cs with
  | .closed n => ⟨.token (.string (String.ofList (unescape (cs.take (n - 1))))), n⟩
  -- an open string takes everything that was read of it
  | .opened n => ⟨.dropped, n⟩

/-- A comment, or a slash that begins none. -/
def cutSlash : List Char → Cut
  | '/' :: rest => ⟨.comment, 1 + (rest.takeWhile (· ≠ '\n')).length⟩
  | '*' :: rest =>
    match blockEnd rest with
    | some n => ⟨.comment, 1 + n⟩
    -- an open comment takes the rest of the source
    | none => ⟨.dropped, 1 + rest.length⟩
  | _ => ⟨.dropped, 0⟩

/-- A color: a number sign and three to eight hexadecimal digits. -/
def cutColor (c : Char) (cs : List Char) : Cut :=
  let digits := (cs.takeWhile isHexDigit).take 8
  -- too few digits: the sign alone is dropped, and the digits are cut anew
  if digits.length < 3 then ⟨.dropped, 0⟩
  else ⟨.token (.color (String.ofList (c :: digits))), digits.length⟩

/-- The piece at the head of a text that begins with `c`. -/
def cut (c : Char) (cs : List Char) : Cut :=
  if isBlank c then ⟨.blank, (cs.takeWhile isBlank).length⟩
  else if isNameStart c then
    let word := cs.takeWhile isNameChar
    ⟨wordToken (String.ofList (c :: word)), word.length⟩
  else if isDigit c then cutNumber c cs
  else if c = '"' then cutString cs
  else if c = '/' then cutSlash cs
  else if c = '#' then cutColor c cs
  else
    match Mark.ofChar? c with
    | some m => ⟨.token (.mark m), 0⟩
    | none => ⟨.dropped, 0⟩

/-- The pieces of a source. -/
def pieces : List Char → List Piece
  | [] => []
  | c :: cs =>
    let k := cut c cs
    ⟨k.kind, c :: cs.take k.more⟩ :: pieces (cs.drop k.more)
termination_by cs => cs.length
decreasing_by simp only [List.length_drop, List.length_cons]; omega

/-- The pieces of a source spell it out again. -/
theorem spelled_pieces (cs : List Char) : (pieces cs).flatMap Piece.text = cs := by
  fun_induction pieces cs with
  | case1 => rfl
  | case2 c cs k ih => simp [ih, k]

/-- The tokens among some pieces, the first of which begins at byte `offset`. -/
def lexemesFrom (offset : Nat) : List Piece → List Lexeme
  | [] => []
  | p :: ps =>
    let stop := offset + byteLength p.text
    match p.kind with
    | .token t => ⟨t, ⟨offset, stop⟩⟩ :: lexemesFrom stop ps
    | _ => lexemesFrom stop ps

/-- The tokens of a source in their places. -/
def lexemes (source : String) : List Lexeme := lexemesFrom 0 (pieces source.toList)

end SceneFactory.Markup
