import SceneFactory.Number.Decimal

/-!
# Tokens of the component markup

The words that the markup is made of, with their places in the source. A place
is a range of bytes in the UTF-8 form of the source.
-/

namespace SceneFactory

/-- A range of bytes, `stop` not included. -/
structure Span where
  start : Nat
  stop : Nat
deriving DecidableEq, Inhabited

/-- A thing with its place in the source. -/
structure Located (α : Type) where
  node : α
  span : Span
deriving DecidableEq, Inhabited

/-- The number of bytes of a text in UTF-8. -/
def byteLength (cs : List Char) : Nat := cs.foldr (fun c n => c.utf8Size + n) 0

@[simp] theorem byteLength_nil : byteLength [] = 0 := rfl

@[simp] theorem byteLength_cons (c : Char) (cs : List Char) :
    byteLength (c :: cs) = c.utf8Size + byteLength cs := rfl

@[simp] theorem byteLength_append (cs ds : List Char) :
    byteLength (cs ++ ds) = byteLength cs + byteLength ds := by
  induction cs with
  | nil => simp
  | cons c cs ih => simp only [List.cons_append, byteLength_cons, ih, Nat.add_assoc]

namespace Markup

/-- The seven words that are no identifiers. -/
inductive Keyword where
  | item
  | object
  | property
  | required
  | trueWord
  | falseWord
  | nullWord
deriving DecidableEq, Inhabited

/-- The spelling of a keyword. -/
def Keyword.spelling : Keyword → String
  | .item => "item"
  | .object => "object"
  | .property => "property"
  | .required => "required"
  | .trueWord => "true"
  | .falseWord => "false"
  | .nullWord => "null"

/-- All keywords. -/
def Keyword.all : List Keyword :=
  [.item, .object, .property, .required, .trueWord, .falseWord, .nullWord]

/-- The keyword with a given spelling. -/
def Keyword.ofSpelling? (word : String) : Option Keyword :=
  Keyword.all.find? fun k => k.spelling = word

/-- Marks that stand for themselves. -/
inductive Mark where
  | braceOpen
  | braceClose
  | bracketOpen
  | bracketClose
  | comma
  | colon
  | minus
deriving DecidableEq, Inhabited

/-- The character of a mark. -/
def Mark.char : Mark → Char
  | .braceOpen => '\x7b'
  | .braceClose => '\x7d'
  | .bracketOpen => '['
  | .bracketClose => ']'
  | .comma => ','
  | .colon => ':'
  | .minus => '-'

/-- All marks. -/
def Mark.all : List Mark :=
  [.braceOpen, .braceClose, .bracketOpen, .bracketClose, .comma, .colon, .minus]

/-- The mark that a character stands for. -/
def Mark.ofChar? (c : Char) : Option Mark := Mark.all.find? fun m => m.char = c

/-- A token with what its text denotes: names and colors are kept as spelled,
strings with their escapes undone, numbers as numbers. -/
inductive Token where
  | keyword (k : Keyword)
  | mark (m : Mark)
  | ident (name : String)
  | string (text : String)
  | int (n : Int64)
  | float (x : Binary64)
  | color (text : String)
deriving DecidableEq, Inhabited

/-- A token in its place. -/
abbrev Lexeme := Located Token

/-- How a token is named in messages. -/
def Token.describe : Token → String
  | .keyword k => "keyword '" ++ k.spelling ++ "'"
  | .mark m => "'" ++ String.singleton m.char ++ "'"
  | .ident name => "identifier '" ++ name ++ "'"
  | .string text => "string \"" ++ text ++ "\""
  | .int n => "number " ++ toString n.toInt
  | .float x => "number " ++ x.text
  | .color text => "color " ++ text

/-- A keyword is found under its own spelling. -/
theorem Keyword.ofSpelling?_spelling (k : Keyword) : ofSpelling? k.spelling = some k := by
  cases k <;> decide

/-- Only keywords are found, each under its spelling. -/
theorem Keyword.ofSpelling?_eq_some_iff {w : String} {k : Keyword} :
    ofSpelling? w = some k ↔ k.spelling = w := by
  constructor
  · intro h
    simpa using List.find?_some h
  · rintro rfl
    exact k.ofSpelling?_spelling

/-- Only marks are found, each under its character. -/
theorem Mark.ofChar?_eq_some_iff {c : Char} {m : Mark} : ofChar? c = some m ↔ m.char = c := by
  constructor
  · intro h
    simpa using List.find?_some h
  · rintro rfl
    cases m <;> decide

end Markup

end SceneFactory
