import SceneFactory.Text.Printable

/-!
# Quoted text

A text between double quotes. Backslash, quote and the common control
characters have short escapes, other characters without a printed form of their
own are written by code point, and all else stands as it is.
-/

namespace SceneFactory.Text

/-- A character by code point, in lower-case hexadecimal. -/
def codeEscape (c : Char) : List Char :=
  ['\\', 'u', '\x7b'] ++ Nat.toDigits 16 c.toNat ++ ['\x7d']

/-- A character inside quotes. -/
def quotedChar (c : Char) : List Char :=
  if c = '\x00' then ['\\', '0']
  else if c = '\t' then ['\\', 't']
  else if c = '\r' then ['\\', 'r']
  else if c = '\n' then ['\\', 'n']
  else if c = '"' ∨ c = '\\' then ['\\', c]
  else if extendingMarks.contains c ∨ nonPrintable.contains c then codeEscape c
  else [c]

/-- A text between double quotes. -/
def quoted (s : String) : String :=
  String.ofList ('"' :: s.toList.flatMap quotedChar ++ ['"'])

end SceneFactory.Text
