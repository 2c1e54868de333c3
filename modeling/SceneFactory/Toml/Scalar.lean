import SceneFactory.Toml.DateTime

/-!
# Keys, strings and numbers of TOML documents

Readers for the parts of a document that are no collections. Each takes the
longest text that its rule allows; what may follow is for the caller to check.
-/

namespace SceneFactory.Toml

/-! ## Character classes -/

/-- Blank space within a line. -/
def isBlank (c : Char) : Bool := c = ' ' || c = '\t'

/-- Printable characters and tabs: all but the control characters. -/
def isText (c : Char) : Bool := c = '\t' || (' ' ≤ c && c ≠ '\x7f')

/-- Characters of bare keys. -/
def isBareKeyChar (c : Char) : Bool :=
  isDigit c || ('a' ≤ c && c ≤ 'z') || ('A' ≤ c && c ≤ 'Z') || c = '-' || c = '_'

/-- Hexadecimal digits in either case. -/
def isHexDigit (c : Char) : Bool :=
  isDigit c || ('a' ≤ c && c ≤ 'f') || ('A' ≤ c && c ≤ 'F')

/-- The value of a hexadecimal digit. -/
def digitValue (c : Char) : Nat :=
  if isDigit c then c.toNat - '0'.toNat
  else if 'a' ≤ c then c.toNat - 'a'.toNat + 10
  else c.toNat - 'A'.toNat + 10

/-- The natural spelled by digits in a base. -/
def natInBase (base : Nat) (digits : List Char) : Nat :=
  digits.foldl (fun n c => base * n + digitValue c) 0

/-! ## Blank space and comments -/

/-- Leaves out blank space within a line. -/
def skipBlank (cs : List Char) : List Char := cs.dropWhile isBlank

/-- Leaves out a line break, if one comes first. -/
def skipBreak? : List Char → Option (List Char)
  | '\n' :: rest => some rest
  | '\r' :: '\n' :: rest => some rest
  | _ => none

/-- Leaves out a comment, if one comes first. -/
def skipComment : List Char → List Char
  | '#' :: rest => rest.dropWhile isText
  | cs => cs

/-- Leaves out the rest of a line: blank space, a comment, and the break, which
the end of the document replaces. -/
def skipLineEnd? (cs : List Char) : Option (List Char) :=
  match skipComment (skipBlank cs) with
  | [] => some []
  | rest => skipBreak? rest

/-- Leaves out blank space, line breaks and comments that a line break ends. -/
def skipFiller : Nat → List Char → List Char
  | 0, cs => cs
  | fuel + 1, cs =>
    let cs := skipBlank cs
    match skipBreak? (skipComment cs) with
    | some rest => skipFiller fuel rest
    | none => cs

/-! ## Strings -/

/-- Reads the hexadecimal digits of a character written by code point. -/
def readCodePoint (count : Nat) : Reader Char := fun cs =>
  let digits := cs.take count
  if digits.length = count ∧ digits.all isHexDigit then
    let n := natInBase 16 digits
    if n.isValidChar then some (Char.ofNat n, cs.drop count) else none
  else none

/-- Reads an escape, its backslash read. -/
def readEscape : Reader Char
  | 'b' :: rest => some ('\x08', rest)
  | 'f' :: rest => some ('\x0c', rest)
  | 'n' :: rest => some ('\n', rest)
  | 'r' :: rest => some ('\r', rest)
  | 't' :: rest => some ('\t', rest)
  | '"' :: rest => some ('"', rest)
  | '\\' :: rest => some ('\\', rest)
  | 'u' :: rest => readCodePoint 4 rest
  | 'U' :: rest => readCodePoint 8 rest
  | _ => none

/-- Reads on in a string with escapes, to its closing quote. -/
def readBasic : Nat → List Char → Option (List Char × List Char)
  | 0, _ => none
  | fuel + 1, cs =>
    match cs with
    | '"' :: rest => some ([], rest)
    | '\\' :: rest => do
      let (c, rest) ← readEscape rest
      let (text, rest) ← readBasic fuel rest
      some (c :: text, rest)
    | c :: rest =>
      if isText c then (readBasic fuel rest).map fun (text, rest) => (c :: text, rest) else none
    | [] => none

/-- Reads on in a string without escapes, to its closing apostrophe. -/
def readLiteral (cs : List Char) : Option (List Char × List Char) :=
  let text := cs.takeWhile fun c => isText c && c ≠ '\''
  match cs.drop text.length with
  | '\'' :: rest => some (text, rest)
  | _ => none

/-- The quotes in a row at the front of a text. -/
def quoteRun (quote : Char) (cs : List Char) : Nat := (cs.takeWhile (· = quote)).length

/-- Leaves out a line continuation, its backslash read: blank space, a line break,
and all blank space and line breaks after it. -/
def skipContinuation? (cs : List Char) : Option (List Char) :=
  (skipBreak? (skipBlank cs)).map (skipSpace cs.length)
where
  /-- Leaves out blank space and line breaks. -/
  skipSpace : Nat → List Char → List Char
    | 0, cs => cs
    | fuel + 1, cs =>
      match skipBreak? (skipBlank cs) with
      | some rest => skipSpace fuel rest
      | none => skipBlank cs

/-- Reads on in a string of several lines, to its closing three quotes. Up to two
more quotes may stand before these. Line breaks are read as line feeds. -/
def readMultiline (quote : Char) (escapes : Bool) : Nat → List Char → Option (List Char × List Char)
  | 0, _ => none
  | fuel + 1, cs =>
    match cs with
    | [] => none
    | c :: rest =>
      if c = quote then
        let run := quoteRun quote cs
        -- too few quotes to close the string
        if run < 3 then
          (readMultiline quote escapes fuel (cs.drop run)).map fun (text, rest) =>
            (List.replicate run quote ++ text, rest)
        -- the last three close it, and those before belong to the text
        else if run ≤ 5 then some (List.replicate (run - 3) quote, cs.drop run)
        else none
      else if c = '\\' ∧ escapes then
        match skipContinuation? rest with
        | some rest => readMultiline quote escapes fuel rest
        | none => do
          let (c, rest) ← readEscape rest
          let (text, rest) ← readMultiline quote escapes fuel rest
          some (c :: text, rest)
      else
        match skipBreak? cs with
        | some rest =>
          (readMultiline quote escapes fuel rest).map fun (text, rest) => ('\n' :: text, rest)
        | none =>
          if isText c then
            (readMultiline quote escapes fuel rest).map fun (text, rest) => (c :: text, rest)
          else none

/-- Reads a string of any of the four kinds. -/
def readString : Reader String := fun cs =>
  let parts :=
    match cs with
    | '"' :: '"' :: '"' :: rest =>
      readMultiline '"' true cs.length ((skipBreak? rest).getD rest)
    | '"' :: rest => readBasic cs.length rest
    | '\'' :: '\'' :: '\'' :: rest =>
      readMultiline '\'' false cs.length ((skipBreak? rest).getD rest)
    | '\'' :: rest => readLiteral rest
    | _ => none
  parts.map fun (text, rest) => (String.ofList text, rest)

/-! ## Keys -/

/-- Reads one part of a key: a bare word, or a string within a line. -/
def readKeyPart : Reader String := fun cs =>
  match cs with
  | '"' :: rest => (readBasic cs.length rest).map fun (text, rest) => (String.ofList text, rest)
  | '\'' :: rest => (readLiteral rest).map fun (text, rest) => (String.ofList text, rest)
  | _ =>
    let word := cs.takeWhile isBareKeyChar
    if word.isEmpty then none else some (String.ofList word, cs.drop word.length)

/-- Keys and collections nest less deep than this. -/
def nestingLimit : Nat := 80

/-- Reads the parts of a key after the first. -/
def readKeyParts : Nat → List Char → Option (List String × List Char)
  | 0, _ => none
  | fuel + 1, cs => do
    let (part, rest) ← readKeyPart (skipBlank cs)
    match skipBlank rest with
    | '.' :: rest => (readKeyParts fuel rest).map fun (parts, rest) => (part :: parts, rest)
    | rest => some ([part], rest)

/-- Reads a key: parts with points between them, blank space around each. -/
def readKey : Reader (List String) := readKeyParts (nestingLimit - 1)

/-! ## Numbers -/

/-- What a text that begins like a number can stand for. -/
inductive Number where
  | integer (n : Int64)
  | float (x : Binary64)
  | dateTime (d : DateTime)

/-- Reads digits with single underscores between them, and gives the digits. -/
def readRun (ok : Char → Bool) : Reader (List Char)
  | c :: rest =>
    if ok c then
      let (digits, rest) := more rest
      some (c :: digits, rest)
    else none
  | [] => none
where
  /-- Reads on after a digit. -/
  more : List Char → List Char × List Char
    | '_' :: c :: rest =>
      if ok c then
        let (digits, rest) := more rest
        (c :: digits, rest)
      else ([], '_' :: c :: rest)
    | c :: rest =>
      if ok c then
        let (digits, rest) := more rest
        (c :: digits, rest)
      else ([], c :: rest)
    | [] => ([], [])

/-- An integer, if it is in range. -/
def integerNumber (n : Int) : Option Number :=
  if -9223372036854775808 ≤ n ∧ n ≤ 9223372036854775807 then some (.integer (Int64.ofInt n))
  else none

/-- Reads an integer in another base, its mark read. -/
def readInBase (base : Nat) (ok : Char → Bool) : Reader Number := fun cs => do
  let (digits, rest) ← readRun ok cs
  let n ← integerNumber (natInBase base digits)
  some (n, rest)

/-- Reads the sign of a number: whether it is a minus. -/
def readSign : List Char → Bool × List Char
  | '+' :: rest => (false, rest)
  | '-' :: rest => (true, rest)
  | cs => (false, cs)

/-- Reads the digits before a point: no zero stands in front of others. -/
def readWhole : Reader (List Char)
  | '0' :: rest => some (['0'], rest)
  | cs => readRun isDigit cs

/-- Reads an exponent, its mark read. -/
def readExponent : Reader Int := fun cs => do
  let (negative, cs) := readSign cs
  let (digits, rest) ← readRun isDigit cs
  some (if negative then -(natOfDigits digits : Int) else natOfDigits digits, rest)

/-- A decimal fraction. Positive numbers too large for the format are refused;
negative ones are infinite. -/
def decimalNumber (negative : Bool) (whole part : List Char) (exponent : Int) : Option Number :=
  let x := Binary64.ofDecimal negative (natOfDigits (whole ++ part)) (exponent - part.length)
  if x = Binary64.infinity false then none else some (.float x)

/-- Reads a signed decimal number, or an infinity or NaN. -/
def readDecimal : Reader Number := fun cs => do
  let (negative, cs) := readSign cs
  match cs with
  | 'i' :: 'n' :: 'f' :: rest => some (.float (Binary64.infinity negative), rest)
  | 'n' :: 'a' :: 'n' :: rest => some (.float (Binary64.nan negative), rest)
  | _ =>
    let (whole, cs) ← readWhole cs
    match cs with
    | '.' :: rest => do
      let (part, rest) ← readRun isDigit rest
      match rest with
      | mark :: more =>
        if mark = 'e' ∨ mark = 'E' then do
          let (exponent, rest) ← readExponent more
          let x ← decimalNumber negative whole part exponent
          some (x, rest)
        else (decimalNumber negative whole part 0).map (·, rest)
      | [] => (decimalNumber negative whole part 0).map (·, rest)
    | mark :: rest =>
      if mark = 'e' ∨ mark = 'E' then do
        let (exponent, rest) ← readExponent rest
        let x ← decimalNumber negative whole [] exponent
        some (x, rest)
      else
        (integerNumber (if negative then -(natOfDigits whole : Int) else natOfDigits whole)).map
          (·, cs)
    | [] =>
      (integerNumber (if negative then -(natOfDigits whole : Int) else natOfDigits whole)).map
        (·, cs)

/-- Reads a number, a date or a time. -/
def readNumber : Reader Number := fun cs =>
  match cs with
  | '0' :: 'x' :: rest => readInBase 16 isHexDigit rest
  | '0' :: 'o' :: rest => readInBase 8 (fun c => '0' ≤ c && c ≤ '7') rest
  | '0' :: 'b' :: rest => readInBase 2 (fun c => c = '0' || c = '1') rest
  | _ =>
    match readDateTime cs with
    | some (d, rest) => some (.dateTime d, rest)
    -- digits that begin no date
    | none => readDecimal cs

end SceneFactory.Toml
