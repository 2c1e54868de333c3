import SceneFactory.Content.Basic

/-!
# Content of JSON texts

Reads a JSON text as content. Arrays and objects may nest 127 deep. An integer
that fits 64 bits, with sign if negative and without if not, is kept; all other
numbers become floats.

Floats are read in steps of bounded precision: the leading digits that fit 64
bits, rounded, are multiplied or divided by a rounded power of ten, so the result
may differ from the nearest float in its last bits. A result beyond the largest
float is refused.
-/

namespace SceneFactory.Json

/-- Reads a thing from the front of a text and gives the rest. -/
abbrev Reader (α : Type) := List Char → Option (α × List Char)

/-- Blank space between the parts of a text. -/
def isBlank (c : Char) : Bool := c = ' ' || c = '\n' || c = '\t' || c = '\r'

/-- Leaves out blank space. -/
def skipBlank (cs : List Char) : List Char := cs.dropWhile isBlank

/-! ## Numbers -/

/-- The power of ten as a float. -/
def powerOfTen (n : Nat) : Binary64 := Binary64.ofRatio false (Nat.pow 10 n) 1

/-- The largest power of ten that is a float. -/
def maxPower : Nat := 308

/-- Divides by powers of ten, at most `maxPower` at a time, until the exponent is
used up or nothing is left. -/
def scaleDown : Nat → Binary64 → Nat → Binary64
  | 0, x, _ => x
  | fuel + 1, x, n =>
    if n ≤ maxPower then x.divFinite (powerOfTen n)
    else if x.isZero then x
    else scaleDown fuel (x.divFinite (powerOfTen maxPower)) (n - maxPower)

/-- The float of a significand and an exponent of ten, under a sign. Four steps
down bring every significand to zero. -/
def floatOfParts (negative : Bool) (significand : Nat) (exponent : Int) : Option Binary64 :=
  let x := Binary64.ofNat significand
  let signed (y : Binary64) : Binary64 := if negative then -y else y
  if exponent < 0 then some (signed (scaleDown 4 x (-exponent).toNat))
  else if exponent ≤ maxPower then
    let y := x.mulFinite (powerOfTen exponent.toNat)
    if y.isInfinite then none else some (signed y)
  else if x.isZero then some (signed x)
  else none

/-- Digits taken into a significand as long as it fits 64 bits: the significand,
how many digits were taken, and the rest. -/
def takeDigits (significand taken : Nat) : List Char → Nat × Nat × List Char
  | c :: rest =>
    if Toml.isDigit c then
      let next := 10 * significand + (c.toNat - '0'.toNat)
      if 18446744073709551616 ≤ next then (significand, taken, c :: rest)
      else takeDigits next (taken + 1) rest
    else (significand, taken, c :: rest)
  | [] => (significand, taken, [])

/-- Reads an exponent, its mark read, and applies it. The exponent of ten stays
within 32 bits. -/
def readExponent (negative : Bool) (significand : Nat) (exponent : Int) : Reader Content :=
  fun cs =>
    let (down, cs) := match cs with
      | '+' :: rest => (false, rest)
      | '-' :: rest => (true, rest)
      | cs => (false, cs)
    let digits := cs.takeWhile Toml.isDigit
    let rest := cs.drop digits.length
    if digits.isEmpty then none
    else
      let n := natOfDigits digits
      -- beyond 32 bits only the sign of the exponent counts
      if 2147483648 ≤ n then
        if significand ≠ 0 ∧ !down then none
        else some (.float (Binary64.zero negative), rest)
      else
        let total := if down then exponent - n else exponent + n
        (floatOfParts negative significand (max (-2147483648) (min total 2147483647))).map
          fun x => (.float x, rest)

/-- Reads what may follow the digits of a float: an exponent. -/
def finishFloat (negative : Bool) (significand : Nat) (exponent : Int) : Reader Content
  | 'e' :: rest | 'E' :: rest => readExponent negative significand exponent rest
  | cs => (floatOfParts negative significand exponent).map fun x => (.float x, cs)

/-- Reads the digits after a point. Those that no longer fit are left out. -/
def readFraction (negative : Bool) (significand : Nat) (exponent : Int) : Reader Content :=
  fun cs =>
    let (next, taken, rest) := takeDigits significand 0 cs
    let more := rest.dropWhile Toml.isDigit
    if taken = 0 ∧ more.length = rest.length then none
    else finishFloat negative next (exponent - taken) more

/-- The number of an integer literal. Negative zero, and negative integers beyond
64 bits, are floats. -/
def integerContent (negative : Bool) (n : Nat) : Content :=
  if !negative then .integer n
  else if n = 0 ∨ 9223372036854775808 < n then .float (-(Binary64.ofNat n))
  else .integer (-(n : Int))

/-- Reads a number, its sign read. -/
def readNumber (negative : Bool) (cs : List Char) : Option (Content × List Char) :=
  let finish (significand : Nat) (rest : List Char) : Option (Content × List Char) :=
    match rest with
    | '.' :: rest => readFraction negative significand 0 rest
    | 'e' :: rest | 'E' :: rest => readExponent negative significand 0 rest
    | rest => some (integerContent negative significand, rest)
  match cs with
  -- no zero stands in front of other digits
  | '0' :: c :: rest => if Toml.isDigit c then none else finish 0 (c :: rest)
  | ['0'] => finish 0 []
  | c :: _ =>
    if Toml.isDigit c then
      let (significand, _, rest) := takeDigits 0 0 cs
      let more := rest.dropWhile Toml.isDigit
      -- each digit left out is one more power of ten
      let dropped := rest.length - more.length
      if dropped = 0 then finish significand rest
      else
        match more with
        | '.' :: more => readFraction negative significand dropped more
        | more => finishFloat negative significand dropped more
    else none
  | [] => none

/-! ## Strings -/

/-- Reads four hexadecimal digits. -/
def readUnit : Reader Nat := fun cs =>
  let digits := cs.take 4
  if digits.length = 4 ∧ digits.all Toml.isHexDigit then some (Toml.natInBase 16 digits, cs.drop 4)
  else none

/-- Reads a character written by code units, its mark read. A pair of surrogates
stands for one character; a lone surrogate for none. -/
def readCodeUnits : Reader Char := fun cs => do
  let (high, rest) ← readUnit cs
  if high < 0xD800 ∨ 0xE000 ≤ high then some (Char.ofNat high, rest)
  else if 0xDC00 ≤ high then none
  else
    match rest with
    | '\\' :: 'u' :: rest => do
      let (low, rest) ← readUnit rest
      if 0xDC00 ≤ low ∧ low < 0xE000 then
        some (Char.ofNat (0x10000 + (high - 0xD800) * 0x400 + (low - 0xDC00)), rest)
      else none
    | _ => none

/-- Reads an escape, its backslash read. -/
def readEscape : Reader Char
  | '"' :: rest => some ('"', rest)
  | '\\' :: rest => some ('\\', rest)
  | '/' :: rest => some ('/', rest)
  | 'b' :: rest => some ('\x08', rest)
  | 'f' :: rest => some ('\x0c', rest)
  | 'n' :: rest => some ('\n', rest)
  | 'r' :: rest => some ('\r', rest)
  | 't' :: rest => some ('\t', rest)
  | 'u' :: rest => readCodeUnits rest
  | _ => none

/-- Reads on in a string to its closing quote. -/
def readString : Nat → List Char → Option (List Char × List Char)
  | 0, _ => none
  | fuel + 1, cs =>
    match cs with
    | '"' :: rest => some ([], rest)
    | '\\' :: rest => do
      let (c, rest) ← readEscape rest
      let (text, rest) ← readString fuel rest
      some (c :: text, rest)
    | c :: rest =>
      if c < ' ' then none
      else (readString fuel rest).map fun (text, rest) => (c :: text, rest)
    | [] => none

/-! ## Values -/

/-- Reads the items of an array, from a place where an item must stand. -/
def readItems (readItem : Reader Content) : Nat → Reader (List Content)
  | 0, _ => none
  | fuel + 1, cs => do
    let (item, rest) ← readItem cs
    match skipBlank rest with
    | ']' :: rest => some ([item], rest)
    | ',' :: rest => (readItems readItem fuel rest).map fun (items, rest) => (item :: items, rest)
    | _ => none

/-- Reads the entries of an object, from a place where a key must stand. -/
def readEntries (readItem : Reader Content) : Nat → Reader (List (String × Content))
  | 0, _ => none
  | fuel + 1, cs =>
    match skipBlank cs with
    | '"' :: rest => do
      let (key, rest) ← readString rest.length rest
      match skipBlank rest with
      | ':' :: rest => do
        let (item, rest) ← readItem rest
        let entry := (String.ofList key, item)
        match skipBlank rest with
        | '\x7d' :: rest => some ([entry], rest)
        | ',' :: rest =>
          (readEntries readItem fuel rest).map fun (entries, rest) => (entry :: entries, rest)
        | _ => none
      | _ => none
    | _ => none

/-- Reads a value in which collections may nest as deep as the first argument
says. -/
def readValue : Nat → Reader Content
  | depth, cs =>
    match skipBlank cs with
    | '[' :: rest =>
      match depth with
      | 0 => none
      | depth + 1 =>
        match skipBlank rest with
        | ']' :: rest => some (.sequence [], rest)
        | rest =>
          (readItems (readValue depth) cs.length rest).map fun (items, rest) =>
            (.sequence items, rest)
    | '\x7b' :: rest =>
      match depth with
      | 0 => none
      | depth + 1 =>
        match skipBlank rest with
        | '\x7d' :: rest => some (.mapping [], rest)
        | rest =>
          (readEntries (readValue depth) cs.length rest).map fun (entries, rest) =>
            (.mapping entries, rest)
    | '"' :: rest =>
      (readString rest.length rest).map fun (text, rest) => (.string (String.ofList text), rest)
    | 'n' :: 'u' :: 'l' :: 'l' :: rest => some (.null, rest)
    | 't' :: 'r' :: 'u' :: 'e' :: rest => some (.bool true, rest)
    | 'f' :: 'a' :: 'l' :: 's' :: 'e' :: rest => some (.bool false, rest)
    | '-' :: rest => readNumber true rest
    | cs => readNumber false cs

/-- The content of a text, if it is a JSON text. -/
def parse? (text : String) : Option Content :=
  match readValue 127 text.toList with
  | some (c, rest) => if (skipBlank rest).isEmpty then some c else none
  | none => none

end SceneFactory.Json
