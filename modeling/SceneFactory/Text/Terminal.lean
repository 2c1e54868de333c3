/-!
# Texts for terminals

A text that is written for a terminal holds control characters. A terminal does not
show them, nor what belongs to them: an escape character opens a sequence, which ends
with its last character, or a string, which ends with its own mark. `plainText` takes
all of this out and leaves what is to be read.

Blank space that moves the place of writing is shown even inside a sequence. The
sequence then waits: the characters that follow are shown too, up to the next one that
is not to be seen, and only there the sequence goes on.
-/

namespace SceneFactory.Text

/-- Whether a character of seven bits is a control character. The later ones, written with
more than one byte, are text here. -/
def isControl (c : Char) : Bool := c.toNat < 0x20 || c.toNat == 0x7F

/-- Whether a character moves the place of writing and does nothing else. -/
def isLayout (c : Char) : Bool := c == '\t' || c == '\n' || c == '\x0c' || c == '\r'

/-- Whether a character is to be seen, by itself or by the room that it leaves. -/
def isVisible (c : Char) : Bool := isLayout c || !isControl c

/-- What the next characters belong to. -/
inductive Phase where
  /-- The text to be read. -/
  | text
  /-- A sequence of which only the escape character is known. -/
  | escape
  /-- A short sequence that waits for its last character. -/
  | short
  /-- A sequence with parameters. -/
  | parameters
  /-- The head of a string for the device. -/
  | device
  /-- The head of such a string, behind a parameter. -/
  | deviceParameters
  /-- The head of such a string, behind the parameters. -/
  | deviceTail
  /-- A string that is not shown. -/
  | hidden
  /-- A string for the system around the terminal. -/
  | system
deriving DecidableEq, Inhabited

namespace Phase

/-- Whether a character stands between the parameters and the end of a sequence. -/
def isBetween (c : Char) : Bool := 0x20 ≤ c.toNat && c.toNat < 0x30

/-- Whether a character ends a sequence with parameters. -/
def isLast (c : Char) : Bool := 0x40 ≤ c.toNat && c.toNat < 0x7F

/-- Whether a character that is no parameter stands among the parameters. -/
def isMark (c : Char) : Bool := 0x3C ≤ c.toNat && c.toNat < 0x40

/-- Whether a character is written with the byte that ends a hidden string. -/
def isTerminator (c : Char) : Bool := (String.utf8EncodeChar c).contains 0x9C

/-- The phase behind a character that is not shown. -/
def behind (phase : Phase) (c : Char) : Phase :=
  if isControl c then
    -- a bell ends what the system is told
    if phase = .system ∧ c = '\x07' then .text else phase
  else if 0x80 ≤ c.toNat then
    if phase = .hidden ∧ isTerminator c then .text else phase
  else
    match phase with
    | .text => .text
    | .escape =>
      if isBetween c then .short
      else if c = '[' then .parameters
      else if c = ']' then .system
      else if c = 'P' then .device
      else if c = 'X' ∨ c = '^' ∨ c = '_' then .hidden
      else .text
    | .short => if isBetween c then .short else .text
    | .parameters => if isLast c then .text else .parameters
    | .device =>
      if isBetween c then .deviceTail
      else if isLast c then .hidden
      else .deviceParameters
    | .deviceParameters =>
      if isBetween c then .deviceTail
      else if isLast c ∨ isMark c then .hidden
      else .deviceParameters
    | .deviceTail => if isBetween c then .deviceTail else .hidden
    | .hidden => .hidden
    | .system => .system

/-- Whether a visible character is shown in a phase. -/
def shows (phase : Phase) (c : Char) : Bool :=
  match phase with
  | .text => true
  | .escape | .short | .parameters => isLayout c
  | _ => false

end Phase

/-- How far a terminal has read. -/
structure Terminal where
  phase : Phase
  /-- Whether the last character was shown. -/
  isShowing : Bool
deriving DecidableEq, Inhabited

namespace Terminal

/-- Nothing is open. -/
def start : Terminal := ⟨.text, false⟩

/-- The terminal after one more character. -/
def next (t : Terminal) (c : Char) : Terminal :=
  if c = '\x1b' then ⟨.escape, false⟩
  -- these two break off whatever is open
  else if c = '\x18' ∨ c = '\x1a' then ⟨.text, false⟩
  else if isVisible c && (t.isShowing || t.phase.shows c) then
    ⟨if c.toNat < 0x80 then t.phase else .text, true⟩
  else ⟨t.phase.behind c, false⟩

/-- What a terminal shows of a text. -/
def shown (t : Terminal) : List Char → List Char
  | [] => []
  | c :: cs =>
    if (t.next c).isShowing then c :: (t.next c).shown cs else (t.next c).shown cs

end Terminal

/-- What is to be read of a text that is written for a terminal. -/
def plainText (text : String) : String := String.ofList (Terminal.start.shown text.toList)

/-- A text that a terminal sets off from the others. -/
def setOff (text : String) : String := "\x1b[1m" ++ text ++ "\x1b[0m"

end SceneFactory.Text
