import SceneFactory.Report.Diagnostic
import SceneFactory.Text.Lines
import SceneFactory.Text.Width

/-!
# Rendering diagnostics

A diagnostic is shown under a headline with its message: the file, line and
column, the source lines that its span touches, the span marked in red, and the
label at the end of an arrow. A span within one line is underlined; a longer one
is bracketed in the margin, with the lines between its ends left out.

The span is taken to count characters. A span that starts beyond the source has
no place to be shown, so the headline stands alone; for a span that starts after
its end there is no rendering at all (`render?_isSome`).
-/

namespace SceneFactory.Report

/-! ## Ink -/

/-- The colors of a report. -/
inductive Ink where
  | plain
  | alarm
  | margin
  | faintMargin
  | source
deriving DecidableEq

/-- The terminal code of an ink. -/
def Ink.code : Ink → Option String
  | .plain => none
  | .alarm => some "31"
  | .margin => some "38;5;246"
  | .faintMargin => some "38;5;240"
  | .source => some "38;5;249"

/-- A text in an ink. -/
def paint (ink : Ink) (text : String) : String :=
  match ink.code with
  | none => text
  | some code => "\x1b[" ++ code ++ "m" ++ text ++ "\x1b[0m"

/-- A character in an ink, several times over. -/
def paintChar (ink : Ink) (c : Char) (times : Nat) : String :=
  String.join (List.replicate times (paint ink (String.singleton c)))

/-- Blanks. -/
def blanks (n : Nat) : String := String.ofList (List.replicate n ' ')

/-! ## Source lines -/

/-- The columns of a character that stands in a given column: a tab runs to the
next multiple of four. -/
def columnsAt (column : Nat) (c : Char) : Nat :=
  if c = '\t' then 4 - column % 4
  else if isBlankSpace c then 1
  else columnsOf c

/-- The columns of each of the first `count` characters of a line, one for those
beyond its end. -/
def columnWidths (line : TextLine) (count : Nat) : List Nat :=
  (List.range count).map fun i =>
    match line.shown[i]? with
    | some c => columnsAt i c
    | none => 1

/-- A line of source, in red where `marked` says so; blank space is widened to
its columns. -/
def sourceText (marked : Nat → Bool) (line : TextLine) : String :=
  String.join (line.shown.mapIdx fun i c =>
    let ink := if marked (line.offset + i) then Ink.alarm else Ink.source
    -- blank space takes its columns, anything else is painted once however wide it is
    if isBlankSpace c then paintChar ink ' ' (columnsAt i c) else paintChar ink c 1)

/-! ## Margins -/

/-- The margin of a line of source, with its number. -/
def numberMargin (width number : Nat) : String :=
  let digits := toString number
  " " ++ paint .margin (blanks (width - digits.length) ++ digits ++ " │") ++ " "

/-- The margin of a row between lines of source. -/
def rowMargin (width : Nat) (gap : Bool) : String :=
  " " ++ paint .faintMargin (blanks (width + 1) ++ if gap then "┆" else "│") ++ " "

/-! ## Spans within one line -/

/-- The line of a span that lies within it, and the arrow to the label. -/
def inlineRows (width index : Nat) (line : TextLine) (d : Diagnostic) : String :=
  -- the label hangs from the middle of the span
  let column := max ((d.span.start + d.span.stop) / 2) d.span.start - line.offset
  -- two columns beyond the span, so that the arrow has a tail
  let widths := columnWidths line (d.span.stop - line.offset + 2)
  let inSpan (place : Nat) : Bool := d.span.start ≤ place && place < d.span.stop
  let underlines := widths.mapIdx fun i w =>
    if i = column then
      if inSpan (line.offset + i) then
        paintChar .alarm '┬' (min w 1) ++ paintChar .alarm '─' (w - 1)
      else paintChar .alarm '│' (min w 1) ++ paintChar .alarm ' ' (w - 1)
    else if inSpan (line.offset + i) then paintChar .alarm '─' w
    else blanks w
  let arrow := widths.mapIdx fun i w =>
    if i = column then paintChar .alarm '╰' (min w 1) ++ paintChar .alarm '─' (w - 1)
    else if column < i then paintChar .alarm '─' w
    else blanks w
  numberMargin width (index + 1) ++ sourceText inSpan line ++ "\n" ++
    rowMargin width false ++ String.join underlines ++ "\n" ++
    rowMargin width false ++ String.join arrow ++ " " ++ d.label ++ "\n"

/-! ## Spans over several lines -/

/-- The rows of a span that begins and ends in different lines. The label stands
under the line that holds the span's last character; where the span reaches
beyond the source, it is not shown. -/
def multilineRows (width first : Nat) (lines : List TextLine) (d : Diagnostic) : String :=
  let inSpan (place : Nat) : Bool := d.span.start ≤ place && place < d.span.stop
  let last := d.span.stop - 1
  let opening (line : TextLine) : String :=
    numberMargin width (first + 1) ++
      paintChar .alarm '╭' 1 ++ paintChar .alarm '─' 1 ++ paintChar .alarm '▶' 1 ++
      paintChar .alarm ' ' 1 ++ sourceText inSpan line ++ "\n"
  let gap := rowMargin width true ++ paintChar .alarm '┆' 1 ++ blanks 3 ++ "\n"
  let closing (index : Nat) (line : TextLine) : String :=
    let columns := (columnWidths line (line.length + 2)).foldr (fun w n => w + n) 0
    numberMargin width (index + 1) ++
      paintChar .alarm '├' 1 ++ paintChar .alarm '─' 1 ++ paintChar .alarm '▶' 1 ++
      paintChar .alarm ' ' 1 ++ sourceText inSpan line ++ "\n" ++
      rowMargin width false ++ paintChar .alarm '│' 1 ++ blanks (3 + columns) ++ "\n" ++
      rowMargin width false ++ paintChar .alarm '╰' 1 ++ paintChar .alarm '─' (3 + columns) ++
      " " ++ d.label ++ "\n"
  match lines with
  | [] => ""
  | line :: rest =>
    -- the lines that neither end holds
    let between := rest.takeWhile fun l => !(l.offset ≤ last && last < l.stop)
    opening line ++ (if between.isEmpty then "" else gap) ++
      match rest.drop between.length with
      | [] => ""
      | l :: _ => closing (first + 1 + between.length) l

/-! ## The whole report -/

/-- The lines from the one with the span's first character to the one with its
last, as indices, if both are in the source. -/
def lineRange? (cs : List Char) (span : Span) : Option (Nat × Nat) := do
  let first ← lineIndex? cs span.start
  let last ← if span.stop ≤ span.start then some first else lineIndex? cs (span.stop - 1)
  return (first, last)

/-- The report below the headline. -/
def body (file : String) (cs : List Char) (d : Diagnostic) (first last : Nat) : String :=
  -- the margin is as wide as the largest line number
  let width := (toString (last + 1)).length
  let lines := (textLines cs).drop first |>.take (last + 1 - first)
  let (line, column) := (position? cs d.span.start).getD (0, 0)
  let rows :=
    if first < last then multilineRows width first lines d
    else
      match lines with
      -- a span that reaches beyond the source is not underlined
      | l :: _ => if d.span.stop ≤ l.stop then inlineRows width first l d
                  else rowMargin width false ++ "\n"
      | [] => ""
  blanks (width + 2) ++ paintChar .margin '╭' 1 ++ paintChar .margin '─' 1 ++
    paintChar .margin '[' 1 ++ file ++ ":" ++ toString line ++ ":" ++ toString column ++
    paintChar .margin ']' 1 ++ "\n" ++
    blanks (width + 2) ++ paintChar .margin '│' 1 ++ "\n" ++
    rows ++
    paint .margin (String.ofList (List.replicate (width + 2) '─') ++ "╯") ++ "\n"

/-- The rendering of a diagnostic against its source, if the span does not start
after its end. -/
def render? (file source : String) (d : Diagnostic) : Option String :=
  if d.span.stop < d.span.start then none
  else
    let headline := paint .alarm "Error:" ++ " " ++ d.message ++ "\n"
    let cs := source.toList
    match lineRange? cs d.span with
    | some (first, last) => some (headline ++ body file cs d first last)
    | none => some headline

/-- A diagnostic has a rendering iff its span does not start after its end. -/
theorem render?_isSome (file source : String) (d : Diagnostic) :
    (render? file source d).isSome = true ↔ d.span.start ≤ d.span.stop := by
  unfold render?
  split
  · simp; omega
  · dsimp only
    split <;> simp <;> omega

end SceneFactory.Report
