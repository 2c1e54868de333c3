import Mathlib.Data.List.Basic
import SceneFactory.Proofs.Markup.Lexing
import SceneFactory.Proofs.Report.Positions
import SceneFactory.Report.Render

/-!
# What a report shows

Of a report two things can be read off: the position that its frame names (`Names`) and the
characters that are in red in its rows of source (`HasRow`). A report names the position of the
character that its span begins with, if it has a frame at all (`names_iff`), and shows the lines of
the first and the last character of its span, with the characters in red that the span counts
(`hasRow_of_render?`).
-/

set_option autoImplicit false

namespace SceneFactory.Report

/-! ## The position -/

/-- The headline of a report. -/
def headline (d : Diagnostic) : String := paint .alarm "Error:" ++ " " ++ d.message ++ "\n"

/-- The top of the frame of a report, with the position in it. -/
def frameTop (file : String) (indent line column : Nat) : String :=
  blanks indent ++ paintChar .margin '╭' 1 ++ paintChar .margin '─' 1 ++ paintChar .margin '[' 1 ++
    file ++ ":" ++ toString line ++ ":" ++ toString column ++ paintChar .margin ']' 1

/-- The report names a position: it stands behind the file at the top of the frame. -/
def Names (file : String) (d : Diagnostic) (report : String) (line column : Nat) : Prop :=
  ∃ (indent : Nat) (rest : String),
    report = headline d ++ (frameTop file indent line column ++ rest)

/-- Characters of a kind are told apart from a rest that begins with none of it. -/
theorem append_inj_of_all {p : Char → Bool} {cs ds rest rest' : List Char}
    (hcs : ∀ c ∈ cs, p c = true) (hds : ∀ d ∈ ds, p d = true)
    (hrest : ∀ c ∈ rest.head?, p c = false) (hrest' : ∀ c ∈ rest'.head?, p c = false)
    (h : cs ++ rest = ds ++ rest') : cs = ds ∧ rest = rest' := by
  have hleft := Markup.takeWhile_append_rest hcs hrest
  have hright := Markup.takeWhile_append_rest hds hrest'
  rw [h] at hleft
  exact ⟨hleft.1.symm.trans hright.1, hleft.2.symm.trans hright.2⟩

/-- The characters of the top of a frame, with the digits of both numbers. -/
theorem toList_frameTop (file : String) (indent line column : Nat) :
    (frameTop file indent line column).toList = List.replicate indent ' ' ++
      ("\x1b[38;5;246m╭\x1b[0m\x1b[38;5;246m─\x1b[0m\x1b[38;5;246m[\x1b[0m".toList ++
        (file.toList ++ ':' :: (Nat.toDigits 10 line ++ ':' :: (Nat.toDigits 10 column ++
          "\x1b[38;5;246m]\x1b[0m".toList)))) := by
  have hmark : ∀ c, (paintChar .margin c 1).toList =
      "\x1b[38;5;246m".toList ++ c :: "\x1b[0m".toList := by
    intro c
    simp [paintChar, paint, Ink.code, String.join]
  simp only [frameTop, String.toList_append, hmark, blanks, String.toList_ofList,
    Nat.toString_eq_ofList_toDigits, List.append_assoc]
  rfl

/-- A report names one position at most. -/
theorem frameTop_inj {file : String} {indent indent' line line' column column' : Nat}
    {rest rest' : String} (h : frameTop file indent line column ++ rest =
      frameTop file indent' line' column' ++ rest') : line = line' ∧ column = column' := by
  have hdigits : ∀ n, ∀ c ∈ Nat.toDigits 10 n, Char.isDigit c = true := fun n c hc =>
    Nat.isDigit_of_mem_toDigits (by decide) (by decide) hc
  have hvalue : ∀ {m n : Nat}, Nat.toDigits 10 m = Nat.toDigits 10 n → m = n := by
    intro m n hmn
    have hof := congrArg (fun cs => Nat.ofDigitChars 10 cs 0) hmn
    simpa using hof
  have hchars := congrArg String.toList h
  simp only [String.toList_append, toList_frameTop, List.append_assoc, List.cons_append] at hchars
  -- the blanks, the line and the column each end where another kind of character stands
  obtain ⟨-, hframe⟩ := append_inj_of_all (p := (· = ' ')) (by simp) (by simp) (by simp) (by simp)
    hchars
  rw [List.append_cancel_left_eq, List.append_cancel_left_eq, List.cons.injEq] at hframe
  obtain ⟨hline, hcolumn⟩ := append_inj_of_all (hdigits line) (hdigits line') (by simp) (by simp)
    hframe.2
  obtain ⟨hcolumn, -⟩ := append_inj_of_all (hdigits column) (hdigits column') (by simp) (by simp)
    (List.cons.inj hcolumn).2
  exact ⟨hvalue hline, hvalue hcolumn⟩

theorem names_frame {file : String} {d : Diagnostic} {indent line column line' column' : Nat}
    {rest : String} : Names file d (headline d ++ (frameTop file indent line column ++ rest))
      line' column' ↔ line = line' ∧ column = column' := by
  constructor
  · rintro ⟨indent', rest', h⟩
    rw [String.append_right_inj] at h
    exact frameTop_inj h
  · rintro ⟨rfl, rfl⟩
    exact ⟨indent, rest, rfl⟩

/-- A headline alone names nothing. -/
theorem not_names_headline {file : String} {d : Diagnostic} {line column : Nat} :
    ¬Names file d (headline d) line column := by
  rintro ⟨indent, rest, h⟩
  have hchars := congrArg (fun s => s.toList.length) h
  simp [toList_frameTop] at hchars

/-- The rows of source in a report, with the label. -/
def excerpt (cs : List Char) (d : Diagnostic) (first last : Nat) : String :=
  let width := (toString (last + 1)).length
  let lines := (textLines cs).drop first |>.take (last + 1 - first)
  if first < last then multilineRows width first lines d
  else
    match lines with
    | l :: _ => if d.span.stop ≤ l.stop then inlineRows width first l d
                else rowMargin width false ++ "\n"
    | [] => ""

/-- There are lines for both ends of a span unless it reaches beyond the place behind a text. -/
theorem lineRange?_isSome_iff {cs : List Char} {span : Span} (hlt : span.start < span.stop)
    (hne : cs ≠ []) : (lineRange? cs span).isSome = true ↔ span.stop ≤ cs.length + 1 := by
  have hsome : ∀ place, (lineIndex? cs place).isSome = true ↔ place ≤ cs.length := by
    intro place
    rw [← Option.ne_none_iff_isSome, Ne, lineIndex?_eq_none_iff, not_or, Nat.not_lt]
    exact and_iff_right hne
  have hboth : (lineRange? cs span).isSome = true ↔
      (lineIndex? cs span.start).isSome = true ∧ (lineIndex? cs (span.stop - 1)).isSome = true := by
    rw [lineRange?]
    simp only [if_neg (Nat.not_le.2 hlt)]
    cases lineIndex? cs span.start <;> cases lineIndex? cs (span.stop - 1) <;> simp
  rw [hboth, hsome, hsome]
  omega

/-- Below the headline is a frame with the position at its top and the excerpt in it. -/
theorem render?_eq (file : String) {source : String} {d : Diagnostic}
    {first last line column : Nat} (hle : d.span.start ≤ d.span.stop)
    (hrange : lineRange? source.toList d.span = some (first, last))
    (hposition : position? source.toList d.span.start = some (line, column)) :
    ∃ indent above below, render? file source d =
      some (headline d ++ (frameTop file indent line column ++
        (above ++ (excerpt source.toList d first last ++ below)))) := by
  let indent := (toString (last + 1)).length + 2
  have hbody : body file source.toList d first last =
      frameTop file indent line column ++ "\n" ++
        blanks indent ++ paintChar .margin '│' 1 ++ "\n" ++ excerpt source.toList d first last ++
          paint .margin (String.ofList (List.replicate indent '─') ++ "╯") ++ "\n" := by
    rw [body, hposition]
    rfl
  refine ⟨indent, "\n" ++ (blanks indent ++ (paintChar .margin '│' 1 ++ "\n")),
    paint .margin (String.ofList (List.replicate indent '─') ++ "╯") ++ "\n", ?_⟩
  rw [render?, if_neg (Nat.not_lt.2 hle)]
  dsimp only
  rw [hrange]
  simp only [hbody, headline, String.append_assoc]

/-- Without lines for both ends of its span there is only the headline of a report. -/
theorem render?_eq_headline (file : String) {source : String} {d : Diagnostic}
    (hle : d.span.start ≤ d.span.stop) (hrange : lineRange? source.toList d.span = none) :
    render? file source d = some (headline d) := by
  rw [render?, if_neg (Nat.not_lt.2 hle)]
  dsimp only
  rw [hrange]
  rfl

/-- A report names the position of the character that its span begins with, if both ends of the
span are in the source. -/
theorem names_iff {file source report : String} {d : Diagnostic}
    (h : render? file source d = some report) {line column : Nat} :
    Names file d report line column ↔ (lineRange? source.toList d.span).isSome = true ∧
      position? source.toList d.span.start = some (line, column) := by
  have hle := (render?_isSome file source d).1 (Option.isSome_iff_exists.2 ⟨report, h⟩)
  cases hrange : lineRange? source.toList d.span with
  | none =>
    rw [render?_eq_headline file hle hrange, Option.some.injEq] at h
    rw [← h]
    exact iff_of_false not_names_headline (by simp)
  | some range =>
    obtain ⟨first, last⟩ := range
    obtain ⟨line', column', hposition⟩ :
        ∃ line column, position? source.toList d.span.start = some (line, column) := by
      obtain ⟨first', hfirst, -⟩ := Option.bind_eq_some_iff.1 hrange
      exact ⟨_, _, by rw [position?, hfirst]; rfl⟩
    obtain ⟨indent, above, below, hreport⟩ := render?_eq file hle hrange hposition
    rw [hreport, Option.some.injEq] at h
    rw [← h, hposition]
    exact names_frame.trans (by simp)

/-! ## The excerpt -/

/-- Whether the span of a diagnostic counts a character. -/
def covers (d : Diagnostic) (place : Nat) : Bool := d.span.start ≤ place && place < d.span.stop

/-- The text has a line of source in it, with the characters in red whose places are marked. -/
def HasRow (text : String) (marked : Nat → Bool) (l : TextLine) : Prop :=
  ∃ above below, text = above ++ (sourceText marked l ++ ("\n" ++ below))

theorem HasRow.within {text : String} {marked : Nat → Bool} {l : TextLine}
    (h : HasRow text marked l) (before behind : String) :
    HasRow (before ++ (text ++ behind)) marked l := by
  obtain ⟨above, below, rfl⟩ := h
  exact ⟨before ++ above, below ++ behind, by simp only [String.append_assoc]⟩

theorem hasRow_inlineRows (width index : Nat) (l : TextLine) (d : Diagnostic) :
    HasRow (inlineRows width index l d) (covers d) l :=
  ⟨numberMargin width (index + 1), _, by simp only [inlineRows, String.append_assoc]; rfl⟩

/-- The first line of a span over several. -/
def openingRow (width first : Nat) (l : TextLine) (d : Diagnostic) : String :=
  numberMargin width (first + 1) ++ paintChar .alarm '╭' 1 ++ paintChar .alarm '─' 1 ++
    paintChar .alarm '▶' 1 ++ paintChar .alarm ' ' 1 ++ sourceText (covers d) l ++ "\n"

/-- The last line of a span over several, with the label under it. -/
def closingRows (width index : Nat) (l : TextLine) (d : Diagnostic) : String :=
  let columns := (columnWidths l (l.length + 2)).foldr (fun w n => w + n) 0
  numberMargin width (index + 1) ++ paintChar .alarm '├' 1 ++ paintChar .alarm '─' 1 ++
    paintChar .alarm '▶' 1 ++ paintChar .alarm ' ' 1 ++ sourceText (covers d) l ++ "\n" ++
    rowMargin width false ++ paintChar .alarm '│' 1 ++ blanks (3 + columns) ++ "\n" ++
    rowMargin width false ++ paintChar .alarm '╰' 1 ++ paintChar .alarm '─' (3 + columns) ++
    " " ++ d.label ++ "\n"

theorem hasRow_openingRow (width first : Nat) (l : TextLine) (d : Diagnostic) :
    HasRow (openingRow width first l d) (covers d) l :=
  ⟨numberMargin width (first + 1) ++ (paintChar .alarm '╭' 1 ++ (paintChar .alarm '─' 1 ++
    (paintChar .alarm '▶' 1 ++ paintChar .alarm ' ' 1))), "", by
      simp only [openingRow, String.append_assoc, String.append_empty]⟩

theorem hasRow_closingRows (width index : Nat) (l : TextLine) (d : Diagnostic) :
    HasRow (closingRows width index l d) (covers d) l :=
  ⟨numberMargin width (index + 1) ++ (paintChar .alarm '├' 1 ++ (paintChar .alarm '─' 1 ++
    (paintChar .alarm '▶' 1 ++ paintChar .alarm ' ' 1))), _, by
      simp only [closingRows, String.append_assoc]; rfl⟩

/-- Whether a line holds the last character of a span. -/
def holdsLast (d : Diagnostic) (l : TextLine) : Bool :=
  l.offset ≤ d.span.stop - 1 && d.span.stop - 1 < l.stop

/-- Of a span over several lines the first and the last are shown. -/
theorem multilineRows_eq (width first : Nat) (line : TextLine) {rest more : List TextLine}
    {d : Diagnostic} {l : TextLine} (h : rest.dropWhile (fun l => !holdsLast d l) = l :: more) :
    ∃ gap index, multilineRows width first (line :: rest) d =
      openingRow width first line d ++ (gap ++ closingRows width index l d) := by
  have hdrop : rest.drop (rest.takeWhile fun l => !holdsLast d l).length = l :: more := by
    rw [← h]
    have hsplit := List.takeWhile_append_dropWhile (p := fun l => !holdsLast d l) (l := rest)
    exact (congrArg (List.drop _) hsplit.symm).trans List.drop_left
  refine ⟨if (rest.takeWhile fun l => !holdsLast d l).isEmpty then ""
    else rowMargin width true ++ paintChar .alarm '┆' 1 ++ blanks 3 ++ "\n",
    first + 1 + (rest.takeWhile fun l => !holdsLast d l).length, ?_⟩
  have hcovers : covers d = fun place => d.span.start ≤ place && place < d.span.stop := rfl
  simp only [holdsLast] at hdrop ⊢
  simp only [multilineRows, openingRow, closingRows, hcovers, hdrop, String.append_assoc]

theorem lineRange?_eq_some {cs : List Char} {span : Span} {first last : Nat}
    (hlt : span.start < span.stop) (hfirst : lineIndex? cs span.start = some first)
    (hlast : lineIndex? cs (span.stop - 1) = some last) :
    lineRange? cs span = some (first, last) := by
  simp [lineRange?, hfirst, hlast, Nat.not_le.2 hlt]

/-- The excerpt shows the line of the first character and one that holds the last. -/
theorem hasRow_excerpt {cs : List Char} {d : Diagnostic} {first last : Nat} {l l' : TextLine}
    (hlt : d.span.start < d.span.stop) (h : HoldsAt (textLines cs) d.span.start first l)
    (h' : HoldsAt (textLines cs) (d.span.stop - 1) last l') :
    HasRow (excerpt cs d first last) (covers d) l ∧
      ∃ l' ∈ textLines cs, holdsLast d l' = true ∧
        HasRow (excerpt cs d first last) (covers d) l' := by
  have hlines : (textLines cs).drop first = l :: (textLines cs).drop (first + 1) := by
    obtain ⟨hindex, hl⟩ := List.getElem?_eq_some_iff.1 h.getElem?
    rw [List.drop_eq_getElem_cons hindex, hl]
  have hholds : holdsLast d l' = true := by
    have hle := h'.offset_le
    have hstop := h'.lt_stop
    simp [holdsLast, hle, hstop]
  rcases Nat.eq_or_lt_of_le (h.mono h' (by omega)) with rfl | hmore
  · obtain rfl : l = l' := Option.some.inj (h.getElem?.symm.trans h'.getElem?)
    have hstop := h'.lt_stop
    have hrow : excerpt cs d first first =
        inlineRows (toString (first + 1)).length first l d := by
      rw [excerpt, if_neg (Nat.lt_irrefl first), hlines, Nat.add_sub_cancel_left]
      exact if_pos (by omega)
    rw [hrow]
    exact ⟨hasRow_inlineRows _ _ l d, l, List.mem_of_getElem? h.getElem?, hholds,
      hasRow_inlineRows _ _ l d⟩
  · let rest := ((textLines cs).drop (first + 1)).take (last - first)
    have hrest : ((textLines cs).drop first).take (last + 1 - first) = l :: rest := by
      rw [hlines, show last + 1 - first = (last - first) + 1 by omega, List.take_succ_cons]
    have hmem : l' ∈ rest := by
      apply List.mem_of_getElem? (i := last - first - 1)
      rw [List.getElem?_take_of_lt (by omega), List.getElem?_drop,
        show first + 1 + (last - first - 1) = last by omega]
      exact h'.getElem?
    cases hfound : rest.dropWhile (fun l => !holdsLast d l) with
    | nil =>
      have hsplit := List.takeWhile_append_dropWhile (p := fun l => !holdsLast d l) (l := rest)
      rw [hfound, List.append_nil] at hsplit
      rw [← hsplit] at hmem
      have hall := List.all_eq_true.1 List.all_takeWhile l' hmem
      rw [hholds] at hall
      cases hall
    | cons l' more =>
      have hhead := List.head?_dropWhile_not (fun l => !holdsLast d l) rest
      rw [hfound] at hhead
      have hmem' : l' ∈ textLines cs := by
        have hsuffix : l' ∈ rest.dropWhile fun l => !holdsLast d l := by
          rw [hfound]
          exact List.mem_cons_self
        exact List.mem_of_mem_drop (List.mem_of_mem_take ((List.dropWhile_suffix _).mem hsuffix))
      obtain ⟨gap, index, hrows⟩ :=
        multilineRows_eq (toString (last + 1)).length first l hfound
      have hexcerpt : excerpt cs d first last =
          openingRow (toString (last + 1)).length first l d ++
            (gap ++ closingRows (toString (last + 1)).length index l' d) := by
        rw [excerpt, if_pos hmore, hrest, hrows]
      rw [hexcerpt]
      have hopening := (hasRow_openingRow (toString (last + 1)).length first l d).within ""
        (gap ++ closingRows (toString (last + 1)).length index l' d)
      have hclosing := (hasRow_closingRows (toString (last + 1)).length index l' d).within
        (openingRow (toString (last + 1)).length first l d ++ gap) ""
      rw [String.empty_append] at hopening
      rw [String.append_empty, String.append_assoc] at hclosing
      exact ⟨hopening, l', hmem', by simpa using hhead, hclosing⟩

/-- A report shows the lines of the first and the last character of its span, with the
characters in red that the span counts. -/
theorem hasRow_of_render? {file source report : String} {d : Diagnostic}
    (h : render? file source d = some report) (hlt : d.span.start < d.span.stop)
    (hle : d.span.stop ≤ source.toList.length) :
    (∃ l ∈ textLines source.toList, (l.offset ≤ d.span.start ∧ d.span.start < l.stop) ∧
        HasRow report (covers d) l) ∧
      ∃ l ∈ textLines source.toList, (l.offset ≤ d.span.stop - 1 ∧ d.span.stop - 1 < l.stop) ∧
        HasRow report (covers d) l := by
  have hstart : d.span.start < source.toList.length := by omega
  have hstop : d.span.stop - 1 < source.toList.length := by omega
  obtain ⟨first, l, hat, -⟩ := exists_holdsAt hstart
  obtain ⟨last, l', hat', -⟩ := exists_holdsAt hstop
  have hrange := lineRange?_eq_some hlt (hat.lineIndex? hstart) (hat'.lineIndex? hstop)
  have hposition := position?_eq_placeOf hstart
  generalize placeOf source.toList d.span.start = place at hposition
  obtain ⟨line, column⟩ := place
  obtain ⟨indent, above, below, hreport⟩ := render?_eq file (Nat.le_of_lt hlt) hrange hposition
  rw [hreport, Option.some.injEq] at h
  have hwithin : ∀ {l}, HasRow (excerpt source.toList d first last) (covers d) l →
      HasRow report (covers d) l := by
    intro l hrow
    have hall := hrow.within (headline d ++ (frameTop file indent line column ++ above)) below
    simp only [String.append_assoc] at hall
    exact h ▸ hall
  obtain ⟨hfirst, l'', hl'', hholds, hlast⟩ := hasRow_excerpt hlt hat hat'
  exact ⟨⟨l, List.mem_of_getElem? hat.getElem?, ⟨hat.offset_le, hat.lt_stop⟩, hwithin hfirst⟩,
    l'', hl'', by simpa [holdsLast] using hholds, hwithin hlast⟩

end SceneFactory.Report
