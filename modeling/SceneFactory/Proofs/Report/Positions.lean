import Mathlib.Data.List.Basic
import SceneFactory.Text.Lines

/-!
# Lines and columns

The position of a character, said of the characters in front of it (`placeOf`): a column further for
each, and a line further with the first column for each line break. Main statement:
`position?_eq_placeOf`. The lines that a text is cut into give every character its position, and no
two places have the same (`position?_inj`).
-/

set_option autoImplicit false

namespace SceneFactory

/-- Line and column of the character number `n` of a text that begins at a line and a column. A
carriage return with a line feed behind it is no line break of its own. -/
def placeFrom (line column : Nat) : List Char → Nat → Nat × Nat
  | _, 0 => (line, column)
  | [], n + 1 => (line, column + n + 1)
  | '\r' :: '\n' :: rest, n + 1 => placeFrom line (column + 1) ('\n' :: rest) n
  | c :: rest, n + 1 =>
    if isLineBreak c then placeFrom (line + 1) 1 rest n else placeFrom line (column + 1) rest n

theorem placeFrom_cons (line column n : Nat) {c : Char} {rest : List Char}
    (h : ∀ rest', c = '\r' → rest = '\n' :: rest' → False) :
    placeFrom line column (c :: rest) (n + 1) =
      if isLineBreak c then placeFrom (line + 1) 1 rest n
      else placeFrom line (column + 1) rest n := by
  rw [placeFrom]
  exact h

/-- Line and column of a character, counted from 1. -/
def placeOf (cs : List Char) (n : Nat) : Nat × Nat := placeFrom 1 1 cs n

/-! ## The line of a character -/

/-- The line with a given index is the one that holds a character. -/
structure HoldsAt (lines : List TextLine) (place index : Nat) (line : TextLine) : Prop where
  getElem? : lines[index]? = some line
  length_takeWhile : (lines.takeWhile fun l => l.offset ≤ place).length = index + 1
  offset_le : line.offset ≤ place
  lt_stop : place < line.stop

/-- Lines that begin behind a character do not hold it. -/
theorem takeWhile_linesFrom {offset place : Nat} (h : place < offset) (css : List (List Char)) :
    ((linesFrom offset css).takeWhile fun l => l.offset ≤ place) = [] := by
  cases css with
  | nil => rfl
  | cons cs css => rw [linesFrom, List.takeWhile_cons_of_neg (by simpa using h)]

theorem holdsAt_head {offset place : Nat} {cs : List Char} (hle : offset ≤ place)
    (hlt : place < offset + cs.length) (css : List (List Char)) :
    HoldsAt (linesFrom offset (cs :: css)) place 0 ⟨offset, cs.length, trimEnd cs⟩ where
  getElem? := rfl
  length_takeWhile := by
    rw [linesFrom, List.takeWhile_cons_of_pos (by simpa using hle), takeWhile_linesFrom hlt]
    rfl
  offset_le := hle
  lt_stop := hlt

theorem HoldsAt.tail {offset place index : Nat} {cs : List Char} {css : List (List Char)}
    {line : TextLine} (h : HoldsAt (linesFrom (offset + cs.length) css) place index line)
    (hle : offset ≤ place) : HoldsAt (linesFrom offset (cs :: css)) place (index + 1) line where
  getElem? := h.getElem?
  length_takeWhile := by
    rw [linesFrom, List.takeWhile_cons_of_pos (by simpa using hle), List.length_cons,
      h.length_takeWhile]
  offset_le := h.offset_le
  lt_stop := h.lt_stop

/-- A later character is not on an earlier line. -/
theorem HoldsAt.mono {lines : List TextLine} {place place' index index' : Nat} {l l' : TextLine}
    (h : HoldsAt lines place index l) (h' : HoldsAt lines place' index' l') (hle : place ≤ place') :
    index ≤ index' := by
  have hlength : ∀ lines : List TextLine, (lines.takeWhile fun l => l.offset ≤ place).length ≤
      (lines.takeWhile fun l => l.offset ≤ place').length := by
    intro lines
    induction lines with
    | nil => exact Nat.le_refl 0
    | cons l lines ih =>
      by_cases hl : l.offset ≤ place
      · rw [List.takeWhile_cons_of_pos (by simpa using hl),
          List.takeWhile_cons_of_pos (by simp; omega)]
        exact Nat.succ_le_succ ih
      · rw [List.takeWhile_cons_of_neg (by simpa using hl)]
        exact Nat.zero_le _
  -- the index is one less than the number of lines up to the character
  have hboth := hlength lines
  rw [h.length_takeWhile, h'.length_takeWhile] at hboth
  omega

/-- What has been read of a line is in the first line. -/
theorem exists_cutLines {line : List Char} (hne : line ≠ []) (cs : List Char) :
    ∃ first rest, cutLines line cs = first :: rest ∧ line.length ≤ first.length := by
  fun_induction cutLines line cs with
  | case1 line h => simp_all
  | case2 line h => exact ⟨_, _, rfl, by simp⟩
  | case3 line rest ih => exact ⟨_, _, rfl, by simp⟩
  | case4 line c rest hcr hbreak ih => exact ⟨_, _, rfl, by simp⟩
  | case5 line c rest hcr hbreak ih =>
    obtain ⟨first, more, hcut, hle⟩ := ih (List.cons_ne_nil c line)
    exact ⟨first, more, hcut, by rw [List.length_cons] at hle; omega⟩

/-- The line of a character gives its position. The line that is being read has been read up to
the character in front of the text. -/
theorem exists_holdsAt_cutLines (line cs : List Char) : ∀ offset start n : Nat, n < cs.length →
    ∃ index l, HoldsAt (linesFrom offset (cutLines line cs)) (offset + line.length + n) index l ∧
      placeFrom start (line.length + 1) cs n =
        (start + index, offset + line.length + n - l.offset + 1) := by
  -- the character next to be read is in the first line
  have hnext : ∀ {first : List Char} (rest : List (List Char)) (offset start : Nat)
      {line : List Char} (cs : List Char), line.length < first.length →
        ∃ index l, HoldsAt (linesFrom offset (first :: rest)) (offset + line.length + 0) index l ∧
          placeFrom start (line.length + 1) cs 0 =
            (start + index, offset + line.length + 0 - l.offset + 1) := by
    intro first rest offset start line cs hlt
    refine ⟨0, _, holdsAt_head (by omega) (by omega) rest, ?_⟩
    rw [placeFrom]
    dsimp only
    congr 1
    omega
  have hothers : ∀ {first rest : List Char} {offset start place n : Nat},
      place = offset + first.length + n →
      (∃ index l, HoldsAt (linesFrom (offset + first.length) (cutLines [] rest))
          (offset + first.length + 0 + n) index l ∧
        placeFrom (start + 1) 1 rest n =
          (start + 1 + index, offset + first.length + 0 + n - l.offset + 1)) →
      ∃ index l, HoldsAt (linesFrom offset (first :: cutLines [] rest)) place index l ∧
        placeFrom (start + 1) 1 rest n = (start + index, place - l.offset + 1) := by
    rintro first rest offset start place n rfl ⟨index, l, hat, hplace⟩
    refine ⟨index + 1, l, hat.tail (by omega), ?_⟩
    rw [hplace]
    congr 1
    omega
  fun_induction cutLines line cs with
  | case1 | case2 => exact fun _ _ _ h => absurd h (Nat.not_lt_zero _)
  | case3 line rest ih =>
    intro offset start n hn
    rcases n with _ | _ | n
    · exact hnext _ _ _ _ (by simp)
    · refine ⟨0, _, holdsAt_head (by omega) (by simp; omega) _, ?_⟩
      rw [placeFrom, placeFrom]
      dsimp only
      congr 1
      omega
    · have hbreak : placeFrom start (line.length + 1) ('\r' :: '\n' :: rest) (n + 2) =
          placeFrom (start + 1) 1 rest n := by
        rw [placeFrom, placeFrom, if_pos (by decide)]
        simp
      rw [hbreak]
      refine hothers ?_ (ih _ _ n (by simpa using hn))
      simp
      omega
  | case4 line c rest hcr hbreak ih =>
    intro offset start n hn
    cases n with
    | zero => exact hnext _ _ _ _ (by simp)
    | succ n =>
      rw [placeFrom_cons _ _ _ hcr, if_pos hbreak]
      refine hothers ?_ (ih _ _ n (by simpa using hn))
      simp
      omega
  | case5 line c rest hcr hbreak ih =>
    intro offset start n hn
    cases n with
    | zero =>
      obtain ⟨first, more, hcut, hle⟩ := exists_cutLines (List.cons_ne_nil c line) rest
      rw [hcut]
      exact hnext _ _ _ _ (by rw [List.length_cons] at hle; omega)
    | succ n =>
      obtain ⟨index, l, hat, hplace⟩ := ih offset start n (by simpa using hn)
      have hsame : offset + (c :: line).length + n = offset + line.length + (n + 1) := by
        simp
        omega
      rw [hsame] at hat hplace
      refine ⟨index, l, hat, ?_⟩
      rw [placeFrom_cons _ _ _ hcr, if_neg hbreak]
      exact hplace

/-- A character of a text is in one of its lines, which gives its position. -/
theorem exists_holdsAt {cs : List Char} {place : Nat} (h : place < cs.length) :
    ∃ index l, HoldsAt (textLines cs) place index l ∧
      placeOf cs place = (index + 1, place - l.offset + 1) := by
  obtain ⟨index, l, hat, hplace⟩ := exists_holdsAt_cutLines [] cs 0 1 place h
  simp only [List.length_nil, Nat.zero_add] at hat hplace
  rw [Nat.add_comm 1 index] at hplace
  exact ⟨index, l, hat, hplace⟩

theorem HoldsAt.lineIndex? {cs : List Char} {place index : Nat} {l : TextLine}
    (h : HoldsAt (textLines cs) place index l) (hlt : place < cs.length) :
    SceneFactory.lineIndex? cs place = some index := by
  have hne : cs.isEmpty = false := by
    cases cs with
    | nil => cases hlt
    | cons c cs => rfl
  rw [SceneFactory.lineIndex?, hne, h.length_takeWhile, Bool.false_or, if_neg (by simp; omega),
    Nat.add_sub_cancel]

/-- The lines of a text give each of its characters its position. -/
theorem position?_eq_placeOf {cs : List Char} {place : Nat} (h : place < cs.length) :
    position? cs place = some (placeOf cs place) := by
  obtain ⟨index, l, hat, hplace⟩ := exists_holdsAt h
  rw [position?, hat.lineIndex? h, hplace, Option.map_some, hat.getElem?]
  rfl

/-! ## Places with a position -/

/-- A place has a line if the text is not empty and the place is not beyond it. -/
theorem lineIndex?_eq_none_iff {cs : List Char} {place : Nat} :
    lineIndex? cs place = none ↔ cs = [] ∨ cs.length < place := by
  rw [lineIndex?]
  split <;> simp_all

/-- The first line begins with its text. -/
theorem exists_textLines {cs : List Char} (h : cs ≠ []) :
    ∃ first rest, textLines cs = first :: rest ∧ first.offset = 0 := by
  rw [textLines]
  cases hcut : cutLines [] cs with
  | nil =>
    have hflat := flatten_cutLines_nil cs
    rw [hcut] at hflat
    exact absurd hflat.symm h
  | cons line lines => exact ⟨_, _, rfl, rfl⟩

/-- The line of a place does not begin behind it. -/
theorem exists_line_of_lineIndex? {cs : List Char} {place index : Nat}
    (h : lineIndex? cs place = some index) :
    ∃ l, (textLines cs)[index]? = some l ∧ l.offset ≤ place := by
  have hne : cs ≠ [] := by
    rintro rfl
    cases h
  obtain ⟨first, rest, hlines, hfirst⟩ := exists_textLines hne
  have hindex : index < ((textLines cs).takeWhile fun l => l.offset ≤ place).length := by
    rw [lineIndex?] at h
    split at h
    · cases h
    · cases h
      rw [hlines, List.takeWhile_cons_of_pos (by simp [hfirst])]
      simp
  obtain ⟨l, hl⟩ : ∃ l, ((textLines cs).takeWhile fun l => l.offset ≤ place)[index]? = some l :=
    ⟨_, List.getElem?_eq_getElem hindex⟩
  have hall := List.all_eq_true.1 List.all_takeWhile l (List.mem_of_getElem? hl)
  refine ⟨l, ?_, by simpa using hall⟩
  obtain ⟨more, hmore⟩ := List.takeWhile_prefix (l := textLines cs) fun l => l.offset ≤ place
  rw [← hmore, List.getElem?_append_left hindex]
  exact hl

/-- No two places have the same position. -/
theorem position?_inj {cs : List Char} {place place' : Nat} {x : Nat × Nat}
    (h : position? cs place = some x) (h' : position? cs place' = some x) : place = place' := by
  obtain ⟨index, hindex, hx⟩ := Option.map_eq_some_iff.1 h
  obtain ⟨index', hindex', hx'⟩ := Option.map_eq_some_iff.1 h'
  obtain ⟨l, hl, hle⟩ := exists_line_of_lineIndex? hindex
  obtain ⟨l', hl', hle'⟩ := exists_line_of_lineIndex? hindex'
  rw [← hx'] at hx
  obtain ⟨hsame, hcolumn⟩ := Prod.mk.inj hx
  obtain rfl : index = index' := Nat.succ.inj hsame
  rw [hl, Option.some.injEq] at hl'
  subst hl'
  -- in one line the columns tell the places apart
  rw [hl] at hcolumn
  simp only [Option.map_some, Option.getD_some] at hcolumn
  omega

/-! ## What lines show -/

theorem exists_of_mem_linesFrom {offset : Nat} {css : List (List Char)} {l : TextLine}
    (h : l ∈ linesFrom offset css) :
    ∃ pre cs post, css = pre ++ cs :: post ∧ l.offset = offset + pre.flatten.length ∧
      l.shown = trimEnd cs := by
  induction css generalizing offset with
  | nil => cases h
  | cons cs css ih =>
    rw [linesFrom] at h
    rcases List.mem_cons.1 h with rfl | h
    · exact ⟨[], cs, css, rfl, rfl, rfl⟩
    · obtain ⟨pre, ds, post, rfl, hoffset, hshown⟩ := ih h
      refine ⟨cs :: pre, ds, post, rfl, ?_, hshown⟩
      rw [hoffset, List.flatten_cons, List.length_append, Nat.add_assoc]

/-- A line shows the characters of the text from its offset on, as far as it goes. -/
theorem shown_prefix {cs : List Char} {l : TextLine} (h : l ∈ textLines cs) :
    l.shown <+: cs.drop l.offset := by
  obtain ⟨pre, line, post, hcut, hoffset, hshown⟩ := exists_of_mem_linesFrom h
  have hcs := flatten_cutLines_nil cs
  rw [hcut, List.flatten_append, List.flatten_cons] at hcs
  have htrim : trimEnd line <+: line := by
    rw [trimEnd, ← List.reverse_suffix, List.reverse_reverse]
    exact List.dropWhile_suffix _
  rw [hshown, hoffset, Nat.zero_add, ← hcs, List.drop_left]
  exact htrim.trans (List.prefix_append line _)

end SceneFactory
