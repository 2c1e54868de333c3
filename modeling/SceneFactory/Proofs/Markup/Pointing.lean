import SceneFactory.Proofs.Markup.Losses
import SceneFactory.Proofs.Markup.Stops
import SceneFactory.Proofs.Report.Excerpt

/-!
# Where reports point

The span of a syntax error counts bytes, and a report takes a span to count characters. Main
statement: `report_points_iff`. The report of an error at a token names the position of the token
exactly if all characters before the token are of one byte, and the characters that it marks are
those of the token exactly if those of the token are of one byte as well. With longer characters
before it the report names a later position, and with many of them none at all.
-/

set_option autoImplicit false

namespace SceneFactory.Markup

/-! ## Bytes and characters -/

/-- A text of characters of one byte. -/
def IsAscii (cs : List Char) : Prop := ∀ c ∈ cs, c.utf8Size = 1

theorem isAscii_append {cs ds : List Char} : IsAscii (cs ++ ds) ↔ IsAscii cs ∧ IsAscii ds :=
  List.forall_mem_append

theorem length_le_byteLength (cs : List Char) : cs.length ≤ byteLength cs := by
  induction cs with
  | nil => exact Nat.le_refl 0
  | cons c cs ih =>
    have hpos := c.utf8Size_pos
    rw [List.length_cons, byteLength_cons]
    omega

/-- Bytes and characters are as many if every character is of one byte. -/
theorem byteLength_eq_length_iff {cs : List Char} : byteLength cs = cs.length ↔ IsAscii cs := by
  induction cs with
  | nil => simp [IsAscii]
  | cons c cs ih =>
    have hpos := c.utf8Size_pos
    have hle := length_le_byteLength cs
    rw [IsAscii, List.forall_mem_cons, ← IsAscii, ← ih, byteLength_cons, List.length_cons]
    omega

/-! ## The token of an error -/

/-- An error at a token has the token's place, counted in bytes. -/
theorem exists_piece_of_error {source : String} {e : SyntaxError} {t : Token}
    (h : parse source = .error e) (ht : e.found = some t) :
    ∃ left text right, pieces source.toList = left ++ ⟨.token t, text⟩ :: right ∧
      e.span = ⟨byteLength (left.flatMap Piece.text),
        byteLength (left.flatMap Piece.text ++ text)⟩ := by
  simp only [parse] at h
  split at h
  · cases h
  · rename_i stop hstop
    cases h
    obtain ⟨lexeme, hhead, rfl⟩ := Option.map_eq_some_iff.1 ht
    obtain ⟨rest, hrest⟩ := List.head?_eq_some_iff.1 hhead
    have hmem : lexeme ∈ lexemes source := by
      apply (suffix_of_readComponent hstop).mem
      rw [hrest]
      exact List.mem_cons_self
    obtain ⟨left, ⟨kind, text⟩, right, hsplit, rfl, hspan⟩ := mem_lexemesFrom_iff.1 hmem
    refine ⟨left, text, right, hsplit, ?_⟩
    rw [Stop.span, hrest]
    dsimp only
    rw [hspan, Nat.zero_add, byteLength_append]
    rfl

/-- Whether two stretches of places that are not empty are the same shows at their ends. -/
theorem forall_place_iff {start stop start' stop' : Nat} (h : start < stop) (h' : start' < stop') :
    (∀ place, start ≤ place ∧ place < stop ↔ start' ≤ place ∧ place < stop') ↔
      start = start' ∧ stop = stop' := by
  constructor
  · intro hall
    have hstart := hall start
    have hstart' := hall start'
    have hstop := hall (stop - 1)
    have hstop' := hall (stop' - 1)
    omega
  · rintro ⟨rfl, rfl⟩ place
    rfl

/-! ## Reports of a stretch of bytes -/

section

variable {file source report : String} {d : Diagnostic} {before text after : List Char}

theorem start_lt_stop (hne : text ≠ [])
    (hspan : d.span = ⟨byteLength before, byteLength (before ++ text)⟩) :
    d.span.start < d.span.stop := by
  obtain ⟨c, cs, rfl⟩ := List.exists_cons_of_ne_nil hne
  have hpos : 0 < byteLength (c :: cs) := byteLength_pos
  rw [hspan, byteLength_append]
  dsimp only
  omega

/-- The report names the position of the character whose number the byte offset is. -/
theorem names_iff_position (hsource : source.toList = before ++ text ++ after) (hne : text ≠ [])
    (hspan : d.span = ⟨byteLength before, byteLength (before ++ text)⟩)
    (hreport : Report.render? file source d = some report) (line column : Nat) :
    Report.Names file d report line column ↔
      byteLength (before ++ text) ≤ source.toList.length + 1 ∧
        position? source.toList (byteLength before) = some (line, column) := by
  have hsome : source.toList ≠ [] := by
    rw [hsource]
    simp [hne]
  rw [Report.names_iff hreport, Report.lineRange?_isSome_iff (start_lt_stop hne hspan) hsome, hspan]

/-- So it names that of the first character if all before that are of one byte. -/
theorem names_placeOf_iff (hsource : source.toList = before ++ text ++ after) (hne : text ≠ [])
    (hspan : d.span = ⟨byteLength before, byteLength (before ++ text)⟩)
    (hreport : Report.render? file source d = some report) :
    Report.Names file d report (placeOf source.toList before.length).1
        (placeOf source.toList before.length).2 ↔
      IsAscii before ∧ byteLength (before ++ text) ≤ source.toList.length + 1 := by
  have hplace : position? source.toList before.length =
      some ((placeOf source.toList before.length).1, (placeOf source.toList before.length).2) := by
    refine position?_eq_placeOf ?_
    have hpos := List.length_pos_iff.2 hne
    rw [hsource, List.length_append, List.length_append]
    omega
  rw [names_iff_position hsource hne hspan hreport, and_comm, ← byteLength_eq_length_iff]
  refine and_congr_left fun _ => ⟨fun h => position?_inj h hplace, fun h => ?_⟩
  rw [h]
  exact hplace

/-- The span counts the characters of the stretch if all up to its end are of one byte. -/
theorem covers_iff_isAscii (hne : text ≠ [])
    (hspan : d.span = ⟨byteLength before, byteLength (before ++ text)⟩) :
    (∀ place, Report.covers d place = true ↔
        before.length ≤ place ∧ place < (before ++ text).length) ↔ IsAscii (before ++ text) := by
  have hcovers : ∀ place, Report.covers d place = true ↔
      byteLength before ≤ place ∧ place < byteLength (before ++ text) := by
    intro place
    rw [Report.covers, hspan, Bool.and_eq_true, decide_eq_true_eq, decide_eq_true_eq]
  have hlt := start_lt_stop hne hspan
  have hlength : before.length < (before ++ text).length := by
    have hpos := List.length_pos_iff.2 hne
    rw [List.length_append]
    omega
  rw [hspan] at hlt
  simp only [hcovers]
  rw [forall_place_iff hlt hlength, byteLength_eq_length_iff, byteLength_eq_length_iff]
  exact and_iff_right_of_imp fun h => (isAscii_append.1 h).1

/-- The report shows the lines of the first and the last character that the span counts. -/
theorem shows_of_le (hne : text ≠ [])
    (hspan : d.span = ⟨byteLength before, byteLength (before ++ text)⟩)
    (hreport : Report.render? file source d = some report)
    (hle : byteLength (before ++ text) ≤ source.toList.length) :
    ∀ place ∈ [byteLength before, byteLength (before ++ text) - 1],
      ∃ l ∈ textLines source.toList, (l.offset ≤ place ∧ place < l.stop) ∧
        l.shown <+: source.toList.drop l.offset ∧ Report.HasRow report (Report.covers d) l := by
  obtain ⟨⟨l, hl, hholds, hrow⟩, l', hl', hholds', hrow'⟩ :=
    Report.hasRow_of_render? hreport (start_lt_stop hne hspan) (hspan ▸ hle)
  rw [hspan] at hholds hholds'
  intro place hplace
  rcases List.mem_pair.1 hplace with rfl | rfl
  · exact ⟨l, hl, hholds, shown_prefix hl, hrow⟩
  · exact ⟨l', hl', hholds', shown_prefix hl', hrow'⟩

end

/-! ## Reports of syntax errors -/

/-- A report points at the error if all characters up to its end are of one byte. For every
source and every error at a token, with the characters of the source before the token and those of
the token:

* the span is the bytes of the token, and there is a report;
* the report names the position of the character whose number the byte offset is, if the span does
  not reach beyond the source;
* so it names the position of the token's first character exactly if all characters before the token
  are of one byte and the span does not reach beyond the source;
* the characters that its span counts are those of the token exactly if all characters before the
  token and of the token are of one byte;
* the characters that its span counts are in red in the lines of the first and the last of them, if
  they are all in the source. -/
theorem report_points_iff (file : String) {source : String} {e : SyntaxError} {t : Token}
    (h : parse source = .error e) (ht : e.found = some t) :
    ∃ left text right before report, pieces source.toList = left ++ ⟨.token t, text⟩ :: right ∧
      before = left.flatMap Piece.text ∧
      e.span = ⟨byteLength before, byteLength (before ++ text)⟩ ∧
      Report.render? file source e.diagnostic = some report ∧
      (∀ line column, Report.Names file e.diagnostic report line column ↔
        byteLength (before ++ text) ≤ source.toList.length + 1 ∧
          position? source.toList (byteLength before) = some (line, column)) ∧
      (Report.Names file e.diagnostic report (placeOf source.toList before.length).1
          (placeOf source.toList before.length).2 ↔
        IsAscii before ∧ byteLength (before ++ text) ≤ source.toList.length + 1) ∧
      ((∀ place, Report.covers e.diagnostic place = true ↔
          before.length ≤ place ∧ place < (before ++ text).length) ↔ IsAscii (before ++ text)) ∧
      (byteLength (before ++ text) ≤ source.toList.length →
        ∀ place ∈ [byteLength before, byteLength (before ++ text) - 1],
          ∃ l ∈ textLines source.toList, (l.offset ≤ place ∧ place < l.stop) ∧
            l.shown <+: source.toList.drop l.offset ∧
            Report.HasRow report (Report.covers e.diagnostic) l) := by
  obtain ⟨left, text, right, hpieces, hspan⟩ := exists_piece_of_error h ht
  have hne : text ≠ [] := by
    have hmem : ⟨.token t, text⟩ ∈ pieces source.toList := by
      rw [hpieces]
      exact List.mem_append_right left List.mem_cons_self
    rintro rfl
    exact absurd (byteLength_text_pos hmem) (Nat.lt_irrefl 0)
  have hsource : source.toList =
      left.flatMap Piece.text ++ text ++ right.flatMap Piece.text := by
    rw [← spelled_pieces source.toList, hpieces, List.flatMap_append, List.flatMap_cons,
      List.append_assoc]
  have hle : e.diagnostic.span.start ≤ e.diagnostic.span.stop :=
    Nat.le_of_lt (start_lt_stop (d := e.diagnostic) hne hspan)
  obtain ⟨report, hreport⟩ :=
    Option.isSome_iff_exists.1 ((Report.render?_isSome file source e.diagnostic).2 hle)
  exact ⟨left, text, right, left.flatMap Piece.text, report, hpieces, rfl, hspan, hreport,
    names_iff_position hsource hne hspan hreport, names_placeOf_iff hsource hne hspan hreport,
    covers_iff_isAscii hne hspan, shows_of_le hne hspan hreport⟩

/-- An open brace for the name of an item: the report names its position. -/
theorem report_points_at_brace :
    ∃ report, Report.render? "a" "item \x7b \x7d"
        (⟨⟨5, 6⟩, some (.mark .braceOpen), []⟩ : SyntaxError).diagnostic = some report ∧
      Report.Names "a" (⟨⟨5, 6⟩, some (.mark .braceOpen), []⟩ : SyntaxError).diagnostic report
        1 6 := by
  have hlexemes : lexemes "item \x7b \x7d" =
      [⟨.keyword .item, ⟨0, 4⟩⟩, ⟨.mark .braceOpen, ⟨5, 6⟩⟩, ⟨.mark .braceClose, ⟨7, 8⟩⟩] := by
    decide +kernel
  have hparse : parse "item \x7b \x7d" = .error ⟨⟨5, 6⟩, some (.mark .braceOpen), []⟩ := by
    rw [parse, hlexemes]
    cbv
  obtain ⟨left, text, right, before, report, -, -, hspan, hreport, hnames, -⟩ :=
    report_points_iff "a" hparse rfl
  obtain ⟨hstart, hstop⟩ := Span.mk.inj hspan
  refine ⟨report, hreport, (hnames 1 6).2 ?_⟩
  rw [← hstart, ← hstop]
  decide +kernel

/-- A comment with a letter of two bytes before the error: the brace is the fourteenth character,
and the report names the fifteenth. -/
theorem misplaced_behind_long_letter :
    parse "/* é */ item \x7b \x7d" = .error ⟨⟨14, 15⟩, some (.mark .braceOpen), []⟩ ∧
      "/* é */ item \x7b \x7d".toList[13]? = some '\x7b' ∧
      placeOf "/* é */ item \x7b \x7d".toList 13 = (1, 14) ∧
      ∃ report, Report.render? "a" "/* é */ item \x7b \x7d"
          (⟨⟨14, 15⟩, some (.mark .braceOpen), []⟩ : SyntaxError).diagnostic = some report ∧
        ∀ line column,
          Report.Names "a" (⟨⟨14, 15⟩, some (.mark .braceOpen), []⟩ : SyntaxError).diagnostic report
            line column ↔ line = 1 ∧ column = 15 := by
  have hlexemes : lexemes "/* é */ item \x7b \x7d" =
      [⟨.keyword .item, ⟨9, 13⟩⟩, ⟨.mark .braceOpen, ⟨14, 15⟩⟩, ⟨.mark .braceClose, ⟨16, 17⟩⟩] := by
    decide +kernel
  have hparse : parse "/* é */ item \x7b \x7d" =
      .error ⟨⟨14, 15⟩, some (.mark .braceOpen), []⟩ := by
    rw [parse, hlexemes]
    cbv
  refine ⟨hparse, by decide +kernel, by decide +kernel, ?_⟩
  have hrange : (Report.lineRange? "/* é */ item \x7b \x7d".toList ⟨14, 15⟩).isSome = true := by
    decide +kernel
  have hposition : position? "/* é */ item \x7b \x7d".toList 14 = some (1, 15) := by
    decide +kernel
  obtain ⟨report, hreport⟩ := Option.isSome_iff_exists.1
    ((Report.render?_isSome "a" "/* é */ item \x7b \x7d"
      (⟨⟨14, 15⟩, some (.mark .braceOpen), []⟩ : SyntaxError).diagnostic).2 (by decide))
  refine ⟨report, hreport, fun line column => (Report.names_iff hreport).trans ?_⟩
  change (Report.lineRange? "/* é */ item \x7b \x7d".toList ⟨14, 15⟩).isSome = true ∧
    position? "/* é */ item \x7b \x7d".toList 14 = some (line, column) ↔ _
  rw [hrange, hposition]
  simp [eq_comm]

end SceneFactory.Markup
