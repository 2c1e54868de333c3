import SceneFactory.Proofs.Markup.Denotations
import SceneFactory.Proofs.Markup.Scanning

/-!
# What stands under a span

A span counts bytes, and a text stands under it if the characters of the source in front of the text
and up to its end have just so many bytes (`Stands`). A span of which that is true begins and stops
between characters and lies within the source, and only one text stands under it (`Stands.unique`).

Where scanning arrives a rule takes the longest text that it matches (`Takes`), and the tokens of a
source are made of such texts (`mem_lexemes_iff_takes`). So under the span of a token stands a text
that denotes it (`exists_denotes_of_mem_lexemes`). The tokens stand side by side in the order of the
source (`inOrder_lexemes`).
-/

set_option autoImplicit false

namespace SceneFactory.Markup

/-! ## Texts and bytes -/

/-- A text stands under a span of a source. -/
def Stands (source : String) (span : Span) (text : List Char) : Prop :=
  ∃ before after, source.toList = before ++ text ++ after ∧
    span = ⟨byteLength before, byteLength (before ++ text)⟩

/-- Of two beginnings of a text, the one with no more bytes is a beginning of the other. -/
theorem prefix_of_byteLength_le {cs ds all : List Char} (hcs : cs <+: all) (hds : ds <+: all)
    (hle : byteLength cs ≤ byteLength ds) : cs <+: ds := by
  rcases List.prefix_or_prefix_of_prefix hcs hds with h | ⟨more, rfl⟩
  · exact h
  · cases more with
    | nil => rw [List.append_nil]
    | cons c more =>
      have hpos : 0 < byteLength (c :: more) := byteLength_pos
      rw [byteLength_append] at hle
      omega

/-- A text splits in one place only into two of given numbers of bytes. -/
theorem append_inj_of_byteLength {cs ds more more' : List Char} (h : cs ++ more = ds ++ more')
    (hlength : byteLength cs = byteLength ds) : cs = ds ∧ more = more' := by
  have hcs : cs <+: ds ++ more' := ⟨more, h⟩
  have hds : ds <+: ds ++ more' := List.prefix_append ds more'
  have hsame : cs = ds := (prefix_of_byteLength_le hcs hds hlength.le).eq_of_length_le
    (prefix_of_byteLength_le hds hcs hlength.ge).length_le
  subst hsame
  exact ⟨rfl, List.append_cancel_left h⟩

variable {source : String} {span span' : Span} {text text' : List Char} {r : Rule}

/-- One text only stands under a span. -/
theorem Stands.unique (h : Stands source span text) (h' : Stands source span text') :
    text = text' := by
  obtain ⟨before, after, hsource, rfl⟩ := h
  obtain ⟨before', after', hsource', hspan⟩ := h'
  obtain ⟨hstart, hstop⟩ := Span.mk.inj hspan
  have hsame : before ++ text ++ after = before' ++ text' ++ after' := hsource.symm.trans hsource'
  obtain ⟨hall, -⟩ := append_inj_of_byteLength hsame hstop
  exact (append_inj_of_byteLength hall hstart).2

/-- A text that stands under a span has as many bytes. -/
theorem Stands.stop_eq (h : Stands source span text) :
    span.stop = span.start + byteLength text := by
  obtain ⟨before, after, -, rfl⟩ := h
  exact byteLength_append before text

/-- A span under which a text stands lies within the source. -/
theorem Stands.stop_le (h : Stands source span text) :
    span.stop ≤ byteLength source.toList := by
  obtain ⟨before, after, hsource, rfl⟩ := h
  rw [hsource, byteLength_append (before ++ text)]
  exact Nat.le_add_right _ _

/-- A span under which some text stands is not empty. -/
theorem Stands.start_lt_stop (h : Stands source span text) (hne : text ≠ []) :
    span.start < span.stop := by
  obtain ⟨c, cs, rfl⟩ := List.exists_cons_of_ne_nil hne
  have hpos : 0 < byteLength (c :: cs) := byteLength_pos
  rw [h.stop_eq]
  omega

/-- Between two texts stands a text, and all three stand under the span from the beginning of
the first to the end of the second. -/
theorem Stands.join (h : Stands source span text) (h' : Stands source span' text')
    (hle : span.stop ≤ span'.start) :
    ∃ between, Stands source ⟨span.start, span'.stop⟩ (text ++ between ++ text') := by
  obtain ⟨before, after, hsource, rfl⟩ := h
  obtain ⟨before', after', hsource', rfl⟩ := h'
  have hfirst : before ++ text <+: source.toList := ⟨after, hsource.symm⟩
  have hsecond : before' <+: source.toList := ⟨text' ++ after', by rw [hsource', List.append_assoc]⟩
  obtain ⟨between, rfl⟩ := prefix_of_byteLength_le hfirst hsecond hle
  have hall : before ++ text ++ between ++ text' = before ++ (text ++ between ++ text') := by
    simp only [List.append_assoc]
  exact ⟨between, before, after', by rw [hsource', hall], by rw [hall]⟩

/-! ## What rules take -/

/-- A rule takes the text under a span: scanning arrives in front of the text, and of all that the
rules match there it is the longest. -/
def Takes (source : String) (r : Rule) (span : Span) (text : List Char) : Prop :=
  ∃ before rest, Arrives source.toList before (text ++ rest) ∧ IsLongest (text ++ rest) r text ∧
    span = ⟨byteLength before, byteLength (before ++ text)⟩

theorem Takes.stands (h : Takes source r span text) : Stands source span text := by
  obtain ⟨before, rest, harrives, -, rfl⟩ := h
  exact ⟨before, rest, by rw [harrives.append_eq, List.append_assoc], rfl⟩

theorem Takes.matches (h : Takes source r span text) : r.Matches text := by
  obtain ⟨before, rest, -, hlongest, -⟩ := h
  exact hlongest.matched

/-- What a rule takes is a piece. -/
theorem Takes.exists_pieces (h : Takes source r span text) : ∃ left right,
    pieces source.toList = left ++ ⟨r.kind text, text⟩ :: right ∧
      span = ⟨extent left, extent left + byteLength text⟩ := by
  obtain ⟨before, rest, harrives, hlongest, rfl⟩ := h
  obtain ⟨left, hleft, rfl⟩ := arrives_iff.1 harrives
  rw [hlongest.pieces_eq] at hleft
  exact ⟨left, pieces rest, hleft, by rw [byteLength_append]; rfl⟩

/-- The tokens of a source are made of what rules take. -/
theorem mem_lexemes_iff_takes {t : Lexeme} :
    t ∈ lexemes source ↔ ∃ r text, Takes source r t.span text ∧ r.kind text = .token t.node := by
  constructor
  · intro h
    obtain ⟨left, p, right, hsplit, hkind, hspan⟩ := mem_lexemesFrom_iff.1 h
    obtain ⟨cs, hcs⟩ := exists_of_pieces_append hsplit
    obtain ⟨rest, rfl, -, ⟨r, hlongest, hmade⟩ | ⟨-, hdropped⟩⟩ :=
      exists_step_of_pieces hcs.symm
    · have harrives : Arrives source.toList (left.flatMap Piece.text) (p.text ++ rest) :=
        arrives_iff.2 ⟨left, hcs ▸ hsplit, rfl⟩
      refine ⟨r, p.text, ⟨_, rest, harrives, hlongest, ?_⟩, hmade ▸ hkind⟩
      rw [hspan, Nat.zero_add, byteLength_append]
      rfl
    · rw [hkind] at hdropped
      cases hdropped
  · rintro ⟨r, text, htakes, hkind⟩
    obtain ⟨left, right, hsplit, hspan⟩ := htakes.exists_pieces
    apply mem_lexemesFrom_iff.2
    exact ⟨left, _, right, hsplit, hkind, by rw [hspan, Nat.zero_add]⟩

/-! ## Tokens in their places -/

/-- Under the span of a token stands a text that denotes it. -/
theorem exists_denotes_of_mem_lexemes {t : Lexeme} (h : t ∈ lexemes source) :
    ∃ text, Stands source t.span text ∧ Denotes text t.node := by
  obtain ⟨r, text, htakes, hkind⟩ := mem_lexemes_iff_takes.1 h
  exact ⟨text, htakes.stands, htakes.matches.denotes hkind⟩

/-- Something stands under the span of a token. -/
theorem exists_stands_of_mem_lexemes {t : Lexeme} (h : t ∈ lexemes source) :
    ∃ text, Stands source t.span text ∧ text ≠ [] := by
  obtain ⟨r, text, htakes, -⟩ := mem_lexemes_iff_takes.1 h
  obtain ⟨c, cs, rfl⟩ := htakes.matches.exists_cons
  exact ⟨_, htakes.stands, List.cons_ne_nil c cs⟩

/-- Under the span of an identifier stands its name. -/
theorem stands_ident {name : String} (h : ⟨.ident name, span⟩ ∈ lexemes source) :
    Stands source span name.toList ∧ name.toList ≠ [] := by
  obtain ⟨text, hstands, hne⟩ := exists_stands_of_mem_lexemes h
  obtain ⟨text', hstands', hdenotes⟩ := exists_denotes_of_mem_lexemes h
  rw [hstands.unique hstands'] at hne
  cases hdenotes with
  | ident hname => exact ⟨hstands', hne⟩

/-- Under the span of a keyword stands its spelling. -/
theorem stands_keyword {k : Keyword} (h : ⟨.keyword k, span⟩ ∈ lexemes source) :
    Stands source span k.spelling.toList := by
  obtain ⟨text, hstands, hdenotes⟩ := exists_denotes_of_mem_lexemes h
  cases hdenotes with
  | keyword => exact hstands

/-- Under the span of a mark stands its character. -/
theorem stands_mark {m : Mark} (h : ⟨.mark m, span⟩ ∈ lexemes source) :
    Stands source span [m.char] := by
  obtain ⟨text, hstands, hdenotes⟩ := exists_denotes_of_mem_lexemes h
  cases hdenotes with
  | mark => exact hstands

/-! ## Tokens in order -/

/-- No token begins before one in front of it has stopped. -/
abbrev InOrder (ts : List Lexeme) : Prop := ts.Pairwise fun t u => t.span.stop ≤ u.span.start

theorem inOrder_lexemesFrom (offset : Nat) (ps : List Piece) : InOrder (lexemesFrom offset ps) := by
  induction ps generalizing offset with
  | nil => exact .nil
  | cons p ps ih =>
    rw [lexemesFrom]
    cases p.kind with
    | token t =>
      refine .cons (fun u hu => ?_) (ih _)
      obtain ⟨left, q, right, -, -, hspan⟩ := mem_lexemesFrom_iff.1 hu
      rw [hspan]
      exact Nat.le_add_right _ _
    | _ => exact ih _

/-- The tokens of a source stand in order and do not overlap. -/
theorem inOrder_lexemes (source : String) : InOrder (lexemes source) :=
  inOrder_lexemesFrom 0 _

end SceneFactory.Markup
