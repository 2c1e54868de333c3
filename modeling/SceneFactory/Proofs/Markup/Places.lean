import SceneFactory.Markup.Lexicon

/-!
# The places of tokens

The pieces of a source lie side by side and fill it, so every token lies within the
source (`span_of_mem_lexemes`). The last token reaches to the end of the source exactly
if the source ends in a token (`stop_getLast_lexemes`); blank space, a comment, or text
that no rule matches comes between the two otherwise.
-/

set_option autoImplicit false

namespace SceneFactory.Markup

/-- Whether a piece is a token. -/
def Piece.isToken (p : Piece) : Bool :=
  match p.kind with
  | .token _ => true
  | _ => false

/-- Whether a source ends in a token, so that nothing comes behind it. -/
def endsInToken (source : String) : Bool :=
  match (pieces source.toList).getLast? with
  | some p => p.isToken
  | none => false

theorem byteLength_pos {c : Char} {cs : List Char} : 0 < byteLength (c :: cs) :=
  Nat.lt_of_lt_of_le (Char.utf8Size_pos c) (Nat.le_add_right _ _)

/-- No piece is empty. -/
theorem byteLength_text_pos {cs : List Char} {p : Piece} (h : p ∈ pieces cs) :
    0 < byteLength p.text := by
  fun_induction pieces cs with
  | case1 => cases h
  | case2 c cs k ih =>
    rcases List.mem_cons.1 h with rfl | h
    · exact byteLength_pos
    · exact ih h

/-- The number of bytes of some pieces. -/
def extent (ps : List Piece) : Nat := byteLength (ps.flatMap Piece.text)

theorem extent_cons (p : Piece) (ps : List Piece) :
    extent (p :: ps) = byteLength p.text + extent ps := by
  rw [extent, List.flatMap_cons, byteLength_append]
  rfl

theorem extent_concat (ps : List Piece) (p : Piece) :
    extent (ps ++ [p]) = extent ps + byteLength p.text := by
  rw [extent, List.flatMap_append, byteLength_append, List.flatMap_cons, List.flatMap_nil,
    List.append_nil]
  rfl

/-- Pieces that fill a source have its length. -/
theorem extent_pieces (cs : List Char) : extent (pieces cs) = byteLength cs := by
  rw [extent, spelled_pieces]

theorem lexemesFrom_append (offset : Nat) (ps qs : List Piece) :
    lexemesFrom offset (ps ++ qs) =
      lexemesFrom offset ps ++ lexemesFrom (offset + extent ps) qs := by
  induction ps generalizing offset with
  | nil => rfl
  | cons p ps ih =>
    rw [List.cons_append, lexemesFrom, lexemesFrom, extent_cons, ← Nat.add_assoc]
    cases p.kind with
    | token t =>
      dsimp only
      rw [ih, List.cons_append]
    | _ => exact ih _

/-- A token lies within the pieces that it is among. -/
theorem span_of_mem_lexemesFrom {offset : Nat} {ps : List Piece} {t : Lexeme}
    (h : t ∈ lexemesFrom offset ps) :
    t.span.start ≤ t.span.stop ∧ t.span.stop ≤ offset + extent ps := by
  induction ps generalizing offset with
  | nil => cases h
  | cons p ps ih =>
    have hrest : t ∈ lexemesFrom (offset + byteLength p.text) ps →
        t.span.start ≤ t.span.stop ∧ t.span.stop ≤ offset + extent (p :: ps) := by
      intro ht
      obtain ⟨hle, hstop⟩ := ih ht
      rw [extent_cons, ← Nat.add_assoc]
      exact ⟨hle, hstop⟩
    rw [lexemesFrom] at h
    cases hk : p.kind with
    | token tok =>
      rw [hk] at h
      rcases List.mem_cons.1 h with rfl | h
      · refine ⟨Nat.le_add_right _ _, ?_⟩
        rw [extent_cons]
        exact Nat.add_le_add_left (Nat.le_add_right _ _) offset
      · exact hrest h
    | _ =>
      rw [hk] at h
      exact hrest h

/-- Every token lies within its source. -/
theorem span_of_mem_lexemes {source : String} {t : Lexeme} (h : t ∈ lexemes source) :
    t.span.start ≤ t.span.stop ∧ t.span.stop ≤ byteLength source.toList := by
  obtain ⟨hle, hstop⟩ := span_of_mem_lexemesFrom h
  rw [Nat.zero_add, extent_pieces] at hstop
  exact ⟨hle, hstop⟩

/-- The last token stops where the source does iff the source ends in a token. -/
theorem stop_getLast_lexemes {source : String} {t : Lexeme}
    (h : (lexemes source).getLast? = some t) :
    t.span.stop = byteLength source.toList ↔ endsInToken source = true := by
  have hpos : ∀ p ∈ pieces source.toList, 0 < byteLength p.text :=
    fun p hp => byteLength_text_pos hp
  have hextent := extent_pieces source.toList
  rw [lexemes] at h
  rw [endsInToken]
  rcases List.eq_nil_or_concat (pieces source.toList) with hnil | ⟨ps, p, hconcat⟩
  · rw [hnil] at h
    cases h
  · rw [List.concat_eq_append] at hconcat
    rw [hconcat] at h hpos hextent
    rw [hconcat, List.getLast?_concat]
    rw [extent_concat] at hextent
    rw [lexemesFrom_append, Nat.zero_add, lexemesFrom] at h
    dsimp only at h ⊢
    rw [Piece.isToken]
    cases hk : p.kind with
    | token tok =>
      rw [hk] at h
      dsimp only at h
      rw [lexemesFrom, List.getLast?_concat] at h
      cases h
      exact ⟨fun _ => rfl, fun _ => hextent⟩
    | _ =>
      rw [hk] at h
      dsimp only at h
      rw [lexemesFrom, List.append_nil] at h
      have hstop := (span_of_mem_lexemesFrom (List.mem_of_getLast? h)).2
      have hlast := hpos p (List.mem_append_right ps List.mem_cons_self)
      rw [Nat.zero_add] at hstop
      constructor
      · intro heq
        omega
      · intro hfalse
        cases hfalse

end SceneFactory.Markup
