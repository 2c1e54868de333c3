import SceneFactory.Proofs.Markup.Spelled

/-!
# The tokens of a source

What can be relied on about each token of a source, whatever else stands in the source
(`IsFaithful`): the text under its span denotes it, a word is a keyword iff it is spelled as one, no
rule matches more of the source from the same place on, and it begins neither in blank space nor in
a comment that is skipped.

Main statement: `lexemes_faithful`. The tokens of a source are the texts taken by rules where
scanning arrives (`Takes`) that denote a token, in order and side by side, and each is faithful. Two
texts that are taken have no byte in common (`Takes.eq_of_holds`), which is why no token begins in
a comment, whatever the comment looks like.
-/

set_option autoImplicit false

namespace SceneFactory

/-- Byte `i` lies in the span. -/
def Span.Holds (span : Span) (i : Nat) : Prop := span.start ≤ i ∧ i < span.stop

namespace Markup

variable {source : String} {span span' : Span} {text text' : List Char} {r r' : Rule}

/-! ## Texts side by side -/

/-- Of two texts that begin in the same place, one begins as the source does behind the other. -/
theorem Stands.prefix_of_start_eq {before rest : List Char} (h : Stands source span text)
    (hsource : source.toList = before ++ rest) (hstart : span.start = byteLength before) :
    text <+: rest := by
  obtain ⟨before', after, hsource', rfl⟩ := h
  rw [hsource, List.append_assoc] at hsource'
  obtain ⟨-, hrest⟩ := append_inj_of_byteLength hsource' hstart.symm
  exact ⟨after, hrest.symm⟩

/-- A text that begins within another begins with one of its characters. -/
theorem Stands.mem_of_holds {c : Char} {cs : List Char} (h : Stands source span text)
    (h' : Stands source span' (c :: cs)) (hholds : span.Holds span'.start) : c ∈ text := by
  obtain ⟨before, after, hsource, rfl⟩ := h
  obtain ⟨before', after', hsource', rfl⟩ := h'
  obtain ⟨hstart, hstop⟩ := hholds
  dsimp only at hstart hstop
  have hbefore : before <+: source.toList := ⟨text ++ after, by rw [hsource, List.append_assoc]⟩
  have hbefore' : before' <+: source.toList :=
    ⟨c :: cs ++ after', by rw [hsource', List.append_assoc]⟩
  -- the other text begins behind some characters of this one
  obtain ⟨skipped, rfl⟩ := prefix_of_byteLength_le hbefore hbefore' hstart
  have hrest : text ++ after = skipped ++ (c :: cs ++ after') := by
    rw [hsource] at hsource'
    simpa using hsource'
  rcases List.append_eq_append_iff.1 hrest with ⟨more, rfl, -⟩ | ⟨more, rfl, hmore⟩
  · rw [byteLength_append, byteLength_append, byteLength_append] at hstop
    omega
  · cases more with
    | nil => simp at hstop
    | cons d ds =>
      obtain ⟨rfl, -⟩ := List.cons.inj hmore
      simp

theorem byteLength_mono (h : text <+: text') : byteLength text ≤ byteLength text' := by
  obtain ⟨more, rfl⟩ := h
  rw [byteLength_append]
  exact Nat.le_add_right _ _

/-! ## Texts that are taken -/

/-- Two texts that are taken and have a byte in common are taken by the same rule. -/
theorem Takes.eq_of_holds {i : Nat} (h : Takes source r span text)
    (h' : Takes source r' span' text') (hi : span.Holds i) (hi' : span'.Holds i) :
    r = r' := by
  obtain ⟨left, right, hsplit, rfl⟩ := h.exists_pieces
  obtain ⟨left', right', hsplit', rfl⟩ := h'.exists_pieces
  have hat : PieceAt (pieces source.toList) i left _ right := ⟨hsplit, hi.1, hi.2⟩
  have hat' : PieceAt (pieces source.toList) i left' _ right' := ⟨hsplit', hi'.1, hi'.2⟩
  have hsame : text = text' := congrArg Piece.text (hat.eq hat')
  subst hsame
  exact Rule.eq_of_matches h.matches h'.matches

/-- Where a rule takes a text no rule matches more. -/
theorem Takes.stop_le (h : Takes source r span text) {stop : Nat} (hmatches : r'.Matches text')
    (hstands : Stands source ⟨span.start, stop⟩ text') : stop ≤ span.stop := by
  obtain ⟨before, rest, harrives, hlongest, rfl⟩ := h
  have hpre : text' <+: text ++ rest := hstands.prefix_of_start_eq harrives.append_eq rfl
  have hle := hlongest.length_le r' text' hmatches hpre
  have htext : text' <+: text :=
    List.prefix_of_prefix_length_le hpre (List.prefix_append text rest) hle
  have hstop : stop = byteLength before + byteLength text' := hstands.stop_eq
  rw [hstop, byteLength_append]
  exact Nat.add_le_add_left (byteLength_mono htext) _

/-! ## Faithful tokens -/

/-- What can be relied on about a token of a source. Keywords are words, so a rule of its own for a
keyword would match no more than the rule for words does. -/
structure IsFaithful (source : String) (t : Lexeme) : Prop where
  /-- The text under its span denotes this token alone. -/
  denoted : ∃ text, Stands source t.span text ∧ ∀ u, Denotes text u ↔ u = t.node
  start_lt_stop : t.span.start < t.span.stop
  /-- A word is a keyword iff it is spelled as the keyword is, and a name otherwise. -/
  word : ∀ word : String, Stands source t.span word.toList → IsWord word →
    (∀ k, t.node = .keyword k ↔ word = k.spelling) ∧
      ((∀ k : Keyword, word ≠ k.spelling) → t.node = .ident word)
  /-- Whatever a rule matches from the same place on goes no further. -/
  maximal : ∀ (r : Rule) (longer : List Char) (stop : Nat), r.Matches longer →
    Stands source ⟨t.span.start, stop⟩ longer → stop ≤ t.span.stop
  not_in_blanks : ∀ (span : Span) (blanks : List Char), Stands source span blanks →
    (∀ c ∈ blanks, isBlank c = true) → ¬span.Holds t.span.start
  not_in_comment : ∀ (r : Rule) (span : Span) (comment : List Char),
    r = .lineComment ∨ r = .blockComment → Takes source r span comment →
      ¬span.Holds t.span.start

/-- What a rule makes a token of does not begin with blank space. -/
theorem Rule.Matches.not_isBlank {c : Char} {cs : List Char} {t : Token}
    (h : r.Matches (c :: cs)) (hkind : r.kind (c :: cs) = .token t) : isBlank c = false := by
  rw [Bool.eq_false_iff]
  intro hblank
  have hopening := h.opening_eq
  rw [Opening.of, if_pos hblank] at hopening
  cases r <;> cases hopening
  cases hkind

section

variable {t : Lexeme} (h : Takes source r t.span text) (hkind : r.kind text = .token t.node)

include h

theorem Takes.holds_start : t.span.Holds t.span.start := by
  obtain ⟨c, cs, rfl⟩ := h.matches.exists_cons
  exact ⟨Nat.le_refl _, h.stands.start_lt_stop (List.cons_ne_nil c cs)⟩

include hkind

/-- A token begins in no blank space. -/
theorem Takes.not_in_blanks {blanks : List Char} (hstands : Stands source span blanks)
    (hblanks : ∀ c ∈ blanks, isBlank c = true) : ¬span.Holds t.span.start := by
  intro hholds
  obtain ⟨c, cs, rfl⟩ := h.matches.exists_cons
  have hblank := hblanks c (hstands.mem_of_holds h.stands hholds)
  rw [h.matches.not_isBlank hkind] at hblank
  cases hblank

/-- A token begins in no comment that is taken. -/
theorem Takes.not_in_comment {comment : List Char} (hr : r' = .lineComment ∨ r' = .blockComment)
    (htakes : Takes source r' span comment) : ¬span.Holds t.span.start := by
  intro hholds
  rw [h.eq_of_holds htakes h.holds_start hholds] at hkind
  rcases hr with rfl | rfl <;> cases hkind

/-- A token that is taken is faithful. -/
theorem Takes.isFaithful : IsFaithful source t where
  denoted := by
    refine ⟨text, h.stands, fun u => ?_⟩
    rw [h.matches.denotes_iff, hkind, PieceKind.token.injEq, eq_comm]
  start_lt_stop := h.holds_start.2
  word word hstands hword := by
    have hdenotes := h.matches.denotes hkind
    rw [h.stands.unique hstands] at hdenotes
    exact denotes_word hword hdenotes
  maximal _ _ _ hmatches hstands := h.stop_le hmatches hstands
  not_in_blanks _ _ hstands hblanks := h.not_in_blanks hkind hstands hblanks
  not_in_comment _ _ _ hr htakes := h.not_in_comment hkind hr htakes

end

/-- The tokens of a source are faithful and maximal. For every source:

* scanning gets to its end;
* the tokens stand in order and have no byte in common;
* they are exactly the texts taken by rules, where scanning arrives, that denote a token;
* each of them is faithful to its text and its place. -/
theorem lexemes_faithful (source : String) :
    Arrives source.toList source.toList [] ∧
      ((lexemes source).Pairwise fun t u =>
        t.span.start < u.span.start ∧ t.span.stop ≤ u.span.start) ∧
      (∀ t, t ∈ lexemes source ↔ ∃ r text, Takes source r t.span text ∧ Denotes text t.node) ∧
      ∀ t ∈ lexemes source, IsFaithful source t := by
  have hfaithful : ∀ t ∈ lexemes source, IsFaithful source t := by
    intro t ht
    obtain ⟨r, text, htakes, hkind⟩ := mem_lexemes_iff_takes.1 ht
    exact htakes.isFaithful hkind
  refine ⟨arrives_end source.toList, ?_, ?_, hfaithful⟩
  · apply (inOrder_lexemes source).imp_of_mem
    intro t u ht _ hle
    exact ⟨Nat.lt_of_lt_of_le (hfaithful t ht).start_lt_stop hle, hle⟩
  · intro t
    rw [mem_lexemes_iff_takes]
    apply exists_congr
    intro r
    apply exists_congr
    intro text
    exact and_congr_right fun htakes => htakes.matches.denotes_iff.symm

/-- A word that begins as a keyword, a comment whose first end is overlooked, a string with a letter
of two bytes and escapes, and more digits than a color has. -/
def crowdedSource : String := "items /* item **/ x */ \"a \\\"é\\n\" #1234567890"

/-- The string in it is faithful. -/
theorem lexemes_faithful_of_crowdedSource :
    lexemes crowdedSource = [⟨.ident "items", ⟨0, 5⟩⟩, ⟨.string "a \"é\n", ⟨23, 33⟩⟩,
        ⟨.color "#12345678", ⟨34, 43⟩⟩, ⟨.int 90, ⟨43, 45⟩⟩] ∧
      IsFaithful crowdedSource ⟨.string "a \"é\n", ⟨23, 33⟩⟩ := by
  have hlexemes : lexemes crowdedSource = [⟨.ident "items", ⟨0, 5⟩⟩,
      ⟨.string "a \"é\n", ⟨23, 33⟩⟩, ⟨.color "#12345678", ⟨34, 43⟩⟩,
      ⟨.int 90, ⟨43, 45⟩⟩] := by
    decide +kernel
  refine ⟨hlexemes, (lexemes_faithful crowdedSource).2.2.2 _ ?_⟩
  rw [hlexemes]
  decide

end Markup

end SceneFactory
