import Mathlib
import SceneFactory.Proofs.Markup.Places
import SceneFactory.Proofs.Markup.Recognition
import SceneFactory.Proofs.Markup.Rules

/-!
# Text that no rule reads

A source need not be read in full. Where no rule matches, or only an integer rule matches and
the integer is out of range, the text there is dropped and no error is made of it. The main
statement (`parse_readable`) says what becomes of such text: the source is read as if blanks stood
there instead, errors and places included. All bytes of a source that is read are accounted for, by
a token, by blank space or by a comment, exactly if the source consists of longest matches from its
beginning to its end (`IsLexical`).
-/

set_option autoImplicit false

namespace SceneFactory.Markup

/-! ## Bytes and pieces -/

theorem extent_append (ps qs : List Piece) : extent (ps ++ qs) = extent ps + extent qs := by
  rw [extent, List.flatMap_append, byteLength_append]
  rfl

/-- The piece lies in the list with byte `i` in it. -/
structure PieceAt (ps : List Piece) (i : Nat) (left : List Piece) (p : Piece)
    (right : List Piece) : Prop where
  split : ps = left ++ p :: right
  start_le : extent left ≤ i
  lt_stop : i < extent left + byteLength p.text

/-- Every byte lies in a piece. -/
theorem exists_pieceAt {ps : List Piece} {i : Nat} (h : i < extent ps) :
    ∃ left p right, PieceAt ps i left p right := by
  induction ps generalizing i with
  | nil => cases h
  | cons p ps ih =>
    rcases Nat.lt_or_ge i (byteLength p.text) with hlt | hge
    · refine ⟨[], p, ps, rfl, Nat.zero_le i, ?_⟩
      change i < 0 + _
      omega
    · rw [extent_cons] at h
      obtain ⟨left, q, right, hsplit, hstart, hstop⟩ := ih (i := i - byteLength p.text) (by omega)
      refine ⟨p :: left, q, right, by rw [hsplit, List.cons_append], ?_, ?_⟩
      · rw [extent_cons]
        omega
      · rw [extent_cons]
        omega

/-- A piece that lies further right begins behind the byte. -/
theorem PieceAt.not_left {ps : List Piece} {i : Nat} {left mid right right' : List Piece}
    {p q p' : Piece} (h : PieceAt ps i left p right)
    (h' : PieceAt ps i (left ++ q :: mid) p' right') : False := by
  have hsame := h.split.symm.trans h'.split
  rw [List.append_assoc, List.append_cancel_left_eq, List.cons_append, List.cons.injEq] at hsame
  obtain ⟨rfl, -⟩ := hsame
  have hstart := h'.start_le
  have hstop := h.lt_stop
  rw [extent_append, extent_cons] at hstart
  omega

/-- A byte lies in one piece only. -/
theorem PieceAt.eq {ps : List Piece} {i : Nat} {left right left' right' : List Piece}
    {p p' : Piece} (h : PieceAt ps i left p right) (h' : PieceAt ps i left' p' right') :
    p = p' := by
  have hsame := h.split.symm.trans h'.split
  rcases List.append_eq_append_iff.1 hsame with ⟨mid, rfl, hmid⟩ | ⟨mid, rfl, hmid⟩
  · cases mid with
    | nil => exact (List.cons.inj hmid).1
    | cons q mid => exact (h.not_left h').elim
  · cases mid with
    | nil => exact (List.cons.inj hmid).1.symm
    | cons q mid => exact (h'.not_left h).elim

/-- The tokens of a source are its token pieces in their places. -/
theorem mem_lexemesFrom_iff {offset : Nat} {ps : List Piece} {t : Lexeme} :
    t ∈ lexemesFrom offset ps ↔ ∃ left p right, ps = left ++ p :: right ∧ p.kind = .token t.node ∧
      t.span = ⟨offset + extent left, offset + extent left + byteLength p.text⟩ := by
  induction ps generalizing offset with
  | nil =>
    constructor
    · intro h
      cases h
    · rintro ⟨left, p, right, h, -⟩
      simp at h
  | cons q ps ih =>
    -- a place further right is one in the rest, with the first piece in front
    have hrest : t ∈ lexemesFrom (offset + byteLength q.text) ps ↔
        ∃ left p right, q :: ps = (q :: left) ++ p :: right ∧ p.kind = .token t.node ∧
          t.span = ⟨offset + extent (q :: left),
            offset + extent (q :: left) + byteLength p.text⟩ := by
      rw [ih]
      simp only [List.cons_append, List.cons.injEq, true_and, extent_cons, Nat.add_assoc]
    have hfirst : (∃ left p right, q :: ps = left ++ p :: right ∧ p.kind = .token t.node ∧
          t.span = ⟨offset + extent left, offset + extent left + byteLength p.text⟩) ↔
        (q.kind = .token t.node ∧ t.span = ⟨offset, offset + byteLength q.text⟩) ∨
          t ∈ lexemesFrom (offset + byteLength q.text) ps := by
      rw [hrest]
      constructor
      · rintro ⟨left, p, right, hsplit, hkind, hspan⟩
        cases left with
        | nil =>
          cases hsplit
          exact .inl ⟨hkind, hspan⟩
        | cons q' left =>
          cases hsplit
          exact .inr ⟨left, p, right, rfl, hkind, hspan⟩
      · rintro (⟨hkind, hspan⟩ | ⟨left, p, right, hsplit, hkind, hspan⟩)
        · exact ⟨[], q, ps, rfl, hkind, hspan⟩
        · exact ⟨q :: left, p, right, hsplit, hkind, hspan⟩
    rw [hfirst, lexemesFrom]
    cases hkind : q.kind with
    | token tok =>
      dsimp only
      rw [List.mem_cons]
      refine or_congr ?_ Iff.rfl
      constructor
      · rintro rfl
        exact ⟨rfl, rfl⟩
      · rintro ⟨htok, hspan⟩
        cases t
        cases htok
        cases hspan
        rfl
    | _ => simp

/-- Whether byte `i` of a source lies in a token, in blank space or in a comment. -/
def IsAccounted (source : String) (i : Nat) : Prop :=
  (∃ t ∈ lexemes source, t.span.start ≤ i ∧ i < t.span.stop) ∨
    ∃ left p right, PieceAt (pieces source.toList) i left p right ∧
      (p.kind = .blank ∨ p.kind = .comment)

/-- A byte is accounted for iff it does not lie in a dropped piece. -/
theorem isAccounted_iff {source : String} {i : Nat} :
    IsAccounted source i ↔
      ∃ left p right, PieceAt (pieces source.toList) i left p right ∧ p.kind ≠ .dropped := by
  constructor
  · rintro (⟨t, ht, hstart, hstop⟩ | ⟨left, p, right, hat, hkind⟩)
    · obtain ⟨left, p, right, hsplit, hkind, hspan⟩ := mem_lexemesFrom_iff.1 ht
      rw [hspan, Nat.zero_add] at hstart hstop
      exact ⟨left, p, right, ⟨hsplit, hstart, hstop⟩, by simp [hkind]⟩
    · exact ⟨left, p, right, hat, by rcases hkind with h | h <;> simp [h]⟩
  · rintro ⟨left, p, right, hat, hkind⟩
    cases hp : p.kind with
    | token t =>
      refine .inl ⟨⟨t, ⟨extent left, extent left + byteLength p.text⟩⟩, ?_, hat.start_le,
        hat.lt_stop⟩
      exact mem_lexemesFrom_iff.2 ⟨left, p, right, hat.split, hp, by rw [Nat.zero_add]⟩
    | blank => exact .inr ⟨left, p, right, hat, .inl hp⟩
    | comment => exact .inr ⟨left, p, right, hat, .inr hp⟩
    | dropped => exact absurd hp hkind

/-! ## Lexical texts -/

/-- The text consists of longest matches of the rules, each of which makes something of its
text. -/
inductive IsLexical : List Char → Prop where
  | nil : IsLexical []
  | cons {r : Rule} {text rest : List Char} (h : IsLongest (text ++ rest) r text)
      (hkind : r.kind text ≠ .dropped) (hrest : IsLexical rest) : IsLexical (text ++ rest)

/-- A longest match is the first piece. -/
theorem IsLongest.pieces_eq {r : Rule} {text rest : List Char}
    (h : IsLongest (text ++ rest) r text) :
    pieces (text ++ rest) = ⟨r.kind text, text⟩ :: pieces rest := by
  obtain ⟨c, cs, rfl⟩ := h.matched.exists_cons
  have hcut : cut c (cs ++ rest) = ⟨r.kind (c :: cs), cs.length⟩ := h.cut_eq.2
  rw [List.cons_append, pieces, hcut]
  dsimp only
  rw [List.take_left, List.drop_left]

/-- Induction along a text: its first piece is a longest match that something is made of, or it
is dropped. -/
theorem text_induction {motive : List Char → Prop} (nil : motive [])
    (taken : ∀ (r : Rule) (text rest : List Char), r.Matches text → r.Ends text rest →
      r.kind text ≠ .dropped → motive rest → motive (text ++ rest))
    (dropped : ∀ text rest : List Char, pieces (text ++ rest) = ⟨.dropped, text⟩ :: pieces rest →
      motive rest → motive (text ++ rest)) (cs : List Char) : motive cs := by
  induction cs using pieces.induct with
  | case1 => exact nil
  | case2 c cs k ih =>
    have hsplit : c :: cs = (c :: cs.take k.more) ++ cs.drop k.more := by
      rw [List.cons_append, List.take_append_drop]
    by_cases hk : k.kind = .dropped
    · rw [hsplit]
      refine dropped _ _ ?_ ih
      rw [← hsplit, pieces, ← hk]
    · rcases cut_spec c cs with ⟨r, text, rest, hcs, hmatches, hends, hcut⟩ | ⟨-, hdropped⟩
      · obtain ⟨d, ds, rfl⟩ := hmatches.exists_cons
        obtain ⟨rfl, htail⟩ := List.cons.inj hcs
        have hkind : k.kind = r.kind (c :: ds) := congrArg Cut.kind hcut
        have hmore : k.more = ds.length := congrArg Cut.more hcut
        have hdrop : cs.drop k.more = rest := by
          rw [hmore, htail]
          exact List.drop_left
        rw [hdrop] at ih
        rw [hcs]
        exact taken r (c :: ds) rest hmatches hends (hkind ▸ hk) ih
      · exact absurd hdropped hk

/-- A text is lexical iff none of its pieces is dropped. -/
theorem isLexical_iff {cs : List Char} :
    IsLexical cs ↔ ∀ p ∈ pieces cs, p.kind ≠ .dropped := by
  constructor
  · intro h
    induction h with
    | nil => simp [pieces]
    | cons h hkind hrest ih =>
      rw [h.pieces_eq]
      exact List.forall_mem_cons.2 ⟨hkind, ih⟩
  · induction cs using text_induction with
    | nil => exact fun _ => .nil
    | taken r text rest hmatches hends hkind ih =>
      have hlongest := isLongest_of_ends hmatches hends
      intro h
      rw [hlongest.pieces_eq] at h
      exact .cons hlongest hkind (ih (List.forall_mem_cons.1 h).2)
    | dropped text rest hpieces ih =>
      intro h
      rw [hpieces] at h
      exact absurd rfl (List.forall_mem_cons.1 h).1

/-- All bytes are accounted for iff the source is lexical. -/
theorem forall_isAccounted_iff (source : String) :
    (∀ i < byteLength source.toList, IsAccounted source i) ↔ IsLexical source.toList := by
  rw [isLexical_iff]
  constructor
  · -- the first byte of a dropped piece lies in no other
    intro hall p hp hdropped
    obtain ⟨left, right, hsplit⟩ := List.append_of_mem hp
    have hpos := byteLength_text_pos hp
    have hat : PieceAt (pieces source.toList) (extent left) left p right :=
      ⟨hsplit, Nat.le_refl _, Nat.lt_add_of_pos_right hpos⟩
    have hlt : extent left < byteLength source.toList := by
      rw [← extent_pieces, hsplit, extent_append, extent_cons]
      omega
    obtain ⟨left', p', right', hat', hkind⟩ := isAccounted_iff.1 (hall _ hlt)
    rw [← hat.eq hat'] at hkind
    exact hkind hdropped
  · intro hnone i hi
    rw [← extent_pieces] at hi
    obtain ⟨left, p, right, hat⟩ := exists_pieceAt hi
    refine isAccounted_iff.2 ⟨left, p, right, hat, hnone p ?_⟩
    rw [hat.split]
    exact List.mem_append_right left List.mem_cons_self

/-! ## Blanks for what is dropped -/

/-- A piece as it is read: what is dropped counts for as many blanks as it has bytes. -/
def Piece.reading (p : Piece) : List Char :=
  if p.kind = .dropped then List.replicate (byteLength p.text) ' ' else p.text

/-- A text with blanks for what is dropped of it. -/
def readable (cs : List Char) : List Char := (pieces cs).flatMap Piece.reading

theorem readable_cons (c : Char) (cs : List Char) :
    readable (c :: cs) =
      (⟨(cut c cs).kind, c :: cs.take (cut c cs).more⟩ : Piece).reading ++
        readable (cs.drop (cut c cs).more) := by
  rw [readable, pieces, List.flatMap_cons]
  rfl

theorem byteLength_blanks (n : Nat) : byteLength (List.replicate n ' ') = n := by
  induction n with
  | zero => rfl
  | succ n ih =>
    rw [List.replicate_succ, byteLength_cons, ih, Nat.add_comm]
    rfl

/-- The blanks keep all places. -/
theorem byteLength_readable (cs : List Char) : byteLength (readable cs) = byteLength cs := by
  have hreading : ∀ p : Piece, byteLength p.reading = byteLength p.text := by
    intro p
    rw [Piece.reading]
    split
    · exact byteLength_blanks _
    · rfl
  have hall : ∀ ps : List Piece, byteLength (ps.flatMap Piece.reading) = extent ps := by
    intro ps
    induction ps with
    | nil => rfl
    | cons p ps ih => rw [List.flatMap_cons, byteLength_append, ih, hreading, extent_cons]
  rw [readable, hall, extent_pieces]

/-- A text begins as it did, or with a blank if its first piece is dropped. -/
theorem head?_readable (c : Char) (cs : List Char) :
    (readable (c :: cs)).head? = some (if (cut c cs).kind = .dropped then ' ' else c) := by
  rw [readable_cons, Piece.reading]
  dsimp only
  split
  · obtain ⟨n, hn⟩ : ∃ n, byteLength (c :: cs.take (cut c cs).more) = n + 1 :=
      ⟨_, (Nat.succ_pred_eq_of_pos byteLength_pos).symm⟩
    rw [hn, List.replicate_succ]
    rfl
  · rfl

/-- The characters of a kind that no blank is of end where they did. -/
theorem head?_readable_of_head? {p : Char → Bool} (hp : p ' ' = false) {rest : List Char}
    (h : ∀ c ∈ rest.head?, p c = false) : ∀ c ∈ (readable rest).head?, p c = false := by
  cases rest with
  | nil => simp [readable, pieces]
  | cons d ds =>
    intro c hc
    rw [head?_readable, Option.mem_some] at hc
    split at hc
    · rw [← hc, hp]
    · rw [← hc, h d rfl]

/-- What ends before some text ends before its readable form, blank space apart. -/
theorem Rule.Ends.readable {r : Rule} {text rest : List Char} (hr : r ≠ .blank)
    (h : r.Ends text rest) : r.Ends text (readable rest) := by
  cases r with
  | blank => exact absurd rfl hr
  | lineComment =>
    cases rest with
    | nil => simp [Ends, Markup.readable, pieces]
    | cons d ds =>
      -- a line feed is blank space, so it is not dropped
      obtain rfl : d = '\n' := h d rfl
      have hkind : (cut '\n' ds).kind = .blank := rfl
      intro c hc
      rw [head?_readable, hkind] at hc
      simpa using hc.symm
  | word => exact head?_readable_of_head? (by decide) h
  | int =>
    refine ⟨head?_readable_of_head? (by decide) h.1, ?_⟩
    intro d after heq
    -- no rule reads a point, so none is left
    cases rest with
    | nil => simp [Markup.readable, pieces] at heq
    | cons c cs =>
      have hhead := head?_readable c cs
      rw [heq, List.head?_cons, Option.some.injEq] at hhead
      split at hhead
      · cases hhead
      · rename_i hkind
        rw [← hhead] at hkind
        exact absurd rfl hkind
  | float => exact head?_readable_of_head? (by decide) h
  | color => exact h.imp_right fun h => head?_readable_of_head? (by decide) h
  | blockComment | mark m | string => trivial

/-- Blank space is cut off as a whole. -/
theorem pieces_blank {c : Char} (h : isBlank c = true) (cs : List Char) :
    pieces (c :: cs) = ⟨.blank, c :: cs.takeWhile isBlank⟩ :: pieces (cs.dropWhile isBlank) := by
  obtain ⟨blanks, rest, rfl, htake, hdrop, -, -⟩ := exists_split isBlank cs
  rw [pieces, cut, if_pos h, htake, hdrop]
  dsimp only
  rw [List.take_left, List.drop_left]

/-- What remains of blank space after a blank is blank space, if anything remains. -/
theorem pieces_dropWhile_blank (cs : List Char) :
    (cs.takeWhile isBlank = [] ∧ pieces cs = pieces (cs.dropWhile isBlank)) ∨
      pieces cs = ⟨.blank, cs.takeWhile isBlank⟩ :: pieces (cs.dropWhile isBlank) := by
  cases cs with
  | nil => exact .inl ⟨rfl, rfl⟩
  | cons d ds =>
    cases hd : isBlank d with
    | true =>
      rw [List.takeWhile_cons_of_pos hd, List.dropWhile_cons_of_pos hd]
      exact .inr (pieces_blank hd ds)
    | false =>
      refine .inl ⟨?_, ?_⟩
      · rw [List.takeWhile_cons_of_neg (by simp [hd])]
      · rw [List.dropWhile_cons_of_neg (by simp [hd])]

/-- A blank in front moves the tokens. -/
theorem lexemesFrom_blank {c : Char} (h : isBlank c = true) (offset : Nat) (cs : List Char) :
    lexemesFrom offset (pieces (c :: cs)) = lexemesFrom (offset + c.utf8Size) (pieces cs) := by
  rw [pieces_blank h, lexemesFrom]
  dsimp only
  rcases pieces_dropWhile_blank cs with ⟨hnil, hpieces⟩ | hpieces
  · rw [hpieces, hnil]
    rfl
  · rw [hpieces, lexemesFrom, byteLength_cons, Nat.add_assoc]

theorem lexemesFrom_blanks {blanks : List Char} (h : ∀ c ∈ blanks, isBlank c = true)
    (offset : Nat) (cs : List Char) :
    lexemesFrom offset (pieces (blanks ++ cs)) =
      lexemesFrom (offset + byteLength blanks) (pieces cs) := by
  induction blanks generalizing offset with
  | nil => rfl
  | cons c blanks ih =>
    obtain ⟨hc, hblanks⟩ := List.forall_mem_cons.1 h
    rw [List.cons_append, lexemesFrom_blank hc, ih hblanks, byteLength_cons, Nat.add_assoc]

/-- A blank in front changes nothing about a text being lexical. -/
theorem isLexical_blank {c : Char} (h : isBlank c = true) {cs : List Char}
    (hcs : IsLexical cs) : IsLexical (c :: cs) := by
  rw [isLexical_iff] at hcs ⊢
  rw [pieces_blank h]
  refine List.forall_mem_cons.2 ⟨nofun, ?_⟩
  rcases pieces_dropWhile_blank cs with ⟨-, hpieces⟩ | hpieces
  · rw [← hpieces]
    exact hcs
  · rw [hpieces] at hcs
    exact (List.forall_mem_cons.1 hcs).2

theorem isLexical_blanks {blanks : List Char} (h : ∀ c ∈ blanks, isBlank c = true)
    {cs : List Char} (hcs : IsLexical cs) : IsLexical (blanks ++ cs) := by
  induction blanks with
  | nil => exact hcs
  | cons c blanks ih =>
    obtain ⟨hc, hblanks⟩ := List.forall_mem_cons.1 h
    exact isLexical_blank hc (ih hblanks)

theorem readable_of_pieces {text rest : List Char} {kind : PieceKind}
    (h : pieces (text ++ rest) = ⟨kind, text⟩ :: pieces rest) :
    readable (text ++ rest) = (⟨kind, text⟩ : Piece).reading ++ readable rest := by
  rw [readable, h, List.flatMap_cons]
  rfl

/-- With blanks for what is dropped, nothing is dropped and the tokens are the same. -/
theorem isLexical_readable (cs : List Char) :
    IsLexical (readable cs) ∧
      ∀ offset, lexemesFrom offset (pieces (readable cs)) = lexemesFrom offset (pieces cs) := by
  induction cs using text_induction with
  | nil =>
    have hnil : readable [] = [] := by rw [readable, pieces, List.flatMap_nil]
    rw [hnil]
    exact ⟨.nil, fun _ => rfl⟩
  | taken r text rest hmatches hends hkind ih =>
    have hpieces := (isLongest_of_ends hmatches hends).pieces_eq
    have hreading : (⟨r.kind text, text⟩ : Piece).reading = text := if_neg hkind
    rw [readable_of_pieces hpieces, hreading]
    by_cases hr : r = .blank
    · -- blank space may go on where blanks were put
      subst hr
      have hblank : ∀ c ∈ text, isBlank c = true := by
        cases hmatches with | blank h => exact h
      refine ⟨isLexical_blanks hblank ih.1, fun offset => ?_⟩
      rw [lexemesFrom_blanks hblank, lexemesFrom_blanks hblank, ih.2]
    · have hlongest := isLongest_of_ends hmatches (hends.readable hr)
      refine ⟨.cons hlongest hkind ih.1, fun offset => ?_⟩
      rw [hlongest.pieces_eq, hpieces, lexemesFrom, lexemesFrom, ih.2]
  | dropped text rest hpieces ih =>
    have hblank : ∀ c ∈ List.replicate (byteLength text) ' ', isBlank c = true := by
      intro c hc
      rw [List.eq_of_mem_replicate hc]
      rfl
    have hreading : (⟨.dropped, text⟩ : Piece).reading = List.replicate (byteLength text) ' ' :=
      if_pos rfl
    rw [readable_of_pieces hpieces, hreading]
    refine ⟨isLexical_blanks hblank ih.1, fun offset => ?_⟩
    rw [lexemesFrom_blanks hblank, byteLength_blanks, ih.2, hpieces, lexemesFrom]

/-! ## What reading makes of it -/

/-- Dropped text is read as blank space. For every source:

* it is read as it would be with blanks in the place of what is dropped, and then nothing is;
* if a component is read, then all tokens derive its declaration, and all bytes lie in tokens,
  blank space or comments exactly if the source consists of longest matches. -/
theorem parse_readable (source : String) :
    (parse (String.ofList (readable source.toList)) = parse source ∧
        byteLength (readable source.toList) = byteLength source.toList ∧
        ∀ i < byteLength source.toList,
          IsAccounted (String.ofList (readable source.toList)) i) ∧
      ∀ c, parse source = .ok c →
        IsComponent (tokens (lexemes source)) c.declaration ∧
          ((∀ i < byteLength source.toList, IsAccounted source i) ↔
            IsLexical source.toList) := by
  obtain ⟨hlexical, hlexemes⟩ := isLexical_readable source.toList
  have hlength := byteLength_readable source.toList
  refine ⟨⟨?_, hlength, ?_⟩, ?_⟩
  · have hsame : lexemes (String.ofList (readable source.toList)) = lexemes source := by
      rw [lexemes, lexemes, String.toList_ofList, hlexemes]
    simp only [parse, hsame, String.toList_ofList, hlength]
  · rw [← hlength]
    have hall := forall_isAccounted_iff (String.ofList (readable source.toList))
    rw [String.toList_ofList] at hall
    exact hall.2 hlexical
  · intro c hc
    exact ⟨isComponent_of_readComponent ((parse_eq_ok_iff source c).1 hc),
      forall_isAccounted_iff source⟩

/-- An at sign in the body of an item: the item is read, and byte 9 is not accounted for. -/
theorem unaccounted_of_at_sign :
    parse "item A \x7b @ \x7d" = .ok ⟨.item, ⟨"A", ⟨5, 6⟩⟩, []⟩ ∧
      ¬IsAccounted "item A \x7b @ \x7d" 9 := by
  have hpieces : pieces "item A \x7b @ \x7d".toList =
      [⟨.token (.keyword .item), ['i', 't', 'e', 'm']⟩, ⟨.blank, [' ']⟩,
        ⟨.token (.ident "A"), ['A']⟩, ⟨.blank, [' ']⟩, ⟨.token (.mark .braceOpen), ['\x7b']⟩,
        ⟨.blank, [' ']⟩] ++ ⟨.dropped, ['@']⟩ ::
          [⟨.blank, [' ']⟩, ⟨.token (.mark .braceClose), ['\x7d']⟩] := by
    decide +kernel
  constructor
  · have hlexemes : lexemes "item A \x7b @ \x7d" =
        [⟨.keyword .item, ⟨0, 4⟩⟩, ⟨.ident "A", ⟨5, 6⟩⟩, ⟨.mark .braceOpen, ⟨7, 8⟩⟩,
          ⟨.mark .braceClose, ⟨11, 12⟩⟩] := by
      rw [lexemes, hpieces]
      rfl
    rw [parse, hlexemes]
    cbv
  · intro h
    obtain ⟨left, p, right, hat, hkind⟩ := isAccounted_iff.1 h
    exact hkind (hat.eq ⟨hpieces, by decide, by decide⟩ ▸ rfl)

/-- A list with an integer out of range behind a comma: the list is read without it. -/
theorem parse_readable_of_long_integer :
    parse "item A \x7b property a: [1, 99999999999999999999] \x7d" =
        .ok ⟨.item, ⟨"A", ⟨5, 6⟩⟩,
          [⟨⟨⟨"a", ⟨18, 19⟩⟩, false, some ⟨.list [⟨.literal (.int 1), ⟨22, 23⟩⟩], ⟨21, 46⟩⟩⟩,
            ⟨9, 46⟩⟩]⟩ ∧
      IsComponent (tokens (lexemes "item A \x7b property a: [1, 99999999999999999999] \x7d"))
        ⟨.item, "A", [⟨"a", false, some (.list [.literal (.int 1)])⟩]⟩ ∧
      ¬∀ i < 48, IsAccounted "item A \x7b property a: [1, 99999999999999999999] \x7d" i := by
  have hlexemes : lexemes "item A \x7b property a: [1, 99999999999999999999] \x7d" =
      [⟨.keyword .item, ⟨0, 4⟩⟩, ⟨.ident "A", ⟨5, 6⟩⟩, ⟨.mark .braceOpen, ⟨7, 8⟩⟩,
        ⟨.keyword .property, ⟨9, 17⟩⟩, ⟨.ident "a", ⟨18, 19⟩⟩, ⟨.mark .colon, ⟨19, 20⟩⟩,
        ⟨.mark .bracketOpen, ⟨21, 22⟩⟩, ⟨.int 1, ⟨22, 23⟩⟩, ⟨.mark .comma, ⟨23, 24⟩⟩,
        ⟨.mark .bracketClose, ⟨45, 46⟩⟩, ⟨.mark .braceClose, ⟨47, 48⟩⟩] := by
    decide +kernel
  have hparse : parse "item A \x7b property a: [1, 99999999999999999999] \x7d" =
      .ok ⟨.item, ⟨"A", ⟨5, 6⟩⟩,
        [⟨⟨⟨"a", ⟨18, 19⟩⟩, false, some ⟨.list [⟨.literal (.int 1), ⟨22, 23⟩⟩], ⟨21, 46⟩⟩⟩,
          ⟨9, 46⟩⟩]⟩ := by
    rw [parse, hlexemes]
    cbv
  have hdropped : ¬IsLexical "item A \x7b property a: [1, 99999999999999999999] \x7d".toList := by
    rw [isLexical_iff]
    decide +kernel
  obtain ⟨hderived, hiff⟩ := (parse_readable _).2 _ hparse
  refine ⟨hparse, ?_, fun hall => hdropped (hiff.1 hall)⟩
  simpa [Component.declaration, Property.bare, Expr.bare] using hderived

end SceneFactory.Markup
