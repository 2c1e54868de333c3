import SceneFactory.Proofs.Markup.Losses

/-!
# Where scanning arrives

A source is scanned from the left. At each place the longest match of the rules is taken, and where
no rule matches some text is passed over (`IsPassed`): a string without an end as far as it can be
read, a block comment without an end with all that follows, and one character otherwise. The places
where scanning arrives (`Arrives`) are said by these two steps alone.

Main statement: `arrives_iff`. The places are the ones between the pieces that a source is cut into.
So scanning gets to the end of every source (`arrives_end`).
-/

set_option autoImplicit false

namespace SceneFactory.Markup

/-! ## What is passed over -/

/-- What is passed over in front of some rest, at a place where no rule matches. -/
inductive IsPassed : List Char → List Char → Prop where
  /-- a string that the source ends in -/
  | string {body : List Char} (h : IsStringBody body) : IsPassed ('"' :: body) []
  /-- a string up to a backslash that escapes nothing -/
  | escape {body rest : List Char} (h : IsStringBody body) (hrest : ∀ c ∈ rest.head?, c = '\n') :
      IsPassed ('"' :: (body ++ ['\\'])) rest
  /-- a block comment that has no end -/
  | comment {body : List Char} (h : IsUnmatched ('/' :: '*' :: body)) :
      IsPassed ('/' :: '*' :: body) []
  /-- any other character that no match begins with -/
  | char {c : Char} {rest : List Char} (h : IsUnmatched (c :: rest)) (hstring : c ≠ '"')
      (hcomment : c = '/' → rest.head? ≠ some '*') : IsPassed [c] rest

/-- Every text begins with what a string may hold, up to its end, a quote or a backslash that
escapes nothing. -/
theorem exists_isStringBody (cs : List Char) : ∃ body rest, cs = body ++ rest ∧ IsStringBody body ∧
    (rest = [] ∨ (∃ more, rest = '"' :: more) ∨
      ∃ more, rest = '\\' :: more ∧ ∀ c ∈ more.head?, c = '\n') := by
  induction cs using stringEnd.induct with
  | case1 => exact ⟨[], [], rfl, .nil, .inl rfl⟩
  | case2 rest => exact ⟨[], '"' :: rest, rfl, .nil, .inr (.inl ⟨rest, rfl⟩)⟩
  | case3 rest => exact ⟨[], '\\' :: '\n' :: rest, rfl, .nil, .inr (.inr ⟨_, rfl, by simp⟩)⟩
  | case4 c cs hc ih =>
    obtain ⟨body, rest, rfl, hbody, hrest⟩ := ih
    exact ⟨'\\' :: c :: body, rest, rfl, .escape hc hbody, hrest⟩
  | case5 c cs hquote hfeed hescape ih =>
    by_cases hc : c = '\\'
    · subst hc
      cases cs with
      | nil => exact ⟨[], ['\\'], rfl, .nil, .inr (.inr ⟨[], rfl, by simp⟩)⟩
      | cons d ds => exact absurd rfl (hescape d ds rfl)
    · obtain ⟨body, rest, rfl, hbody, hrest⟩ := ih
      exact ⟨c :: body, rest, rfl, .char hquote hc hbody, hrest⟩

theorem StringEnd.after_after (n m : Nat) (e : StringEnd) :
    (e.after n).after m = e.after (n + m) := by
  cases e <;> simp [StringEnd.after, Nat.add_assoc]

/-- The end of a string is looked for behind what it holds. -/
theorem IsStringBody.stringEnd_append {body : List Char} (h : IsStringBody body)
    (rest : List Char) : stringEnd (body ++ rest) = (stringEnd rest).after body.length := by
  induction h with
  | nil =>
    rw [List.nil_append]
    cases stringEnd rest <;> rfl
  | char hquote hescape _ ih =>
    rw [List.cons_append, stringEnd, ih, StringEnd.after_after, List.length_cons]
    all_goals simp [hquote, hescape]
  | escape hfeed _ ih =>
    rw [List.cons_append, List.cons_append, stringEnd, ih, StringEnd.after_after, List.length_cons,
      List.length_cons]
    simpa using hfeed

/-- Where no rule matches, something is passed over. -/
theorem exists_isPassed {c : Char} {cs : List Char} (h : IsUnmatched (c :: cs)) :
    ∃ text rest, c :: cs = text ++ rest ∧ IsPassed text rest := by
  by_cases hstring : c = '"'
  · subst hstring
    obtain ⟨body, rest, rfl, hbody, rfl | ⟨more, rfl⟩ | ⟨more, rfl, hmore⟩⟩ :=
      exists_isStringBody cs
    · exact ⟨'"' :: body, [], by simp, .string hbody⟩
    · -- with a quote behind it the string would be matched
      have hmatch : '"' :: (body ++ ['"']) <+: '"' :: (body ++ '"' :: more) := ⟨more, by simp⟩
      exact absurd hmatch (h .string _ (.string hbody))
    · exact ⟨'"' :: (body ++ ['\\']), more, by simp, .escape hbody hmore⟩
  by_cases hcomment : c = '/' ∧ cs.head? = some '*'
  · obtain ⟨rfl, hhead⟩ := hcomment
    obtain ⟨body, rfl⟩ := List.head?_eq_some_iff.1 hhead
    exact ⟨'/' :: '*' :: body, [], by simp, .comment h⟩
  · exact ⟨[c], cs, rfl, .char h hstring fun hc hhead => hcomment ⟨hc, hhead⟩⟩

/-- A character that no match begins with is dropped by itself, unless it opens a string or a block
comment. -/
theorem cut_of_isUnmatched {c : Char} {cs : List Char} (h : IsUnmatched (c :: cs))
    (hstring : c ≠ '"') (hcomment : c = '/' → cs.head? ≠ some '*') :
    cut c cs = ⟨.dropped, 0⟩ := by
  have hfirst : [c] <+: c :: cs := ⟨cs, rfl⟩
  rw [cut]
  split_ifs with hblank hname hdigit hslash hsign
  · exact absurd hfirst (h .blank _ (.blank (by simpa using hblank)))
  · exact absurd hfirst (h .word _ (.word hname (by simp)))
  · exact absurd hfirst (h .int _ (.int hdigit (by simp)))
  · subst hslash
    fun_cases cutSlash cs with
    | case1 rest =>
      have hopened : ['/', '/'] <+: '/' :: '/' :: rest := ⟨rest, rfl⟩
      exact absurd hopened (h .lineComment _ (.lineComment (by simp)))
    | case2 | case3 => exact absurd rfl (hcomment rfl)
    | case4 => rfl
  · subst hsign
    rw [cutColor]
    split
    · rfl
    · rename_i hmany
      have hdigits : (cs.takeWhile isHexDigit).take 8 <+: cs :=
        (List.take_prefix 8 _).trans (List.takeWhile_prefix isHexDigit)
      have hall : ∀ d ∈ (cs.takeWhile isHexDigit).take 8, isHexDigit d = true := fun d hd =>
        List.mem_takeWhile_imp (List.mem_of_mem_take hd)
      have hcolor := Rule.Matches.color hall (by omega) (List.length_take_le 8 _)
      exact absurd ((List.prefix_cons_inj '#').2 hdigits) (h .color _ hcolor)
  · cases hmark : Mark.ofChar? c with
    | some m =>
      obtain rfl := Mark.ofChar?_eq_some_iff.1 hmark
      exact absurd hfirst (h (.mark m) _ (.mark m))
    | none => rfl

/-- What is passed over is a piece of its own, and it is dropped. -/
theorem IsPassed.pieces_eq {text rest : List Char} (h : IsPassed text rest) :
    pieces (text ++ rest) = ⟨.dropped, text⟩ :: pieces rest := by
  suffices hcut : ∃ c cs, text = c :: cs ∧ cut c (cs ++ rest) = ⟨.dropped, cs.length⟩ by
    obtain ⟨c, cs, rfl, hcut⟩ := hcut
    rw [List.cons_append, pieces, hcut]
    dsimp only
    rw [List.take_left, List.drop_left]
  cases h with
  | @string body h =>
    refine ⟨'"', body, rfl, ?_⟩
    change cutString _ = _
    rw [cutString, h.stringEnd_append, stringEnd, StringEnd.after, Nat.zero_add]
  | @escape body rest h hrest =>
    refine ⟨'"', body ++ ['\\'], rfl, ?_⟩
    have hend : stringEnd ('\\' :: rest) = .opened 1 := by
      cases rest with
      | nil => rfl
      | cons d ds =>
        obtain rfl := hrest d rfl
        rfl
    change cutString _ = _
    rw [List.append_assoc, List.singleton_append, cutString, h.stringEnd_append, hend,
      StringEnd.after, List.length_append, List.length_singleton, Nat.add_comm]
  | @comment body h =>
    refine ⟨'/', '*' :: body, rfl, ?_⟩
    have hend : blockEnd body = none := by
      rw [Option.eq_none_iff_forall_ne_some]
      intro n hn
      obtain ⟨inner, rest, hinner, rfl, -⟩ := blockEnd_eq_some_iff.1 hn
      exact h .blockComment _ (.blockComment hinner) ⟨rest, by simp⟩
    rw [List.append_nil]
    change cutSlash ('*' :: body) = _
    rw [cutSlash, hend, List.length_cons, Nat.add_comm]
  | @char c rest h hstring hcomment =>
    exact ⟨c, [], rfl, cut_of_isUnmatched h hstring hcomment⟩

/-! ## Steps -/

/-- Scanning does not come to a halt before the end: a longest match is taken, or some text is
passed over. -/
theorem exists_step {cs : List Char} (h : cs ≠ []) : ∃ text rest, cs = text ++ rest ∧
    ((∃ r, IsLongest (text ++ rest) r text) ∨ IsPassed text rest) := by
  obtain ⟨c, cs, rfl⟩ := List.exists_cons_of_ne_nil h
  rcases cut_spec c cs with ⟨r, text, rest, hcs, hmatches, hends, -⟩ | ⟨hnone, -⟩
  · exact ⟨text, rest, hcs, .inl ⟨r, isLongest_of_ends hmatches hends⟩⟩
  · obtain ⟨text, rest, hcs, hpassed⟩ := exists_isPassed hnone
    exact ⟨text, rest, hcs, .inr hpassed⟩

/-- The places of a source where scanning arrives, with the text before and the text behind. -/
inductive Arrives (source : List Char) : List Char → List Char → Prop where
  | start : Arrives source [] source
  | taken {before text rest : List Char} {r : Rule} (h : Arrives source before (text ++ rest))
      (hlongest : IsLongest (text ++ rest) r text) : Arrives source (before ++ text) rest
  | passed {before text rest : List Char} (h : Arrives source before (text ++ rest))
      (hpassed : IsPassed text rest) : Arrives source (before ++ text) rest

/-- From where scanning arrives it goes on as from a beginning. -/
theorem Arrives.append {source before middle between rest : List Char}
    (h : Arrives source before middle) (h' : Arrives middle between rest) :
    Arrives source (before ++ between) rest := by
  induction h' with
  | start => simpa using h
  | taken _ hlongest ih =>
    rw [← List.append_assoc]
    exact .taken ih hlongest
  | passed _ hpassed ih =>
    rw [← List.append_assoc]
    exact .passed ih hpassed

/-- The first piece is what the first step goes over. -/
theorem exists_step_of_pieces {cs : List Char} {p : Piece} {ps : List Piece}
    (h : pieces cs = p :: ps) : ∃ rest, cs = p.text ++ rest ∧ ps = pieces rest ∧
      ((∃ r : Rule, IsLongest (p.text ++ rest) r p.text ∧ p.kind = r.kind p.text) ∨
        IsPassed p.text rest ∧ p.kind = .dropped) := by
  have hne : cs ≠ [] := by
    rintro rfl
    simp [pieces] at h
  obtain ⟨text, rest, rfl, ⟨r, hlongest⟩ | hpassed⟩ := exists_step hne
  · rw [hlongest.pieces_eq] at h
    cases h
    exact ⟨rest, rfl, rfl, .inl ⟨r, hlongest, rfl⟩⟩
  · rw [hpassed.pieces_eq] at h
    cases h
    exact ⟨rest, rfl, rfl, .inr ⟨hpassed, rfl⟩⟩

/-- Scanning arrives exactly between the pieces of a source. -/
theorem arrives_iff {source before rest : List Char} : Arrives source before rest ↔
    ∃ left, pieces source = left ++ pieces rest ∧ before = left.flatMap Piece.text := by
  constructor
  · intro h
    have hstep : ∀ {left : List Piece} {text rest : List Char} {kind : PieceKind},
        pieces source = left ++ pieces (text ++ rest) →
        pieces (text ++ rest) = ⟨kind, text⟩ :: pieces rest →
        ∃ left', pieces source = left' ++ pieces rest ∧
          left.flatMap Piece.text ++ text = left'.flatMap Piece.text := by
      intro left text rest kind hleft htext
      refine ⟨left ++ [⟨kind, text⟩], ?_, by simp⟩
      rw [hleft, htext, List.append_assoc, List.singleton_append]
    induction h with
    | start => exact ⟨[], rfl, rfl⟩
    | taken _ hlongest ih =>
      obtain ⟨left, hleft, rfl⟩ := ih
      exact hstep hleft hlongest.pieces_eq
    | passed _ hpassed ih =>
      obtain ⟨left, hleft, rfl⟩ := ih
      exact hstep hleft hpassed.pieces_eq
  · rintro ⟨left, hleft, rfl⟩
    induction left generalizing source with
    | nil =>
      have hsame : source = rest := by
        rw [← spelled_pieces source, hleft, List.nil_append, spelled_pieces]
      rw [hsame]
      exact .start
    | cons p left ih =>
      obtain ⟨more, rfl, hmore, ⟨r, hlongest, -⟩ | ⟨hpassed, -⟩⟩ := exists_step_of_pieces hleft
      · exact (Arrives.start.taken hlongest).append (ih hmore.symm)
      · exact (Arrives.start.passed hpassed).append (ih hmore.symm)

/-- Where scanning arrives the source is split in two. -/
theorem Arrives.append_eq {source before rest : List Char} (h : Arrives source before rest) :
    source = before ++ rest := by
  obtain ⟨left, hleft, rfl⟩ := arrives_iff.1 h
  rw [← spelled_pieces source, hleft, List.flatMap_append, spelled_pieces]

/-- Scanning gets to the end. -/
theorem arrives_end (source : List Char) : Arrives source source [] := by
  rw [arrives_iff]
  refine ⟨pieces source, ?_, (spelled_pieces source).symm⟩
  rw [pieces, List.append_nil]

/-- Pieces at the end of a source are the pieces of what they spell. -/
theorem exists_of_pieces_append {cs : List Char} {left right : List Piece}
    (h : pieces cs = left ++ right) : ∃ rest, right = pieces rest := by
  induction left generalizing cs with
  | nil => exact ⟨cs, h.symm⟩
  | cons p left ih =>
    obtain ⟨rest, -, hrest, -⟩ := exists_step_of_pieces h
    exact ih hrest.symm

end SceneFactory.Markup
