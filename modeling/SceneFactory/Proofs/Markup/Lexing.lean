import SceneFactory.Proofs.Markup.Grammar

/-!
# Texts that are laid out

Tokens can be spelled out one after the other with layout between any two: blank space, and
comments that end with their line (`layOut`). Main statement: `lexed_layOut`. The tokens of such
a text are the ones that were spelled, whatever the layout.

A token is cut off whole if nothing follows that would lengthen it (`EndsWords`), and layout
lengthens none. Only next to a mark may there be no layout at all (`Separated`). A comment takes
all up to the end of its line, so what it says is never read, and a string takes what looks like
a comment.
-/

set_option autoImplicit false

namespace SceneFactory.Markup

/-! ## The tokens of a text -/

/-- The token that a piece is, if it is one. -/
def PieceKind.token? : PieceKind → Option Token
  | .token t => some t
  | _ => none

/-- The tokens of a text, wherever it stands. -/
def lexed (cs : List Char) : List Token := (pieces cs).filterMap fun p => p.kind.token?

theorem tokens_lexemesFrom (offset : Nat) (ps : List Piece) :
    tokens (lexemesFrom offset ps) = ps.filterMap fun p => p.kind.token? := by
  induction ps generalizing offset with
  | nil => rfl
  | cons p ps ih =>
    rw [lexemesFrom, List.filterMap_cons]
    cases p.kind with
    | token t => exact congrArg (t :: ·) (ih _)
    | _ => exact ih _

/-- The tokens of a source do not depend on where they stand. -/
theorem tokens_lexemes (source : String) : tokens (lexemes source) = lexed source.toList :=
  tokens_lexemesFrom 0 _

@[simp] theorem lexed_nil : lexed [] = [] := by
  rw [lexed, pieces, List.filterMap_nil]

theorem lexed_cons (c : Char) (cs : List Char) :
    lexed (c :: cs) = (cut c cs).kind.token?.toList ++ lexed (cs.drop (cut c cs).more) := by
  rw [lexed, pieces, List.filterMap_cons]
  dsimp only
  cases (cut c cs).kind.token? with
  | none => rfl
  | some t => rfl

/-- A token that is cut off whole comes first. -/
theorem lexed_of_cut {c : Char} {cs rest : List Char} {t : Token}
    (h : cut c (cs ++ rest) = ⟨.token t, cs.length⟩) :
    lexed (c :: cs ++ rest) = t :: lexed rest := by
  rw [List.cons_append, lexed_cons, h, List.drop_left]
  rfl

/-! ## Character classes -/

theorem isBlank_eq_true_iff {c : Char} :
    isBlank c = true ↔ c = ' ' ∨ c = '\t' ∨ c = '\n' ∨ c = '\r' := by
  simp [isBlank, or_assoc]

theorem not_isBlank_of_isNameChar {c : Char} (h : isNameChar c = true) : isBlank c = false := by
  rw [Bool.eq_false_iff]
  intro hblank
  rcases isBlank_eq_true_iff.1 hblank with rfl | rfl | rfl | rfl <;> exact absurd h (by decide)

theorem isNameChar_of_isDigit {c : Char} (h : isDigit c = true) : isNameChar c = true := by
  rw [isNameChar, h, Bool.or_true]

theorem not_isNameStart_of_isDigit {c : Char} (h : isDigit c = true) : isNameStart c = false := by
  simp only [isDigit, Bool.and_eq_true, decide_eq_true_eq, Char.le_def,
    UInt32.le_iff_toNat_le] at h
  simp only [isNameStart, Bool.or_eq_false_iff, Bool.and_eq_false_iff, decide_eq_false_iff_not,
    Char.le_def, UInt32.le_iff_toNat_le]
  refine ⟨⟨.inl ?_, .inl ?_⟩, ?_⟩
  · exact fun hle => absurd (Nat.le_trans hle h.2) (by decide)
  · exact fun hle => absurd (Nat.le_trans hle h.2) (by decide)
  · rintro rfl
    exact absurd h.2 (by decide)

/-- What matches is taken, up to a rest that begins with none of it. -/
theorem takeWhile_append_rest {p : Char → Bool} {cs rest : List Char}
    (hcs : ∀ c ∈ cs, p c = true) (hrest : ∀ c ∈ rest.head?, p c = false) :
    (cs ++ rest).takeWhile p = cs ∧ (cs ++ rest).dropWhile p = rest := by
  rw [List.takeWhile_append_of_pos hcs, List.dropWhile_append_of_pos hcs]
  cases rest with
  | nil => simp
  | cons c rest => simp [hrest c rfl]

/-! ## Layout -/

/-- One piece of layout: a blank character, or a comment with the line feed that ends it. -/
inductive Filler where
  | space
  | tab
  | lineFeed
  | carriageReturn
  | comment (text : List Char) (h : '\n' ∉ text)

/-- The text of a piece of layout. -/
def Filler.chars : Filler → List Char
  | .space => [' ']
  | .tab => ['\t']
  | .lineFeed => ['\n']
  | .carriageReturn => ['\r']
  | .comment text _ => '/' :: '/' :: text ++ ['\n']

/-- The text of some layout. -/
def layout (fs : List Filler) : List Char := fs.flatMap Filler.chars

/-- Blank space is cut off as a whole, so what remains of it after a blank is cut off with it. -/
theorem lexed_blank {c : Char} (h : isBlank c = true) (cs : List Char) :
    lexed (c :: cs) = lexed cs := by
  have hblank : ∀ (c : Char) (cs : List Char), isBlank c = true →
      lexed (c :: cs) = lexed (cs.dropWhile isBlank) := by
    intro c cs h
    have hdrop : cs.drop (cs.takeWhile isBlank).length = cs.dropWhile isBlank := by
      have hsplit := List.takeWhile_append_dropWhile (p := isBlank) (l := cs)
      exact (congrArg (List.drop _) hsplit.symm).trans List.drop_left
    rw [lexed_cons, cut, if_pos h]
    exact congrArg lexed hdrop
  rw [hblank c cs h]
  cases cs with
  | nil => rfl
  | cons d ds =>
    cases hd : isBlank d with
    | true => rw [List.dropWhile_cons_of_pos hd, hblank d ds hd]
    | false => rw [List.dropWhile_cons_of_neg (by simp [hd])]

/-- A comment is cut off up to the end of its line. -/
theorem lexed_comment {text : List Char} (h : '\n' ∉ text) (rest : List Char) :
    lexed ('/' :: '/' :: (text ++ '\n' :: rest)) = lexed ('\n' :: rest) := by
  have htext : (text ++ '\n' :: rest).takeWhile (· ≠ '\n') = text := by
    refine (takeWhile_append_rest ?_ ?_).1
    · intro c hc
      simpa using fun heq : c = '\n' => h (heq ▸ hc)
    · simp
  have hcut : cut '/' ('/' :: (text ++ '\n' :: rest)) = ⟨.comment, 1 + text.length⟩ := by
    change (⟨.comment, 1 + ((text ++ '\n' :: rest).takeWhile (· ≠ '\n')).length⟩ : Cut) = _
    rw [htext]
  rw [lexed_cons, hcut]
  change lexed (List.drop (1 + text.length) ('/' :: (text ++ '\n' :: rest))) = _
  rw [Nat.add_comm, List.drop_succ_cons, List.drop_left]

/-- Layout is no token. -/
theorem lexed_layout (fs : List Filler) (rest : List Char) :
    lexed (layout fs ++ rest) = lexed rest := by
  induction fs with
  | nil => rfl
  | cons f fs ih =>
    rw [layout, List.flatMap_cons, List.append_assoc]
    change lexed (f.chars ++ (layout fs ++ rest)) = _
    rw [← ih]
    cases f with
    | space => exact lexed_blank rfl _
    | tab => exact lexed_blank rfl _
    | lineFeed => exact lexed_blank rfl _
    | carriageReturn => exact lexed_blank rfl _
    | comment text h =>
      rw [Filler.chars, List.append_assoc]
      exact (lexed_comment h _).trans (lexed_blank rfl _)

/-! ## Spellings -/

/-- A string with a backslash before each backslash and each double quote. -/
def escape : List Char → List Char
  | [] => []
  | c :: cs => if c = '\\' ∨ c = '"' then '\\' :: c :: escape cs else c :: escape cs

/-- Escaping is undone. -/
theorem unescape_escape (cs : List Char) : unescape (escape cs) = cs := by
  induction cs with
  | nil => rfl
  | cons c cs ih =>
    rw [escape]
    split
    · rename_i h
      rcases h with rfl | rfl <;> rw [unescape, ih] <;> decide
    · rename_i h
      rw [not_or] at h
      rw [unescape, ih] <;> simp [h.1]

/-- An escaped string ends at its own closing quote, whatever follows. -/
theorem stringEnd_escape (cs rest : List Char) :
    stringEnd (escape cs ++ '"' :: rest) = .closed ((escape cs).length + 1) := by
  induction cs with
  | nil => rfl
  | cons c cs ih =>
    rw [escape]
    split
    · rename_i h
      rcases h with rfl | rfl <;> simp [stringEnd, ih, StringEnd.after]
    · rename_i h
      rw [not_or] at h
      rw [List.cons_append, stringEnd, ih] <;> simp [h.1, h.2, StringEnd.after]

/-- The text of a token. Only tokens that are spellable are read back from it. -/
def Token.spelling : Token → List Char
  | .keyword k => k.spelling.toList
  | .mark m => [m.char]
  | .ident name => name.toList
  | .string text => '"' :: escape text.toList ++ ['"']
  | .int n => Nat.toDigits 10 n.toNatClampNeg
  | .float x => x.text.toList
  | .color text => text.toList

/-- A word: a letter or underscore, then letters, digits and underscores. -/
structure IsWord (word : String) : Prop where
  start : word.toList.head?.any isNameStart = true
  letters : word.toList.all isNameChar = true

/-- A name: a word that is no keyword. -/
structure IsName (name : String) : Prop extends IsWord name where
  noKeyword : ∀ k ∈ Keyword.all, k.spelling ≠ name

instance (name : String) : Decidable (IsName name) :=
  decidable_of_decidable_of_iff
    (p := name.toList.head?.any isNameStart = true ∧ name.toList.all isNameChar = true ∧
      ∀ k ∈ Keyword.all, k.spelling ≠ name)
    ⟨fun h => ⟨⟨h.1, h.2.1⟩, h.2.2⟩, fun h => ⟨h.start, h.letters, h.noKeyword⟩⟩

/-- The tokens whose spelling denotes them: no number has a sign, and none has a point. -/
inductive Token.IsSpellable : Token → Prop where
  | keyword (k : Keyword) : IsSpellable (.keyword k)
  | mark (m : Mark) : IsSpellable (.mark m)
  | ident {name : String} (h : IsName name) : IsSpellable (.ident name)
  | string (text : String) : IsSpellable (.string text)
  | int {n : Int64} (h : 0 ≤ n) : IsSpellable (.int n)

/-- Whether a word or a number would end before a text. -/
def EndsWords (rest : List Char) : Prop := ∀ c ∈ rest.head?, isNameChar c = false ∧ c ≠ '.'

/-- A word is cut off whole. -/
theorem lexed_word {word : String} (h : IsWord word) {t : Token}
    (ht : wordToken word = .token t) {rest : List Char} (hrest : EndsWords rest) :
    lexed (word.toList ++ rest) = t :: lexed rest := by
  obtain ⟨c, hc, hstart⟩ := (Option.any_eq_true _ _).1 h.start
  obtain ⟨cs, hword⟩ := List.head?_eq_some_iff.1 hc
  have hletters := List.all_eq_true.1 h.letters
  rw [hword] at hletters
  have htake := (takeWhile_append_rest (fun d hd => hletters d (List.mem_cons_of_mem c hd))
    fun d hd => (hrest d hd).1).1
  have hblank := not_isBlank_of_isNameChar (hletters c List.mem_cons_self)
  rw [hword]
  apply lexed_of_cut
  rw [cut, hblank, if_neg Bool.false_ne_true, if_pos hstart, htake]
  dsimp only
  rw [← hword, String.ofList_toList, ht]

theorem Keyword.isWord (k : Keyword) : IsWord k.spelling := by
  cases k <;> exact ⟨by decide, by decide⟩

theorem IsName.wordToken {name : String} (h : IsName name) :
    wordToken name = .token (.ident name) := by
  have hnone : Keyword.ofSpelling? name = none :=
    List.find?_eq_none.2 fun k hk => by simpa using h.noKeyword k hk
  rw [Markup.wordToken, hnone]

/-- A string is cut off whole, whatever it holds and whatever follows. -/
theorem lexed_string (text : String) (rest : List Char) :
    lexed ('"' :: escape text.toList ++ ['"'] ++ rest) = .string text :: lexed rest := by
  rw [List.cons_append]
  apply lexed_of_cut
  change cutString _ = _
  rw [List.append_assoc, List.singleton_append, cutString, stringEnd_escape]
  dsimp only
  rw [Nat.add_sub_cancel, List.take_left, unescape_escape, String.ofList_toList,
    List.length_append, List.length_singleton]

/-- A number is cut off whole. -/
theorem lexed_int {n : Int64} (h : 0 ≤ n) {rest : List Char} (hrest : EndsWords rest) :
    lexed (Nat.toDigits 10 n.toNatClampNeg ++ rest) = .int n :: lexed rest := by
  have hdigits : ∀ d ∈ Nat.toDigits 10 n.toNatClampNeg, isDigit d = true := fun d hd =>
    Nat.isDigit_of_mem_toDigits (by decide) (by decide) hd
  have hvalue : natOfDigits (Nat.toDigits 10 n.toNatClampNeg) = n.toNatClampNeg :=
    Nat.ofDigitChars_toDigits (by decide) (by decide)
  have htoken : intToken (Nat.toDigits 10 n.toNatClampNeg) = .token (.int n) := by
    have hmax : n.toNatClampNeg ≤ 9223372036854775807 := by
      have := n.toNatClampNeg_lt
      omega
    rw [intToken, hvalue]
    simp only [hmax, if_true, Int64.ofNat_toNatClampNeg n h]
  cases hcs : Nat.toDigits 10 n.toNatClampNeg with
  | nil => exact absurd hcs Nat.toDigits_ne_nil
  | cons c cs =>
    rw [hcs] at hdigits htoken
    have hc := hdigits c List.mem_cons_self
    obtain ⟨htake, hdrop⟩ := takeWhile_append_rest
      (fun d hd => hdigits d (List.mem_cons_of_mem c hd)) fun d hd =>
        Bool.eq_false_iff.2 fun hdigit =>
          Bool.eq_false_iff.1 (hrest d hd).1 (isNameChar_of_isDigit hdigit)
    have hnumber : cutNumber c (cs ++ rest) = ⟨.token (.int n), cs.length⟩ := by
      rw [cutNumber, htake, hdrop, htoken]
      dsimp only
      split
      · exact absurd rfl (hrest '.' rfl).2
      · rfl
    apply lexed_of_cut
    rw [cut, not_isBlank_of_isNameChar (isNameChar_of_isDigit hc), not_isNameStart_of_isDigit hc,
      if_neg Bool.false_ne_true, if_neg Bool.false_ne_true, if_pos hc, hnumber]

/-- Whether a token is a mark. -/
def Token.isMark : Token → Bool
  | .mark _ => true
  | _ => false

/-- A spellable token is cut off whole: a mark before anything, the others before anything
that ends words. -/
theorem lexed_spelling {t : Token} (h : t.IsSpellable) {rest : List Char}
    (hrest : t.isMark = true ∨ EndsWords rest) : lexed (t.spelling ++ rest) = t :: lexed rest := by
  cases h with
  | keyword k =>
    have hk : wordToken k.spelling = .token (.keyword k) := by
      rw [wordToken, k.ofSpelling?_spelling]
    exact lexed_word k.isWord hk (hrest.resolve_left nofun)
  | mark m =>
    have hm : cut m.char ([] ++ rest) = ⟨.token (.mark m), 0⟩ := by
      cases m <;> rfl
    exact lexed_of_cut hm
  | ident hname => exact lexed_word hname.toIsWord hname.wordToken (hrest.resolve_left nofun)
  | string text => exact lexed_string text rest
  | int hn => exact lexed_int hn (hrest.resolve_left nofun)

/-! ## Laying out -/

/-- Tokens spelled out with layout around them: `gap n` stands before the last `n`. -/
def layOut (gap : Nat → List Filler) : List Token → List Char
  | [] => layout (gap 0)
  | t :: ts => layout (gap (ts.length + 1)) ++ (t.spelling ++ layOut gap ts)

/-- Two tokens touch only if one of them is a mark. -/
def Separated (gap : Nat → List Filler) : List Token → Prop
  | [] | [_] => True
  | t :: u :: ts =>
    (gap (ts.length + 1) ≠ [] ∨ t.isMark = true ∨ u.isMark = true) ∧ Separated gap (u :: ts)

/-- Layout everywhere separates all tokens. -/
theorem separated_of_ne_nil {gap : Nat → List Filler} (h : ∀ n, gap n ≠ []) (ts : List Token) :
    Separated gap ts := by
  fun_induction Separated gap ts with
  | case1 => trivial
  | case2 => trivial
  | case3 t u ts ih => exact ⟨.inl (h _), ih⟩

theorem endsWords_layout {fs : List Filler} {rest : List Char}
    (h : fs ≠ [] ∨ EndsWords rest) : EndsWords (layout fs ++ rest) := by
  cases fs with
  | nil => exact h.resolve_left nofun
  | cons f fs =>
    intro c hc
    cases f <;> cases Option.some.inj hc <;> decide

theorem endsWords_mark {t : Token} (h : t.isMark = true) (rest : List Char) :
    EndsWords (t.spelling ++ rest) := by
  cases t with
  | mark m =>
    intro c hc
    cases m <;> cases Option.some.inj hc <;> decide
  | _ => cases h

/-- Behind a token that is no mark, what is laid out ends words. -/
theorem Separated.endsWords {gap : Nat → List Filler} {t : Token} {ts : List Token}
    (h : Separated gap (t :: ts)) : t.isMark = true ∨ EndsWords (layOut gap ts) := by
  cases ts with
  | nil =>
    have hends : EndsWords (layout (gap 0) ++ []) := endsWords_layout (.inr nofun)
    rw [List.append_nil] at hends
    exact .inr hends
  | cons u us =>
    rcases h.1 with hgap | ht | hu
    · exact .inr (endsWords_layout (.inl hgap))
    · exact .inl ht
    · exact .inr (endsWords_layout (.inr (endsWords_mark hu _)))

theorem Separated.tail {gap : Nat → List Filler} {t : Token} {ts : List Token}
    (h : Separated gap (t :: ts)) : Separated gap ts := by
  cases ts with
  | nil => trivial
  | cons u us => exact h.2

/-- The tokens of a text that is laid out are the ones that were spelled. -/
theorem lexed_layOut {gap : Nat → List Filler} {ts : List Token}
    (h : ∀ t ∈ ts, t.IsSpellable) (hgap : Separated gap ts) : lexed (layOut gap ts) = ts := by
  induction ts with
  | nil =>
    have hlayout := lexed_layout (gap 0) []
    rw [List.append_nil, lexed_nil] at hlayout
    exact hlayout
  | cons t ts ih =>
    have hts := ih (fun u hu => h u (List.mem_cons_of_mem t hu)) hgap.tail
    rw [layOut, lexed_layout, lexed_spelling (h t List.mem_cons_self) hgap.endsWords, hts]

end SceneFactory.Markup
