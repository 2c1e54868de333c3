import Mathlib.Tactic.SplitIfs
import SceneFactory.Proofs.Markup.Lexing

/-!
# The lexical rules

What texts the rules of the lexicon match (`Rule.Matches`) and what a rule makes of a text that
it matches (`Rule.kind`), without a word on how a source is cut. Main statement: `cut_spec`. The
piece cut off a text is its longest beginning that any rule matches, and it is what the rule makes
of it; if no rule matches a beginning, the piece is dropped.

A match is the longest one iff nothing comes behind it that would lengthen it (`Rule.Ends`, and
`length_le_of_ends`). Two rules that match the same text are the same (`Rule.eq_of_matches`), so
longest matches leave no choice. One rule makes nothing of some texts that it matches: integers
are read only up to the largest of 64 bits.
-/

set_option autoImplicit false

namespace SceneFactory.Markup

/-! ## Rules -/

/-- What a string may hold between its quotes: no quote and no backslash, but for a backslash with
the character after it, which is any but a line feed. -/
inductive IsStringBody : List Char → Prop where
  | nil : IsStringBody []
  | char {c : Char} {cs : List Char} (hquote : c ≠ '"') (hescape : c ≠ '\\')
      (h : IsStringBody cs) : IsStringBody (c :: cs)
  | escape {c : Char} {cs : List Char} (hc : c ≠ '\n') (h : IsStringBody cs) :
      IsStringBody ('\\' :: c :: cs)

/-- What a block comment may hold between its ends: no asterisk, but for an asterisk with the
character after it, which is any but a slash. -/
inductive IsBlockBody : List Char → Prop where
  | nil : IsBlockBody []
  | char {c : Char} {cs : List Char} (hc : c ≠ '*') (h : IsBlockBody cs) : IsBlockBody (c :: cs)
  | star {c : Char} {cs : List Char} (hc : c ≠ '/') (h : IsBlockBody cs) :
      IsBlockBody ('*' :: c :: cs)

/-- The lexical rules. Keywords are words. -/
inductive Rule where
  | blank
  | lineComment
  | blockComment
  | word
  | mark (m : Mark)
  | string
  | int
  | float
  | color

/-- The texts that a rule matches. -/
inductive Rule.Matches : Rule → List Char → Prop where
  | blank {c : Char} {cs : List Char} (h : ∀ d ∈ c :: cs, isBlank d = true) :
      Matches .blank (c :: cs)
  | lineComment {text : List Char} (h : ∀ c ∈ text, c ≠ '\n') :
      Matches .lineComment ('/' :: '/' :: text)
  | blockComment {body : List Char} (h : IsBlockBody body) :
      Matches .blockComment ('/' :: '*' :: (body ++ ['*', '/']))
  | word {c : Char} {cs : List Char} (hc : isNameStart c = true)
      (h : ∀ d ∈ cs, isNameChar d = true) : Matches .word (c :: cs)
  | mark (m : Mark) : Matches (.mark m) [m.char]
  | string {body : List Char} (h : IsStringBody body) : Matches .string ('"' :: (body ++ ['"']))
  | int {c : Char} {cs : List Char} (hc : isDigit c = true) (h : ∀ d ∈ cs, isDigit d = true) :
      Matches .int (c :: cs)
  | float {c d : Char} {cs ds : List Char} (hc : isDigit c = true)
      (hcs : ∀ e ∈ cs, isDigit e = true) (hd : isDigit d = true)
      (hds : ∀ e ∈ ds, isDigit e = true) : Matches .float (c :: (cs ++ '.' :: d :: ds))
  | color {digits : List Char} (h : ∀ d ∈ digits, isHexDigit d = true)
      (hmin : 3 ≤ digits.length) (hmax : digits.length ≤ 8) : Matches .color ('#' :: digits)

/-- What a rule makes of a text that it matches. An integer out of range becomes nothing. -/
def Rule.kind : Rule → List Char → PieceKind
  | .blank, _ => .blank
  | .lineComment, _ => .comment
  | .blockComment, _ => .comment
  | .word, text => wordToken (String.ofList text)
  | .mark m, _ => .token (.mark m)
  | .string, text => .token (.string (String.ofList (unescape (text.drop 1).dropLast)))
  | .int, text => intToken text
  | .float, text => floatToken (text.takeWhile isDigit) ((text.dropWhile isDigit).drop 1)
  | .color, text => .token (.color (String.ofList text))

/-- Whether what comes behind a text that a rule matches does not lengthen it. -/
def Rule.Ends : Rule → List Char → List Char → Prop
  | .blank, _, rest => ∀ c ∈ rest.head?, isBlank c = false
  | .lineComment, _, rest => ∀ c ∈ rest.head?, c = '\n'
  | .word, _, rest => ∀ c ∈ rest.head?, isNameChar c = false
  | .int, _, rest => (∀ c ∈ rest.head?, isDigit c = false) ∧
      ∀ d after, rest = '.' :: d :: after → isDigit d = false
  | .float, _, rest => ∀ c ∈ rest.head?, isDigit c = false
  | .color, text, rest => text.length = 9 ∨ ∀ c ∈ rest.head?, isHexDigit c = false
  | .blockComment, _, _ => True
  | .mark _, _, _ => True
  | .string, _, _ => True

/-! ## Strings and block comments -/

/-- A string is closed behind the shortest body that a quote follows. -/
theorem stringEnd_eq_closed_iff {cs : List Char} {n : Nat} :
    stringEnd cs = .closed n ↔
      ∃ body rest, IsStringBody body ∧ cs = body ++ '"' :: rest ∧ n = body.length + 1 := by
  constructor
  · intro h
    fun_induction stringEnd cs generalizing n with
    | case1 => cases h
    | case2 rest =>
      cases h
      exact ⟨[], rest, .nil, rfl, rfl⟩
    | case3 rest => cases h
    | case4 c rest hc ih =>
      cases hend : stringEnd rest with
      | opened m => rw [hend] at h; cases h
      | closed m =>
        rw [hend] at h
        cases h
        obtain ⟨body, after, hbody, rfl, rfl⟩ := ih hend
        exact ⟨'\\' :: c :: body, after, .escape (fun heq => hc heq) hbody, rfl, rfl⟩
    | case5 c rest hquote hfeed hescape ih =>
      cases hend : stringEnd rest with
      | opened m => rw [hend] at h; cases h
      | closed m =>
        rw [hend] at h
        cases h
        obtain ⟨body, after, hbody, rfl, rfl⟩ := ih hend
        refine ⟨c :: body, after, .char (fun heq => hquote heq) ?_ hbody, rfl, rfl⟩
        -- a backslash would have taken the next character, of which there is at least the quote
        rintro rfl
        cases body with
        | nil => exact hescape '"' after rfl rfl
        | cons d ds => exact hescape d (ds ++ '"' :: after) rfl rfl
  · rintro ⟨body, rest, hbody, rfl, rfl⟩
    induction hbody with
    | nil => rfl
    | char hquote hescape h ih =>
      rw [List.cons_append, stringEnd, ih] <;> simp [hquote, hescape, StringEnd.after]
    | @escape c cs hc h ih =>
      rw [List.cons_append, List.cons_append, stringEnd, ih]
      · rfl
      · simpa using hc

/-- A block comment is closed behind the shortest body that its end follows. -/
theorem blockEnd_eq_some_iff {cs : List Char} {n : Nat} :
    blockEnd cs = some n ↔
      ∃ body rest, IsBlockBody body ∧ cs = body ++ '*' :: '/' :: rest ∧ n = body.length + 2 := by
  constructor
  · intro h
    fun_induction blockEnd cs generalizing n with
    | case1 rest =>
      cases h
      exact ⟨[], rest, .nil, rfl, rfl⟩
    | case2 c rest hc ih =>
      obtain ⟨m, hm, rfl⟩ := Option.map_eq_some_iff.1 h
      obtain ⟨body, after, hbody, rfl, rfl⟩ := ih hm
      exact ⟨'*' :: c :: body, after, .star (fun heq => hc heq) hbody, rfl, rfl⟩
    | case3 => cases h
    | case4 c rest hclose hstep hlast ih =>
      obtain ⟨m, hm, rfl⟩ := Option.map_eq_some_iff.1 h
      obtain ⟨body, after, hbody, rfl, rfl⟩ := ih hm
      refine ⟨c :: body, after, .char ?_ hbody, rfl, rfl⟩
      -- an asterisk would have taken the next character, of which there is at least the end
      rintro rfl
      cases body with
      | nil => exact hstep '*' ('/' :: after) rfl rfl
      | cons d ds => exact hstep d (ds ++ '*' :: '/' :: after) rfl rfl
    | case5 => cases h
  · rintro ⟨body, rest, hbody, rfl, rfl⟩
    induction hbody with
    | nil => rfl
    | char hc h ih => rw [List.cons_append, blockEnd, ih] <;> simp [hc]
    | @star c cs hc h ih =>
      rw [List.cons_append, List.cons_append, blockEnd, ih]
      · rfl
      · simpa using hc

/-- A string is closed in one place only. -/
theorem IsStringBody.length_eq {body body' rest rest' : List Char} (h : IsStringBody body)
    (h' : IsStringBody body') (hsame : body ++ '"' :: rest = body' ++ '"' :: rest') :
    body.length = body'.length := by
  have hend := stringEnd_eq_closed_iff.2 ⟨body, rest, h, rfl, rfl⟩
  have hend' := stringEnd_eq_closed_iff.2 ⟨body', rest', h', rfl, rfl⟩
  rw [hsame, hend'] at hend
  exact (Nat.succ.inj (StringEnd.closed.inj hend)).symm

/-- A block comment is closed in one place only. -/
theorem IsBlockBody.length_eq {body body' rest rest' : List Char} (h : IsBlockBody body)
    (h' : IsBlockBody body') (hsame : body ++ '*' :: '/' :: rest = body' ++ '*' :: '/' :: rest') :
    body.length = body'.length := by
  have hend := blockEnd_eq_some_iff.2 ⟨body, rest, h, rfl, rfl⟩
  have hend' := blockEnd_eq_some_iff.2 ⟨body', rest', h', rfl, rfl⟩
  rw [hsame, hend'] at hend
  exact (Nat.add_right_cancel (Option.some.inj hend)).symm

/-! ## How texts open -/

/-- What the first character of a text says about the rules that may match. -/
inductive Opening where
  | blank
  | name
  | digit
  | quote
  | slash
  | sign
  | mark (m : Mark)
  | none
deriving DecidableEq

/-- How a text opens that begins with a character. -/
def Opening.of (c : Char) : Opening :=
  if isBlank c then .blank
  else if isNameStart c then .name
  else if isDigit c then .digit
  else if c = '"' then .quote
  else if c = '/' then .slash
  else if c = '#' then .sign
  else
    match Mark.ofChar? c with
    | some m => .mark m
    | Option.none => .none

/-- How the texts open that a rule matches. -/
def Rule.opening : Rule → Opening
  | .blank => .blank
  | .lineComment => .slash
  | .blockComment => .slash
  | .word => .name
  | .mark m => .mark m
  | .string => .quote
  | .int => .digit
  | .float => .digit
  | .color => .sign

/-- No rule matches the empty text. -/
theorem Rule.Matches.exists_cons {r : Rule} {text : List Char} (h : r.Matches text) :
    ∃ c cs, text = c :: cs := by
  cases h <;> exact ⟨_, _, rfl⟩

/-- A rule matches only texts that open as the rule does. -/
theorem Rule.Matches.opening_eq {r : Rule} {c : Char} {cs : List Char}
    (h : r.Matches (c :: cs)) : Opening.of c = r.opening := by
  have hname : ∀ {c : Char}, isNameStart c = true → isBlank c = false := fun hc =>
    not_isBlank_of_isNameChar (by rw [isNameChar, hc, Bool.true_or])
  cases h with
  | blank h => simp [Opening.of, h c List.mem_cons_self, Rule.opening]
  | word hc h => simp [Opening.of, hc, hname hc, Rule.opening]
  | int hc h | float hc h =>
    simp [Opening.of, hc, not_isBlank_of_isNameChar (isNameChar_of_isDigit hc),
      not_isNameStart_of_isDigit hc, Rule.opening]
  | mark m => cases m <;> decide
  | lineComment | blockComment | string | color => decide

/-! ## Longest matches -/

/-- Characters of a kind that open a text go no further than where the kind ends. -/
theorem length_le_of_all {p : Char → Bool} {cs ds rest : List Char} (hds : ∀ d ∈ ds, p d = true)
    (hrest : ∀ c ∈ rest.head?, p c = false) (hpre : ds <+: cs ++ rest) :
    ds.length ≤ cs.length := by
  rcases List.prefix_or_prefix_of_prefix hpre (List.prefix_append cs rest) with h | ⟨es, rfl⟩
  · exact h.length_le
  · cases es with
    | nil => simp
    | cons e es =>
      rw [List.prefix_append_right_inj] at hpre
      obtain ⟨fs, rfl⟩ := hpre
      have he := hds e (List.mem_append_right cs List.mem_cons_self)
      rw [hrest e rfl] at he
      cases he

theorem not_isDigit_point : isDigit '.' = false := by decide

/-- Digits and a point split only one way. -/
theorem digits_point_inj {cs ds rest more : List Char} (hcs : ∀ e ∈ cs, isDigit e = true)
    (hds : ∀ e ∈ ds, isDigit e = true) (hrest : ∀ c ∈ rest.head?, isDigit c = false)
    (heq : cs ++ rest = ds ++ '.' :: more) : cs = ds ∧ rest = '.' :: more := by
  have hleft := takeWhile_append_rest hcs hrest
  have hright : (ds ++ '.' :: more).takeWhile isDigit = ds ∧
      (ds ++ '.' :: more).dropWhile isDigit = '.' :: more :=
    takeWhile_append_rest hds fun c hc => by
      cases hc
      exact not_isDigit_point
  rw [heq] at hleft
  exact ⟨hleft.1.symm.trans hright.1, hleft.2.symm.trans hright.2⟩

/-- A match is longest if nothing comes behind it that lengthens it. -/
theorem length_le_of_ends {r r' : Rule} {text text' rest : List Char} (h : r.Matches text)
    (hends : r.Ends text rest) (h' : r'.Matches text') (hpre : text' <+: text ++ rest) :
    text'.length ≤ text.length := by
  -- both texts begin with the same character, so both rules open the same way
  obtain ⟨c, cs, rfl⟩ := h.exists_cons
  obtain ⟨c', cs', rfl⟩ := h'.exists_cons
  rw [List.cons_append, List.cons_prefix_cons] at hpre
  obtain ⟨rfl, hpre⟩ := hpre
  have hopening : r.opening = r'.opening := h.opening_eq.symm.trans h'.opening_eq
  apply Nat.succ_le_succ
  cases h with
  | blank hall =>
    cases r' <;> cases hopening
    cases h' with | blank hall' =>
    exact length_le_of_all (fun d hd => hall' d (List.mem_cons_of_mem _ hd)) hends hpre
  | lineComment hall =>
    cases r' <;> cases hopening
    · cases h' with | lineComment hall' =>
      rw [List.cons_append, List.cons_prefix_cons] at hpre
      refine Nat.succ_le_succ (length_le_of_all (p := (· ≠ '\n')) ?_ ?_ hpre.2)
      · simpa using hall'
      · simpa [Rule.Ends] using hends
    · cases h' with | blockComment _ =>
      simp at hpre
  | @blockComment body hbody =>
    cases r' <;> cases hopening
    · cases h' with | lineComment _ =>
      simp at hpre
    · cases h' with | @blockComment body' hbody' =>
      obtain ⟨more, hmore⟩ := hpre
      have hlength := hbody'.length_eq hbody (by simpa using hmore)
      simp [hlength]
  | word hc hall =>
    cases r' <;> cases hopening
    cases h' with | word hc' hall' =>
    exact length_le_of_all hall' hends hpre
  | mark m =>
    cases r' <;> cases hopening
    cases h' with | mark _ =>
    exact Nat.le_refl _
  | @string body hbody =>
    cases r' <;> cases hopening
    cases h' with | @string body' hbody' =>
    obtain ⟨more, hmore⟩ := hpre
    have hlength := hbody'.length_eq hbody (by simpa using hmore)
    simp [hlength]
  | int hc hall =>
    cases r' <;> cases hopening
    · cases h' with | int hc' hall' =>
      exact length_le_of_all hall' hends.1 hpre
    · -- a number with a point would go on behind the digits with a point and a digit
      cases h' with | @float _ d whole part hc' hwhole hd hpart =>
      obtain ⟨more, hmore⟩ := hpre
      rw [List.append_assoc, List.cons_append] at hmore
      obtain ⟨-, hrest⟩ := digits_point_inj hall hwhole hends.1 hmore.symm
      rw [hends.2 d (part ++ more) hrest] at hd
      cases hd
  | @float c d whole part hc hwhole hd hpart =>
    have hpoint : ∀ (more : List Char), ∀ e ∈ ('.' :: more).head?, isDigit e = false := by
      intro more e he
      cases he
      exact not_isDigit_point
    cases r' <;> cases hopening
    · cases h' with | int hc' hall' =>
      rw [List.append_assoc] at hpre
      have hle := length_le_of_all hall' (hpoint _) hpre
      simp
      omega
    · cases h' with | @float _ d' whole' part' hc' hwhole' hd' hpart' =>
      obtain ⟨more, hmore⟩ := hpre
      simp only [List.append_assoc, List.cons_append] at hmore
      obtain ⟨rfl, hrest⟩ := digits_point_inj hwhole' hwhole (hpoint _) hmore
      simp only [List.cons.injEq, true_and] at hrest
      have hle := length_le_of_all hpart' hends ⟨more, hrest.2⟩
      simp
      omega
  | color hall hmin hmax =>
    cases r' <;> cases hopening
    cases h' with | color hall' hmin' hmax' =>
    rcases hends with hnine | hrest
    · simp at hnine
      omega
    · exact length_le_of_all hall' hrest hpre

/-- Two rules that match the same text are the same. -/
theorem Rule.eq_of_matches {r r' : Rule} {text : List Char} (h : r.Matches text)
    (h' : r'.Matches text) : r = r' := by
  obtain ⟨c, cs, rfl⟩ := h.exists_cons
  have hopening : r.opening = r'.opening := h.opening_eq.symm.trans h'.opening_eq
  -- of the rules that open the same way, the second character or a point tells which one it is
  have hcomment : Matches .lineComment (c :: cs) → ¬Matches .blockComment (c :: cs) := by
    rintro ⟨-⟩ h
    cases h
  have hnumber : Matches .int (c :: cs) → ¬Matches .float (c :: cs) := by
    rintro (_ | _ | _ | _ | _ | _ | ⟨-, hall⟩) h
    cases h with | @float _ d whole part =>
    have hpoint := hall '.' (List.mem_append_right whole List.mem_cons_self)
    rw [not_isDigit_point] at hpoint
    cases hpoint
  cases r <;> cases r' <;> cases hopening <;> try rfl
  · exact absurd h' (hcomment h)
  · exact absurd h (hcomment h')
  · exact absurd h' (hnumber h)
  · exact absurd h (hnumber h')

/-! ## What is cut off -/

/-- Some rule takes the piece off the front of a text: the piece is what the rule makes of a text
that it matches, and nothing behind lengthens that. -/
def IsTaken (c : Char) (cs : List Char) (k : Cut) : Prop :=
  ∃ (r : Rule) (text rest : List Char), c :: cs = text ++ rest ∧ r.Matches text ∧
    r.Ends text rest ∧ k = ⟨r.kind text, text.length - 1⟩

/-- No rule matches a beginning of the text. -/
def IsUnmatched (cs : List Char) : Prop := ∀ r text, Rule.Matches r text → ¬text <+: cs

/-- A text splits where the characters of a kind end. -/
theorem exists_split (p : Char → Bool) (cs : List Char) :
    ∃ pre rest, cs = pre ++ rest ∧ cs.takeWhile p = pre ∧ cs.dropWhile p = rest ∧
      (∀ c ∈ pre, p c = true) ∧ ∀ c ∈ rest.head?, p c = false := by
  refine ⟨cs.takeWhile p, cs.dropWhile p, List.takeWhile_append_dropWhile.symm, rfl, rfl,
    List.all_eq_true.1 List.all_takeWhile, fun c hc => ?_⟩
  have hhead := List.head?_dropWhile_not p cs
  rw [Option.mem_def.1 hc] at hhead
  exact hhead

theorem isTaken_cutNumber {c : Char} (hc : isDigit c = true) (cs : List Char) :
    IsTaken c cs (cutNumber c cs) := by
  obtain ⟨whole, rest, hcs, htake, hdrop, hwhole, hrest⟩ := exists_split isDigit cs
  have hint : (∀ d after, rest = '.' :: d :: after → isDigit d = false) →
      IsTaken c cs ⟨intToken (c :: whole), whole.length⟩ := fun hpoint =>
    ⟨.int, c :: whole, rest, by rw [hcs, List.cons_append], .int hc hwhole, ⟨hrest, hpoint⟩, rfl⟩
  rw [cutNumber, htake, hdrop]
  dsimp only
  split
  · rename_i d more
    split
    · rename_i hd
      obtain ⟨part, after, rfl, hpart, -, hall, hafter⟩ := exists_split isDigit more
      refine ⟨.float, c :: (whole ++ '.' :: d :: part), after, ?_, .float hc hwhole hd hall,
        hafter, ?_⟩
      · simp [hcs]
      · have hsplit : (c :: (whole ++ '.' :: d :: part)).takeWhile isDigit = c :: whole ∧
            (c :: (whole ++ '.' :: d :: part)).dropWhile isDigit = '.' :: d :: part :=
          takeWhile_append_rest (List.forall_mem_cons.2 ⟨hc, hwhole⟩) fun e he => by
            cases he
            exact not_isDigit_point
        rw [hpart, Rule.kind, hsplit.1, hsplit.2]
        simp only [List.drop_succ_cons, List.drop_zero, List.length_cons, List.length_append]
        congr 1
        omega
    · rename_i hd
      refine hint fun e after heq => ?_
      cases heq
      simpa using hd
  · rename_i hnone
    exact hint fun d after heq => absurd heq (hnone d after)

/-- Only rules that open as the text does have to be ruled out. -/
theorem isUnmatched_cons {c : Char} {cs : List Char}
    (h : ∀ r text rest, cs = text ++ rest → Rule.opening r = Opening.of c →
      ¬r.Matches (c :: text)) : IsUnmatched (c :: cs) := by
  rintro r text hmatches ⟨rest, hrest⟩
  obtain ⟨d, ds, rfl⟩ := hmatches.exists_cons
  rw [List.cons_append, List.cons.injEq] at hrest
  obtain ⟨rfl, rfl⟩ := hrest
  exact h r ds rest rfl hmatches.opening_eq.symm hmatches

theorem cutString_spec (cs : List Char) :
    IsTaken '"' cs (cutString cs) ∨ IsUnmatched ('"' :: cs) ∧ (cutString cs).kind = .dropped := by
  rw [cutString]
  cases hend : stringEnd cs with
  | closed n =>
    obtain ⟨body, rest, hbody, rfl, rfl⟩ := stringEnd_eq_closed_iff.1 hend
    refine .inl ⟨.string, '"' :: (body ++ ['"']), rest, by simp, .string hbody, trivial, ?_⟩
    simp [Rule.kind]
  | opened n =>
    refine .inr ⟨isUnmatched_cons ?_, rfl⟩
    rintro r text rest rfl hopening h
    cases r <;> cases hopening
    cases h with | @string body hbody =>
    have hclosed := stringEnd_eq_closed_iff.2 ⟨body, rest, hbody, rfl, rfl⟩
    rw [List.append_assoc, List.singleton_append, hclosed] at hend
    cases hend

theorem cutSlash_spec (cs : List Char) :
    IsTaken '/' cs (cutSlash cs) ∨ IsUnmatched ('/' :: cs) ∧ (cutSlash cs).kind = .dropped := by
  fun_cases cutSlash cs with
  | case1 rest =>
    obtain ⟨text, after, hrest, htake, -, htext, hafter⟩ := exists_split (· ≠ '\n') rest
    refine .inl ⟨.lineComment, '/' :: '/' :: text, after, ?_, .lineComment ?_, ?_, ?_⟩
    · rw [hrest, List.cons_append, List.cons_append]
    · simpa using htext
    · simpa [Rule.Ends] using hafter
    · rw [htake, Nat.add_comm]
      rfl
  | case2 rest n hend =>
    obtain ⟨body, after, hbody, rfl, rfl⟩ := blockEnd_eq_some_iff.1 hend
    refine .inl ⟨.blockComment, '/' :: '*' :: (body ++ ['*', '/']), after, by simp,
      .blockComment hbody, trivial, ?_⟩
    simp [Rule.kind, Nat.add_comm]
  | case3 rest hend =>
    refine .inr ⟨isUnmatched_cons ?_, rfl⟩
    rintro r text more htext hopening h
    cases r <;> cases hopening
    · cases h with | lineComment _ =>
      simp at htext
    · cases h with | @blockComment body hbody =>
      have hclosed := blockEnd_eq_some_iff.2 ⟨body, more, hbody, rfl, rfl⟩
      obtain rfl : rest = body ++ '*' :: '/' :: more := by simpa using htext
      rw [hclosed] at hend
      cases hend
  | case4 _ hline hblock =>
    refine .inr ⟨isUnmatched_cons ?_, rfl⟩
    rintro r text more rfl hopening h
    cases r <;> cases hopening
    · cases h with | @lineComment text _ =>
      exact hline (text ++ more) rfl
    · cases h with | @blockComment body _ =>
      exact hblock (body ++ ['*', '/'] ++ more) rfl

theorem cutColor_spec (cs : List Char) :
    IsTaken '#' cs (cutColor '#' cs) ∨
      IsUnmatched ('#' :: cs) ∧ (cutColor '#' cs).kind = .dropped := by
  obtain ⟨digits, rest, rfl, htake, -, hdigits, hrest⟩ := exists_split isHexDigit cs
  rw [cutColor, htake]
  split
  · rename_i hfew
    refine .inr ⟨isUnmatched_cons ?_, rfl⟩
    rintro r text more htext hopening h
    cases r <;> cases hopening
    cases h with | color hall hmin hmax =>
    have hle := length_le_of_all hall hrest ⟨more, htext.symm⟩
    rw [List.length_take] at hfew
    omega
  · rename_i hmany
    refine .inl ⟨.color, '#' :: digits.take 8, digits.drop 8 ++ rest, ?_, .color ?_ ?_ ?_, ?_, rfl⟩
    · rw [List.cons_append, ← List.append_assoc, List.take_append_drop]
    · exact fun d hd => hdigits d (List.mem_of_mem_take hd)
    · omega
    · exact List.length_take_le 8 digits
    · rcases Nat.lt_or_ge digits.length 8 with hlt | hge
      · refine .inr ?_
        rw [List.drop_eq_nil_of_le (Nat.le_of_lt hlt)]
        exact hrest
      · refine .inl ?_
        rw [List.length_cons, List.length_take, Nat.min_eq_left hge]

/-- A piece is what a rule takes off the text, or no rule matches. -/
theorem cut_spec (c : Char) (cs : List Char) :
    IsTaken c cs (cut c cs) ∨ IsUnmatched (c :: cs) ∧ (cut c cs).kind = .dropped := by
  have hall : ∀ {p : Char → Bool} {r : Rule}, (∀ text : List Char, (∀ d ∈ text, p d = true) →
      r.Matches (c :: text)) → (∀ text rest : List Char, (∀ d ∈ rest.head?, p d = false) →
      r.Ends text rest) → IsTaken c cs ⟨r.kind (c :: cs.takeWhile p), (cs.takeWhile p).length⟩ := by
    intro p r hmatches hends
    obtain ⟨text, rest, hcs, htake, -, htext, hrest⟩ := exists_split p cs
    rw [htake]
    exact ⟨r, c :: text, rest, by rw [hcs, List.cons_append], hmatches text htext,
      hends _ rest hrest, rfl⟩
  rw [cut]
  split_ifs with hblank hname hdigit hquote hslash hsign
  · exact .inl (hall (r := .blank) (fun text h => .blank (List.forall_mem_cons.2 ⟨hblank, h⟩))
      fun _ _ h => h)
  · exact .inl (hall (r := .word) (fun text h => .word hname h) fun _ _ h => h)
  · exact .inl (isTaken_cutNumber hdigit cs)
  · subst hquote
    exact cutString_spec cs
  · subst hslash
    exact cutSlash_spec cs
  · subst hsign
    exact cutColor_spec cs
  · cases hmark : Mark.ofChar? c with
    | some m =>
      obtain rfl := Mark.ofChar?_eq_some_iff.1 hmark
      exact .inl ⟨.mark m, [m.char], cs, rfl, .mark m, trivial, rfl⟩
    | none =>
      refine .inr ⟨isUnmatched_cons ?_, rfl⟩
      have hnone : Opening.of c = .none := by
        simp [Opening.of, hblank, hname, hdigit, hquote, hslash, hsign, hmark]
      rintro r text rest - hopening -
      rw [hnone] at hopening
      cases r <;> cases hopening

/-! ## Longest matches and pieces -/

/-- The longest beginning of a text that any rule matches, with the rule. -/
structure IsLongest (cs : List Char) (r : Rule) (text : List Char) : Prop where
  matched : r.Matches text
  begins : text <+: cs
  length_le : ∀ r' text', Rule.Matches r' text' → text' <+: cs → text'.length ≤ text.length

/-- A longest match leaves no choice. -/
theorem IsLongest.eq {cs text text' : List Char} {r r' : Rule} (h : IsLongest cs r text)
    (h' : IsLongest cs r' text') : r = r' ∧ text = text' := by
  have hlength : text.length = text'.length :=
    Nat.le_antisymm (h'.length_le r text h.matched h.begins)
      (h.length_le r' text' h'.matched h'.begins)
  obtain rfl : text = text' :=
    (List.prefix_of_prefix_length_le h.begins h'.begins (Nat.le_of_eq hlength)).eq_of_length hlength
  exact ⟨Rule.eq_of_matches h.matched h'.matched, rfl⟩

/-- A match that nothing lengthens is a longest one. -/
theorem isLongest_of_ends {r : Rule} {text rest : List Char} (h : r.Matches text)
    (hends : r.Ends text rest) : IsLongest (text ++ rest) r text :=
  ⟨h, List.prefix_append text rest, fun _ _ h' hpre => length_le_of_ends h hends h' hpre⟩

/-- A match is longest exactly if nothing behind it lengthens it, and then it is cut off. -/
theorem IsLongest.cut_eq {c : Char} {cs text : List Char} {r : Rule}
    (h : IsLongest (c :: cs) r text) :
    (∃ rest, c :: cs = text ++ rest ∧ r.Ends text rest) ∧
      cut c cs = ⟨r.kind text, text.length - 1⟩ := by
  rcases cut_spec c cs with ⟨r', text', rest, hcs, hmatches, hends, hcut⟩ | ⟨hnone, -⟩
  · obtain ⟨rfl, rfl⟩ := h.eq (hcs ▸ isLongest_of_ends hmatches hends)
    exact ⟨⟨rest, hcs, hends⟩, hcut⟩
  · exact absurd h.begins (hnone r text h.matched)

end SceneFactory.Markup
