import SceneFactory.Proofs.Markup.Rules
import SceneFactory.Proofs.Number.Rounding

/-!
# What the text of a token denotes

Each token is written in texts of its own kind (`Denotes`): a keyword and a mark as they are
spelled, a name and a color as themselves, a string between quotes with escapes, a number in
decimal digits. This is said without the functions that read strings, words and numbers.

Main statement: `Rule.Matches.denotes_iff`. A text that a rule matches denotes what the rule makes
of it and nothing else, and some rule matches every text that denotes a token
(`Denotes.exists_rule`).
So a text denotes one token at most (`Denotes.unique`), and a word denotes a keyword iff it is
spelled as the keyword is (`denotes_word`).
-/

set_option autoImplicit false

namespace SceneFactory.Markup

/-! ## Escapes -/

/-- What stands between the quotes of a string, and the text that is meant by it: an escaped `n` is
a line feed and an escaped `t` a tab, and any other character is itself, escaped or not. -/
inductive IsEscaped : List Char → List Char → Prop where
  | nil : IsEscaped [] []
  | char {c : Char} {body text : List Char} (hquote : c ≠ '"') (hescape : c ≠ '\\')
      (h : IsEscaped body text) : IsEscaped (c :: body) (c :: text)
  | lineFeed {body text : List Char} (h : IsEscaped body text) :
      IsEscaped ('\\' :: 'n' :: body) ('\n' :: text)
  | tab {body text : List Char} (h : IsEscaped body text) :
      IsEscaped ('\\' :: 't' :: body) ('\t' :: text)
  | itself {c : Char} {body text : List Char} (hfeed : c ≠ '\n') (hn : c ≠ 'n') (ht : c ≠ 't')
      (h : IsEscaped body text) : IsEscaped ('\\' :: c :: body) (c :: text)

theorem IsEscaped.isStringBody {body text : List Char} (h : IsEscaped body text) :
    IsStringBody body := by
  induction h with
  | nil => exact .nil
  | char hquote hescape _ ih => exact .char hquote hescape ih
  | lineFeed _ ih => exact .escape (by decide) ih
  | tab _ ih => exact .escape (by decide) ih
  | itself hfeed _ _ _ ih => exact .escape hfeed ih

theorem IsEscaped.unescape_eq {body text : List Char} (h : IsEscaped body text) :
    unescape body = text := by
  induction h with
  | nil => rfl
  | char hquote hescape _ ih =>
    rw [unescape, ih]
    all_goals simp [hescape]
  | lineFeed _ ih => rw [unescape, ih]
  | tab _ ih => rw [unescape, ih]
  | itself hfeed hn ht _ ih =>
    rw [unescape, ih]
    · simpa using hn
    · simpa using ht

/-- All that a string may hold between its quotes means something. -/
theorem IsStringBody.isEscaped {body : List Char} (h : IsStringBody body) :
    IsEscaped body (unescape body) := by
  suffices hsome : ∃ text, IsEscaped body text by
    obtain ⟨text, htext⟩ := hsome
    rw [htext.unescape_eq]
    exact htext
  induction h with
  | nil => exact ⟨[], .nil⟩
  | char hquote hescape _ ih =>
    obtain ⟨text, htext⟩ := ih
    exact ⟨_, .char hquote hescape htext⟩
  | @escape c _ hfeed _ ih =>
    obtain ⟨text, htext⟩ := ih
    by_cases hn : c = 'n'
    · subst hn
      exact ⟨_, .lineFeed htext⟩
    by_cases ht : c = 't'
    · subst ht
      exact ⟨_, .tab htext⟩
    exact ⟨_, .itself hfeed hn ht htext⟩

/-! ## Tokens -/

/-- Some decimal digits and nothing else. -/
structure IsNumeral (digits : List Char) : Prop where
  ne_nil : digits ≠ []
  isDigit : ∀ d ∈ digits, isDigit d = true

/-- A text denotes a token. A number with a point denotes the floating-point number that is nearest
to it. -/
inductive Denotes : List Char → Token → Prop where
  | keyword (k : Keyword) : Denotes k.spelling.toList (.keyword k)
  | mark (m : Mark) : Denotes [m.char] (.mark m)
  | ident {name : String} (h : IsName name) : Denotes name.toList (.ident name)
  | string {body text : List Char} (h : IsEscaped body text) :
      Denotes ('"' :: (body ++ ['"'])) (.string (String.ofList text))
  | int {digits : List Char} {n : Int64} (h : IsNumeral digits)
      (hn : n.toInt = Nat.ofDigitChars 10 digits 0) : Denotes digits (.int n)
  | float {whole part : List Char} {x : Binary64} (hwhole : IsNumeral whole)
      (hpart : IsNumeral part)
      (hx : x.IsNearest (Nat.ofDigitChars 10 (whole ++ part) 0 / 10 ^ part.length)) :
      Denotes (whole ++ '.' :: part) (.float x)
  | color {digits : List Char} (h : ∀ d ∈ digits, isHexDigit d = true) (hmin : 3 ≤ digits.length)
      (hmax : digits.length ≤ 8) : Denotes ('#' :: digits) (.color (String.ofList ('#' :: digits)))

/-- The rule for words matches words. -/
theorem matches_word_iff {word : String} : Rule.word.Matches word.toList ↔ IsWord word := by
  constructor
  · intro h
    generalize hcs : word.toList = cs at h
    cases h with
    | @word c cs hc hall =>
      refine ⟨by simpa [hcs] using hc, ?_⟩
      have hletter : isNameChar c = true := by simp [isNameChar, hc]
      simpa [hcs, hletter] using hall
  · intro h
    obtain ⟨c, hc, hstart⟩ := (Option.any_eq_true _ _).1 h.start
    obtain ⟨cs, hword⟩ := List.head?_eq_some_iff.1 hc
    have hletters := List.all_eq_true.1 h.letters
    rw [hword] at hletters ⊢
    exact .word hstart fun d hd => hletters d (List.mem_cons_of_mem c hd)

/-- The rule for integers matches numerals. -/
theorem matches_int_iff {digits : List Char} : Rule.int.Matches digits ↔ IsNumeral digits := by
  constructor
  · intro h
    cases h with
    | int hc hall => exact ⟨List.cons_ne_nil _ _, List.forall_mem_cons.2 ⟨hc, hall⟩⟩
  · rintro ⟨hne, hall⟩
    obtain ⟨c, cs, rfl⟩ := List.exists_cons_of_ne_nil hne
    obtain ⟨hc, hcs⟩ := List.forall_mem_cons.1 hall
    exact .int hc hcs

/-- An integer token is the value of its digits, and there is one iff it is in range. -/
theorem intToken_eq_iff {digits : List Char} {n : Int64} :
    intToken digits = .token (.int n) ↔ n.toInt = Nat.ofDigitChars 10 digits 0 := by
  have hvalue : natOfDigits digits = Nat.ofDigitChars 10 digits 0 := rfl
  have hlt := n.toInt_lt
  rw [intToken, hvalue]
  split
  · rename_i hle
    have hofNat := Int64.toInt_ofNat_of_lt (Nat.lt_of_le_of_lt hle (by decide))
    rw [PieceKind.token.injEq, Token.int.injEq, ← Int64.toInt_inj, hofNat, eq_comm]
  · refine iff_of_false (by simp) ?_
    omega

/-- A decimal token is the number nearest to what its digits spell, with as many places behind
the point as there are digits. -/
theorem floatToken_eq_iff {whole part : List Char} {x : Binary64} :
    floatToken whole part = .token (.float x) ↔
      x.IsNearest (Nat.ofDigitChars 10 (whole ++ part) 0 / 10 ^ part.length) := by
  have hvalue : natOfDigits (whole ++ part) = Nat.ofDigitChars 10 (whole ++ part) 0 := rfl
  have hnearest := Binary64.ofDecimal_isNearest (natOfDigits (whole ++ part)) (-part.length)
  rw [zpow_neg, zpow_natCast, ← div_eq_mul_inv, hvalue] at hnearest
  rw [floatToken, PieceKind.token.injEq, Token.float.injEq]
  constructor
  · rintro rfl
    exact hnearest
  · exact hnearest.unique

/-- A numeral, a point and a numeral are told apart again. -/
theorem split_at_point {whole : List Char} (h : IsNumeral whole) (part : List Char) :
    (whole ++ '.' :: part).takeWhile isDigit = whole ∧
      (whole ++ '.' :: part).dropWhile isDigit = '.' :: part := by
  apply takeWhile_append_rest h.isDigit
  intro c hc
  cases hc
  exact not_isDigit_point

/-- What a text denotes, some rule makes of it. -/
theorem Denotes.exists_rule {text : List Char} {t : Token} (h : Denotes text t) :
    ∃ r : Rule, r.Matches text ∧ r.kind text = .token t := by
  cases h with
  | keyword k =>
    refine ⟨.word, matches_word_iff.2 k.isWord, ?_⟩
    rw [Rule.kind, String.ofList_toList, wordToken, k.ofSpelling?_spelling]
  | mark m => exact ⟨.mark m, .mark m, rfl⟩
  | @ident name h =>
    refine ⟨.word, matches_word_iff.2 h.toIsWord, ?_⟩
    rw [Rule.kind, String.ofList_toList, h.wordToken]
  | string h =>
    refine ⟨.string, .string h.isStringBody, ?_⟩
    simp [Rule.kind, h.unescape_eq]
  | int h hn => exact ⟨.int, matches_int_iff.2 h, intToken_eq_iff.2 hn⟩
  | @float whole part x hwhole hpart hx =>
    obtain ⟨c, cs, rfl⟩ := List.exists_cons_of_ne_nil hwhole.ne_nil
    obtain ⟨d, ds, rfl⟩ := List.exists_cons_of_ne_nil hpart.ne_nil
    obtain ⟨hc, hcs⟩ := List.forall_mem_cons.1 hwhole.isDigit
    obtain ⟨hd, hds⟩ := List.forall_mem_cons.1 hpart.isDigit
    obtain ⟨htake, hdrop⟩ := split_at_point hwhole (d :: ds)
    refine ⟨.float, .float hc hcs hd hds, ?_⟩
    rw [Rule.kind, htake, hdrop]
    exact floatToken_eq_iff.2 hx
  | color h hmin hmax => exact ⟨.color, .color h hmin hmax, rfl⟩

/-- What a rule makes of a text, the text denotes. -/
theorem Rule.Matches.denotes {r : Rule} {text : List Char} {t : Token} (h : r.Matches text)
    (hkind : r.kind text = .token t) : Denotes text t := by
  cases h with
  | blank | lineComment | blockComment => cases hkind
  | mark m =>
    cases hkind
    exact .mark m
  | @word c cs hc hall =>
    obtain ⟨word, hword⟩ : ∃ word : String, word.toList = c :: cs :=
      ⟨String.ofList (c :: cs), String.toList_ofList⟩
    have hmatches : Matches .word word.toList := hword ▸ .word hc hall
    rw [← hword, kind, String.ofList_toList, wordToken] at hkind
    rw [← hword]
    split at hkind
    · rename_i k hk
      cases hkind
      rw [← Keyword.ofSpelling?_eq_some_iff.1 hk]
      exact .keyword k
    · rename_i hnone
      cases hkind
      refine .ident ⟨matches_word_iff.1 hmatches, fun k _ hk => ?_⟩
      rw [Keyword.ofSpelling?_eq_some_iff.2 hk] at hnone
      cases hnone
  | string h =>
    cases hkind
    simpa using Denotes.string h.isEscaped
  | int hc hall =>
    have hnumeral := matches_int_iff.1 (.int hc hall)
    rw [kind] at hkind
    obtain ⟨n, rfl⟩ : ∃ n, t = .int n := by
      rw [intToken] at hkind
      split at hkind
      · exact ⟨_, (PieceKind.token.inj hkind).symm⟩
      · cases hkind
    exact .int hnumeral (intToken_eq_iff.1 hkind)
  | @float c d cs ds hc hcs hd hds =>
    have hwhole : IsNumeral (c :: cs) :=
      ⟨List.cons_ne_nil c cs, List.forall_mem_cons.2 ⟨hc, hcs⟩⟩
    have hpart : IsNumeral (d :: ds) :=
      ⟨List.cons_ne_nil d ds, List.forall_mem_cons.2 ⟨hd, hds⟩⟩
    obtain ⟨htake, hdrop⟩ := split_at_point hwhole (d :: ds)
    rw [kind, ← List.cons_append, htake, hdrop] at hkind
    obtain ⟨x, rfl⟩ : ∃ x, t = .float x := ⟨_, (PieceKind.token.inj hkind).symm⟩
    exact .float hwhole hpart (floatToken_eq_iff.1 hkind)
  | color h hmin hmax =>
    cases hkind
    exact .color h hmin hmax

/-- A text that a rule matches denotes what the rule makes of it, and nothing else. -/
theorem Rule.Matches.denotes_iff {r : Rule} {text : List Char} {t : Token} (h : r.Matches text) :
    Denotes text t ↔ r.kind text = .token t := by
  constructor
  · intro hdenotes
    obtain ⟨r', h', hkind⟩ := hdenotes.exists_rule
    rw [Rule.eq_of_matches h h']
    exact hkind
  · exact h.denotes

/-- A text denotes one token at most. -/
theorem Denotes.unique {text : List Char} {t u : Token} (h : Denotes text t)
    (h' : Denotes text u) : t = u := by
  obtain ⟨r, hmatches, hkind⟩ := h.exists_rule
  have hkind' := hmatches.denotes_iff.1 h'
  rw [hkind] at hkind'
  exact PieceKind.token.inj hkind'

/-- A word denotes a keyword iff it is spelled as the keyword, and is a name otherwise. -/
theorem denotes_word {word : String} (h : IsWord word) {t : Token} (ht : Denotes word.toList t) :
    (∀ k, t = .keyword k ↔ word = k.spelling) ∧
      ((∀ k : Keyword, word ≠ k.spelling) → t = .ident word) := by
  refine ⟨fun k => ⟨?_, ?_⟩, fun hnone => ?_⟩
  · rintro rfl
    generalize hcs : word.toList = text at ht
    cases ht
    exact String.toList_inj.1 hcs
  · rintro rfl
    exact ht.unique (.keyword k)
  · exact ht.unique (.ident ⟨h, fun k _ heq => hnone k heq.symm⟩)

end SceneFactory.Markup
