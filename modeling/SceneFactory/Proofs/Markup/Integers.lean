import SceneFactory.Proofs.Markup.Denotations
import SceneFactory.Proofs.Markup.Holes
import SceneFactory.Proofs.Markup.Losses

/-!
# Integers in sources

What becomes of the decimal text of an integer where an initializer may stand. Main statement:
`parse_integer`. The digits are cut off as one piece and read without the sign that may stand in
front of them, so the integers that are read are those whose digits alone are in range: all of 64
bits but the least. Of any other the digits are dropped. What is left in its place is a sign alone,
which nothing derives, or nothing at all, which is an error as well unless the closing bracket of a
list comes next: then the list is read without the item.

The text must be set off from what is around it (`IsSetOff`), or it is not the text of that integer:
digits behind digits are one number. Between marks and blank space it is (`isSetOff_decimal`).
-/

set_option autoImplicit false

namespace SceneFactory.Markup

/-! ## The text of an integer -/

/-- The decimal text of an integer, with a sign in front if it is negative. -/
def decimal (z : Int) : List Char :=
  if z < 0 then '-' :: Nat.toDigits 10 z.natAbs else Nat.toDigits 10 z.natAbs

/-- A text between two others is cut off at both of its ends. -/
def IsSetOff (before text after : List Char) : Prop :=
  pieces (before ++ text ++ after) = pieces before ++ pieces text ++ pieces after

theorem lexed_of_isSetOff {before text after : List Char} (h : IsSetOff before text after) :
    lexed (before ++ text ++ after) = lexed before ++ lexed text ++ lexed after := by
  rw [lexed, h, List.filterMap_append, List.filterMap_append]
  rfl

theorem matches_toDigits (n : Nat) : Rule.int.Matches (Nat.toDigits 10 n) := by
  have hdigits : ∀ d ∈ Nat.toDigits 10 n, isDigit d = true := fun d hd =>
    Nat.isDigit_of_mem_toDigits (by decide) (by decide) hd
  cases hcs : Nat.toDigits 10 n with
  | nil => exact absurd hcs Nat.toDigits_ne_nil
  | cons c cs =>
    rw [hcs] at hdigits
    obtain ⟨hc, hall⟩ := List.forall_mem_cons.1 hdigits
    exact .int hc hall

/-- Digits are cut off whole before anything that ends words. -/
theorem pieces_toDigits (n : Nat) {rest : List Char} (h : EndsWords rest) :
    pieces (Nat.toDigits 10 n ++ rest) =
      ⟨if n < 2 ^ 63 then .token (.int (Int64.ofNat n)) else .dropped, Nat.toDigits 10 n⟩ ::
        pieces rest := by
  have hends : Rule.int.Ends (Nat.toDigits 10 n) rest := by
    refine ⟨fun c hc => Bool.eq_false_iff.2 fun hdigit => ?_, ?_⟩
    · exact Bool.eq_false_iff.1 (h c hc).1 (isNameChar_of_isDigit hdigit)
    · rintro d after rfl
      exact absurd rfl (h '.' rfl).2
  have hvalue : natOfDigits (Nat.toDigits 10 n) = n :=
    Nat.ofDigitChars_toDigits (by decide) (by decide)
  rw [(isLongest_of_ends (matches_toDigits n) hends).pieces_eq, Rule.kind, intToken, hvalue]
  simp only [Nat.le_iff_lt_add_one]
  rfl

theorem endsWords_nil : EndsWords [] := nofun

theorem pieces_minus (cs : List Char) :
    pieces ('-' :: cs) = ⟨.token (.mark .minus), ['-']⟩ :: pieces cs := by
  have hlongest : IsLongest (['-'] ++ cs) (.mark .minus) ['-'] :=
    isLongest_of_ends (.mark .minus) trivial
  exact hlongest.pieces_eq

/-- Digits are read as a number if it is in range, and dropped if it is not. -/
theorem lexed_toDigits (n : Nat) :
    lexed (Nat.toDigits 10 n) = if n < 2 ^ 63 then [.int (Int64.ofNat n)] else [] := by
  have hpieces := pieces_toDigits n endsWords_nil
  rw [List.append_nil, pieces] at hpieces
  rw [lexed, hpieces]
  split <;> rfl

/-- The digits of an integer are read by themselves. -/
theorem lexed_decimal (z : Int) :
    lexed (decimal z) = (if z < 0 then [.mark .minus] else []) ++
      if z.natAbs < 2 ^ 63 then [.int (Int64.ofNat z.natAbs)] else [] := by
  have hsign : ∀ cs, lexed ('-' :: cs) = .mark .minus :: lexed cs := fun cs => by
    rw [lexed, pieces_minus]
    rfl
  rw [decimal]
  split
  · rw [hsign, lexed_toDigits]
    rfl
  · rw [lexed_toDigits]
    rfl

/-- The tokens of an integer whose digits are in range denote it. -/
theorem isInitializer_decimal {z : Int} (h : z.natAbs < 2 ^ 63) :
    IsInitializer (lexed (decimal z)) (.literal (.int (Int64.ofInt z))) := by
  rw [lexed_decimal, if_pos h]
  refine .number ?_
  split
  · have hneg : Int64.ofInt z = -Int64.ofNat z.natAbs := by
      rw [← Int64.ofInt_eq_ofNat, Int64.neg_ofInt]
      congr 1
      omega
    rw [hneg]
    exact .negativeInt _
  · have hnat : Int64.ofInt z = Int64.ofNat z.natAbs := by
      rw [← Int64.ofInt_eq_ofNat]
      congr 1
      omega
    rw [hnat]
    exact .int _

/-! ## Being set off -/

/-- A lexical text begins as a rule does. -/
theorem IsLexical.opening_ne {c : Char} {cs : List Char} (h : IsLexical (c :: cs)) :
    Opening.of c ≠ .none := by
  generalize hcs : c :: cs = ds at h
  cases h with
  | nil => cases hcs
  | @cons r _ _ hlongest _ _ =>
    obtain ⟨d, ds, rfl⟩ := hlongest.matched.exists_cons
    obtain rfl : c = d := (List.cons.inj hcs).1
    rw [hlongest.matched.opening_eq]
    cases r <;> nofun

/-- More text behind does not lengthen a match that lexical text follows. -/
theorem Rule.Ends.append {r : Rule} {text more : List Char} (h : r.Ends text more)
    (hmore : IsLexical more) (hne : more ≠ []) (rest : List Char) :
    r.Ends text (more ++ rest) := by
  have hhead : (more ++ rest).head? = more.head? := List.head?_append_of_ne_nil more hne
  cases r with
  | int =>
    refine ⟨hhead ▸ h.1, fun d after hpoint => ?_⟩
    -- no rule reads a point, so none comes behind the digits
    obtain ⟨c, cs, rfl⟩ := List.exists_cons_of_ne_nil hne
    obtain rfl : c = '.' := (List.cons.inj hpoint).1
    exact absurd (by decide) hmore.opening_ne
  | color => exact h.imp_right fun hrest => hhead ▸ hrest
  | blank | lineComment | word | float => exact fun c hc => h c (hhead ▸ hc)
  | blockComment | mark m | string => trivial

theorem IsLongest.ends {r : Rule} {text rest : List Char}
    (h : IsLongest (text ++ rest) r text) : r.Ends text rest := by
  obtain ⟨c, cs, rfl⟩ := h.matched.exists_cons
  obtain ⟨⟨rest', hsplit, hends⟩, -⟩ := h.cut_eq
  have hrest : (c :: cs) ++ rest = (c :: cs) ++ rest' := hsplit
  rw [List.append_cancel_left hrest]
  exact hends

/-- Only blank space lengthens blank space, and nothing lengthens a mark. -/
theorem Rule.ends_of_kind {r : Rule} {text rest : List Char}
    (hkind : r.kind text = .blank ∨ ∃ m, r.kind text = .token (.mark m))
    (hrest : ∀ c ∈ rest.head?, isBlank c = false) : r.Ends text rest := by
  cases r with
  | blank => exact hrest
  | mark m | string | blockComment => trivial
  | lineComment | float | color => rcases hkind with h | ⟨m, h⟩ <;> cases h
  | word =>
    simp only [kind, wordToken] at hkind
    split at hkind <;> simp at hkind
  | int =>
    simp only [kind, intToken] at hkind
    split at hkind <;> simp at hkind

/-- A lexical text is cut off at its end if a mark or blank space ends it and no blank space
follows. -/
theorem pieces_append {text rest : List Char} {last : Piece} (h : IsLexical text)
    (hlast : (pieces text).getLast? = some last)
    (hkind : last.kind = .blank ∨ ∃ m, last.kind = .token (.mark m))
    (hrest : ∀ c ∈ rest.head?, isBlank c = false) :
    pieces (text ++ rest) = pieces text ++ pieces rest := by
  induction h with
  | nil => simp [pieces] at hlast
  | @cons r text more hlongest hdropped hmore ih =>
    rw [hlongest.pieces_eq] at hlast ⊢
    rw [List.append_assoc]
    cases more with
    | nil =>
      -- only the last piece has the other text right behind it
      rw [pieces, List.getLast?_singleton, Option.some.injEq] at hlast
      rw [← hlast] at hkind
      have hends := Rule.ends_of_kind hkind hrest
      rw [List.nil_append, (isLongest_of_ends hlongest.matched hends).pieces_eq, pieces]
      rfl
    | cons c cs =>
      have hends := hlongest.ends.append hmore (List.cons_ne_nil c cs) rest
      rw [pieces, List.getLast?_cons_cons, ← pieces] at hlast
      rw [(isLongest_of_ends hlongest.matched hends).pieces_eq, ih hlast]
      rfl

/-- An integer is set off between marks and blank space. -/
theorem isSetOff_decimal {before after : List Char} {last : Piece} (z : Int)
    (hbefore : IsLexical before) (hlast : (pieces before).getLast? = some last)
    (hkind : last.kind = .blank ∨ ∃ m, last.kind = .token (.mark m)) (hafter : EndsWords after) :
    IsSetOff before (decimal z) after := by
  have hdigits := pieces_toDigits z.natAbs endsWords_nil
  rw [List.append_nil, pieces] at hdigits
  have hcut : pieces (decimal z ++ after) = pieces (decimal z) ++ pieces after := by
    rw [decimal]
    split
    · rw [List.cons_append, pieces_minus, pieces_minus, pieces_toDigits _ hafter, hdigits]
      rfl
    · rw [pieces_toDigits _ hafter, hdigits]
      rfl
  have hhead : ∀ c ∈ (decimal z ++ after).head?, isBlank c = false := by
    intro c hc
    rw [decimal] at hc
    split at hc
    · cases hc
      decide
    · obtain ⟨d, ds, hds⟩ := (matches_toDigits z.natAbs).exists_cons
      have hd : d ∈ Nat.toDigits 10 z.natAbs := hds ▸ List.mem_cons_self
      rw [hds] at hc
      cases hc
      exact not_isBlank_of_isNameChar
        (isNameChar_of_isDigit (Nat.isDigit_of_mem_toDigits (by decide) (by decide) hd))
  rw [IsSetOff, List.append_assoc, pieces_append hbefore hlast hkind hhead, hcut,
    List.append_assoc]

/-! ## Integer tokens -/

/-- An integer token has no sign, so it may be negated. -/
theorem toInt_neg_of_mem_lexed {cs : List Char} {n : Int64} (h : .int n ∈ lexed cs) :
    0 ≤ n.toInt ∧ (-n).toInt = -n.toInt := by
  have hnonneg : 0 ≤ n.toInt := by
    induction cs using text_induction with
    | nil => simp at h
    | taken r text rest hmatches hends hkind ih =>
      rw [lexed, (isLongest_of_ends hmatches hends).pieces_eq, List.filterMap_cons] at h
      cases hr : r.kind text with
      | token t =>
        rw [hr] at h
        rcases List.mem_cons.1 h with rfl | hrest
        · cases hmatches.denotes hr with
          | int _ hn =>
            rw [hn]
            exact Int.natCast_nonneg _
        · exact ih hrest
      | _ =>
        rw [hr] at h
        exact ih h
    | dropped text rest hpieces ih =>
      rw [lexed, hpieces, List.filterMap_cons] at h
      exact ih h
  refine ⟨hnonneg, ?_⟩
  have hlt := n.toInt_lt
  rw [Int64.toInt_neg, Int.bmod_eq_of_le (by omega) (by omega)]

/-! ## Sources -/

/-- What a source declares is what its tokens derive. -/
theorem exists_parse_iff (source : String) (d : Declaration) :
    (∃ c, parse source = .ok c ∧ c.declaration = d) ↔ IsComponent (lexed source.toList) d := by
  rw [← tokens_lexemes]
  constructor
  · rintro ⟨c, hc, rfl⟩
    exact isComponent_of_readComponent ((parse_eq_ok_iff source c).1 hc)
  · intro h
    obtain ⟨c, hc, hd⟩ := readComponent_of_isComponent h
    exact ⟨c, (parse_eq_ok_iff source c).2 hc, hd⟩

/-- A source that declares nothing is an error. -/
theorem exists_error_of_not_isComponent {source : String}
    (h : ∀ d, ¬IsComponent (lexed source.toList) d) : ∃ e, parse source = .error e := by
  cases hparse : parse source with
  | error e => exact ⟨e, rfl⟩
  | ok c => exact absurd ((exists_parse_iff source _).1 ⟨c, hparse, rfl⟩) (h c.declaration)

section

variable {z : Int} {source : String} {before after : List Char} {hole : Hole}

theorem parse_of_in_range (hhole : IsHole (lexed before) hole (lexed after))
    (hset : IsSetOff before (decimal z) after)
    (hsource : source.toList = before ++ decimal z ++ after) (hz : z.natAbs < 2 ^ 63) :
    ∃ c, parse source = .ok c ∧
      c.declaration = hole.fill (.literal (.int (Int64.ofInt z))) := by
  rw [exists_parse_iff, hsource, lexed_of_isSetOff hset]
  exact hhole.isComponent (isInitializer_decimal hz)

theorem parse_of_below (hhole : IsHole (lexed before) hole (lexed after))
    (hset : IsSetOff before (decimal z) after)
    (hsource : source.toList = before ++ decimal z ++ after) (hz : z ≤ -2 ^ 63) :
    ∃ e, parse source = .error e := by
  have htokens : lexed (decimal z) = [.mark .minus] := by
    rw [lexed_decimal, if_pos (by omega), if_neg (by omega)]
    rfl
  refine exists_error_of_not_isComponent fun d => ?_
  rw [hsource, lexed_of_isSetOff hset, htokens]
  exact hhole.not_isComponent_sign d

theorem parse_of_above (hhole : IsHole (lexed before) hole (lexed after))
    (hset : IsSetOff before (decimal z) after)
    (hsource : source.toList = before ++ decimal z ++ after) (hz : 2 ^ 63 ≤ z) (d : Declaration) :
    (∃ c, parse source = .ok c ∧ c.declaration = d) ↔
      (lexed after).head? = some (.mark .bracketClose) ∧ hole.close? = some d := by
  have htokens : lexed (decimal z) = [] := by
    rw [lexed_decimal, if_neg (by omega), if_neg (by omega)]
    rfl
  rw [exists_parse_iff, hsource, lexed_of_isSetOff hset, htokens, List.append_nil]
  exact hhole.isComponent_close_iff

/-- When a source with an integer in it is read. -/
theorem exists_parse_integer_iff (hhole : IsHole (lexed before) hole (lexed after))
    (hset : IsSetOff before (decimal z) after)
    (hsource : source.toList = before ++ decimal z ++ after) :
    (∃ c, parse source = .ok c) ↔ z.natAbs < 2 ^ 63 ∨
      2 ^ 63 ≤ z ∧ (lexed after).head? = some (.mark .bracketClose) := by
  constructor
  · rintro ⟨c, hc⟩
    obtain hz | hz | hz : z ≤ -2 ^ 63 ∨ z.natAbs < 2 ^ 63 ∨ 2 ^ 63 ≤ z := by omega
    · obtain ⟨e, he⟩ := parse_of_below hhole hset hsource hz
      cases he.symm.trans hc
    · exact .inl hz
    · have hclosed := (parse_of_above hhole hset hsource hz _).1 ⟨c, hc, rfl⟩
      exact .inr ⟨hz, hclosed.1⟩
  · rintro (hz | ⟨hz, hclose⟩)
    · obtain ⟨c, hc, -⟩ := parse_of_in_range hhole hset hsource hz
      exact ⟨c, hc⟩
    · obtain ⟨d, hd⟩ := hhole.exists_close? hclose
      obtain ⟨c, hc, -⟩ := (parse_of_above hhole hset hsource hz d).2 ⟨hclose, hd⟩
      exact ⟨c, hc⟩

end

/-- Integers are read exactly, but for the least and those that are dropped. For every integer
and every place where an initializer may stand, the decimal text of the integer there set off from
what is around it:

* if it is in range without its sign, the source is read, the initializer there is the integer and
  all else is as around the hole;
* if it is below, the least of 64 bits included, there is an error;
* if it is above, the source is read exactly if the closing bracket of a list comes next, and then
  the list is the one without the item;
* so the source is read exactly for the integers of 64 bits, unless the integer is the least of them
  or is above them at the end of a list;
* no integer token of the source has a sign, so negating one never overflows. -/
theorem parse_integer (z : Int) (source : String) {before after : List Char} {hole : Hole}
    (hsource : source.toList = before ++ decimal z ++ after)
    (hset : IsSetOff before (decimal z) after)
    (hhole : IsHole (lexed before) hole (lexed after)) :
    (-2 ^ 63 < z → z < 2 ^ 63 → (Int64.ofInt z).toInt = z ∧
        ∃ c, parse source = .ok c ∧
          c.declaration = hole.fill (.literal (.int (Int64.ofInt z)))) ∧
      (z ≤ -2 ^ 63 → ∃ e, parse source = .error e) ∧
      (2 ^ 63 ≤ z → ∀ d, (∃ c, parse source = .ok c ∧ c.declaration = d) ↔
        (lexed after).head? = some (.mark .bracketClose) ∧ hole.close? = some d) ∧
      (((∃ c, parse source = .ok c) ↔ -2 ^ 63 ≤ z ∧ z < 2 ^ 63) ↔
        z ≠ -2 ^ 63 ∧ ¬(2 ^ 63 ≤ z ∧ (lexed after).head? = some (.mark .bracketClose))) ∧
      ∀ n, .int n ∈ tokens (lexemes source) → 0 ≤ n.toInt ∧ (-n).toInt = -n.toInt := by
  refine ⟨?_, parse_of_below hhole hset hsource, parse_of_above hhole hset hsource, ?_, ?_⟩
  · intro hlow hhigh
    exact ⟨Int64.toInt_ofInt_of_le (by omega) hhigh,
      parse_of_in_range hhole hset hsource (by omega)⟩
  · rw [exists_parse_integer_iff hhole hset hsource]
    by_cases hclose : (lexed after).head? = some (.mark .bracketClose)
    · simp only [hclose, and_true]
      omega
    · simp only [hclose, and_false, or_false, not_false_eq_true, and_true]
      omega
  · intro n hn
    rw [tokens_lexemes] at hn
    exact toInt_neg_of_mem_lexed hn

/-- The least integer that can be written, in the middle of a list: it is read, and so is all
around it. -/
theorem parse_integer_in_list :
    ∃ c, parse "item A \x7b property a: [1, -9223372036854775807, x] property b: 2 \x7d" = .ok c ∧
      c.declaration = ⟨.item, "A", [
        ⟨"a", false, some (.list [.literal (.int 1), .literal (.int (-9223372036854775807)),
          .name "x"])⟩,
        ⟨"b", false, some (.literal (.int 2))⟩]⟩ := by
  have hhole : IsHole (lexed "item A \x7b property a: [1, ".toList)
      ⟨.item, "A", [], "a", false, [⟨[.literal (.int 1)], [.name "x"]⟩],
        [⟨"b", false, some (.literal (.int 2))⟩]⟩
      (lexed ", x] property b: 2 \x7d".toList) := by
    have hbefore : lexed "item A \x7b property a: [1, ".toList =
        [Token.keyword .item, Token.ident "A", Token.mark .braceOpen] ++ propertyHead false "a" ++
          ([Token.mark .colon] ++ ([Token.mark .bracketOpen] ++
            ([Token.int 1] ++ [Token.mark .comma]))) := by
      decide +kernel
    have hbehind : lexed ", x] property b: 2 \x7d".toList =
        [Token.mark .comma, Token.ident "x"] ++ [Token.mark .bracketClose] ++
          ((propertyHead false "b" ++ [Token.mark .colon, Token.int 2]) ++ [] ++
            [Token.mark .braceClose]) := by
      decide +kernel
    rw [hbefore, hbehind]
    have hitem : IsBehind (.mark .comma :: [.ident "x"]) [.name "x"] :=
      .comma (.some (.one (.name "x")))
    have hproperty := isProperty_head (.some (.number (.int 2))) false "b"
    exact .mk .item "A" "a" false .nil (.item (.cons (.number (.int 1)) .nil) hitem .here)
      (.cons hproperty .nil)
  have hset : IsSetOff "item A \x7b property a: [1, ".toList (decimal (-9223372036854775807))
      ", x] property b: 2 \x7d".toList := by
    have hlexical : IsLexical "item A \x7b property a: [1, ".toList := by
      rw [isLexical_iff]
      decide +kernel
    have hlast : (pieces "item A \x7b property a: [1, ".toList).getLast? =
        some ⟨.blank, [' ']⟩ := by
      decide +kernel
    refine isSetOff_decimal _ hlexical hlast (.inl rfl) fun c hc => ?_
    cases hc
    decide
  have hsource : "item A \x7b property a: [1, -9223372036854775807, x] property b: 2 \x7d".toList =
      "item A \x7b property a: [1, ".toList ++ decimal (-9223372036854775807) ++
        ", x] property b: 2 \x7d".toList := by
    decide +kernel
  exact ((parse_integer _ _ hsource hset hhole).1 (by decide) (by decide)).2

/-- The least integer of 64 bits is an error, and a list may lose an integer that is too large. -/
theorem parse_least_integer :
    parse "item A \x7b property a: -9223372036854775808 \x7d" =
        .error ⟨⟨42, 43⟩, some (.mark .braceClose), []⟩ ∧
      parse "item A \x7b property a: [9223372036854775808] \x7d" =
        .ok ⟨.item, ⟨"A", ⟨5, 6⟩⟩,
          [⟨⟨⟨"a", ⟨18, 19⟩⟩, false, some ⟨.list [], ⟨21, 42⟩⟩⟩, ⟨9, 42⟩⟩]⟩ := by
  have hleast : lexemes "item A \x7b property a: -9223372036854775808 \x7d" =
      [⟨.keyword .item, ⟨0, 4⟩⟩, ⟨.ident "A", ⟨5, 6⟩⟩, ⟨.mark .braceOpen, ⟨7, 8⟩⟩,
        ⟨.keyword .property, ⟨9, 17⟩⟩, ⟨.ident "a", ⟨18, 19⟩⟩, ⟨.mark .colon, ⟨19, 20⟩⟩,
        ⟨.mark .minus, ⟨21, 22⟩⟩, ⟨.mark .braceClose, ⟨42, 43⟩⟩] := by
    decide +kernel
  have hlist : lexemes "item A \x7b property a: [9223372036854775808] \x7d" =
      [⟨.keyword .item, ⟨0, 4⟩⟩, ⟨.ident "A", ⟨5, 6⟩⟩, ⟨.mark .braceOpen, ⟨7, 8⟩⟩,
        ⟨.keyword .property, ⟨9, 17⟩⟩, ⟨.ident "a", ⟨18, 19⟩⟩, ⟨.mark .colon, ⟨19, 20⟩⟩,
        ⟨.mark .bracketOpen, ⟨21, 22⟩⟩, ⟨.mark .bracketClose, ⟨41, 42⟩⟩,
        ⟨.mark .braceClose, ⟨43, 44⟩⟩] := by
    decide +kernel
  constructor
  · rw [parse, hleast]
    cbv
  · rw [parse, hlist]
    cbv

end SceneFactory.Markup
