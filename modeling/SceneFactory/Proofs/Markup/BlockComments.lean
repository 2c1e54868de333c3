import Mathlib.Algebra.Group.Nat.Even
import SceneFactory.Proofs.Markup.Rules

/-!
# Where block comments end

From an asterisk on a block comment is read two characters at a time, so an asterisk that comes
second is never looked at as the first character of an end. Whether a comment ends at the first
end that is written in it therefore depends on the asterisks in front of that end: it does iff
their number is even (`isBlockBody_iff`). If it is odd, all that was written up to there counts
for no more than the opening of the comment (`lexemesFrom_comment_append`), and the comment goes
on in what follows.

Main statement: `lexemes_behind_comment`, on the tokens behind a comment of either sort.
-/

set_option autoImplicit false

namespace SceneFactory.Markup

/-! ## Tokens moved -/

/-- A token so many bytes further on. -/
def shifted (n : Nat) (t : Lexeme) : Lexeme := ⟨t.node, ⟨t.span.start + n, t.span.stop + n⟩⟩

/-- Tokens of pieces that begin further on are the same tokens further on. -/
theorem lexemesFrom_add (offset n : Nat) (ps : List Piece) :
    lexemesFrom (offset + n) ps = (lexemesFrom offset ps).map (shifted n) := by
  induction ps generalizing offset with
  | nil => rfl
  | cons p ps ih =>
    have hrest : lexemesFrom (offset + n + byteLength p.text) ps =
        (lexemesFrom (offset + byteLength p.text) ps).map (shifted n) := by
      rw [Nat.add_right_comm]
      exact ih (offset + byteLength p.text)
    rw [lexemesFrom, lexemesFrom]
    cases p.kind with
    | token t =>
      dsimp only
      rw [hrest, List.map_cons, shifted, Nat.add_right_comm]
    | _ => exact hrest

theorem shifted_injective (n : Nat) : Function.Injective (shifted n) := by
  rintro ⟨t, start, stop⟩ ⟨u, start', stop'⟩ h
  simp only [shifted, Located.mk.injEq, Span.mk.injEq] at h
  obtain ⟨rfl, hstart, hstop⟩ := h
  rw [Nat.add_right_cancel hstart, Nat.add_right_cancel hstop]

theorem shifted_shifted (m n : Nat) (t : Lexeme) : shifted m (shifted n t) = shifted (n + m) t := by
  simp only [shifted, Nat.add_assoc]

/-! ## Asterisks at the end of a text -/

/-- The number of asterisks that a text ends in. -/
def closingStars (cs : List Char) : Nat := (cs.reverse.takeWhile (· = '*')).length

theorem closingStars_le (cs : List Char) : closingStars cs ≤ cs.length := by
  have h := (List.takeWhile_prefix (l := cs.reverse) (· = '*')).length_le
  rwa [List.length_reverse] at h

/-- One more asterisk at the end. -/
theorem closingStars_concat_star (cs : List Char) :
    closingStars (cs ++ ['*']) = closingStars cs + 1 := by
  rw [closingStars, List.reverse_append]
  rfl

theorem closingStars_concat_of_ne (cs : List Char) {c : Char} (h : c ≠ '*') :
    closingStars (cs ++ [c]) = 0 := by
  rw [closingStars, List.reverse_append]
  simp [h]

/-- A character in front counts only as an asterisk before nothing but asterisks. -/
theorem closingStars_cons (c : Char) (cs : List Char) :
    closingStars (c :: cs) =
      if closingStars cs = cs.length ∧ c = '*' then cs.length + 1 else closingStars cs := by
  rw [closingStars, List.reverse_cons, List.takeWhile_append, List.length_reverse,
    show (List.takeWhile (· = '*') cs.reverse).length = closingStars cs from rfl]
  by_cases hall : closingStars cs = cs.length
  · by_cases hc : c = '*' <;> simp [hall, hc]
  · rw [if_neg hall, if_neg fun h => hall h.1]
    rfl

/-- An asterisk and the character behind it change nothing about the number of closing asterisks
being even. -/
theorem even_closingStars_star_cons (c : Char) (cs : List Char) :
    Even (closingStars ('*' :: c :: cs)) ↔ Even (closingStars cs) := by
  have hle := closingStars_le cs
  by_cases hall : closingStars cs = cs.length ∧ c = '*'
  · -- nothing but asterisks: there are two more of them
    have hone : closingStars (c :: cs) = cs.length + 1 := by rw [closingStars_cons, if_pos hall]
    rw [closingStars_cons, if_pos ⟨hone, rfl⟩, List.length_cons, hall.1, Nat.even_add_one,
      Nat.even_add_one, not_not]
  · have hone : closingStars (c :: cs) = closingStars cs := by
      rw [closingStars_cons, if_neg hall]
    rw [closingStars_cons, if_neg, hone]
    rw [hone, List.length_cons]
    omega

/-! ## Bodies of block comments -/

theorem IsBlockBody.append {cs ds : List Char} (h : IsBlockBody cs) (hds : IsBlockBody ds) :
    IsBlockBody (cs ++ ds) := by
  induction h with
  | nil => exact hds
  | char hc _ ih => exact .char hc ih
  | star hc _ ih => exact .star hc ih

/-- Of the texts without an end of a comment, those are read as a body that end in an even
number of asterisks. -/
theorem isBlockBody_iff {cs : List Char} (h : ¬['*', '/'] <:+: cs) :
    IsBlockBody cs ↔ Even (closingStars cs) := by
  -- the steps in which a comment is read are those in which its end is looked for
  induction cs using blockEnd.induct with
  | case1 rest => exact absurd (List.prefix_append ['*', '/'] rest).isInfix h
  | case2 c rest hc ih =>
    have hrest : ¬['*', '/'] <:+: rest := fun hin =>
      h (hin.trans (List.suffix_append ['*', c] rest).isInfix)
    rw [even_closingStars_star_cons, ← ih hrest]
    constructor
    · intro hbody
      cases hbody with
      | char hstar _ => exact absurd rfl hstar
      | star _ hbody => exact hbody
    · exact .star fun heq => hc heq
  | case3 =>
    refine iff_of_false ?_ (by decide)
    intro hbody
    cases hbody with
    | char hstar _ => exact hstar rfl
  | case4 c rest _ hstep hlast ih =>
    have hc : c ≠ '*' := by
      rintro rfl
      cases rest with
      | nil => exact hlast rfl rfl
      | cons d ds => exact hstep d ds rfl rfl
    have hrest : ¬['*', '/'] <:+: rest := fun hin =>
      h (hin.trans (List.suffix_cons c rest).isInfix)
    rw [closingStars_cons, if_neg fun hall => hc hall.2, ← ih hrest]
    constructor
    · intro hbody
      cases hbody with
      | char _ hbody => exact hbody
      | star _ _ => exact absurd rfl hc
    · exact .char hc
  | case5 => exact iff_of_true .nil (by decide)

/-- Behind an odd number of asterisks the end of a comment is read as part of its body. -/
theorem isBlockBody_append_end {cs : List Char} (h : ¬['*', '/'] <:+: cs)
    (hodd : ¬Even (closingStars cs)) : IsBlockBody (cs ++ ['*', '/']) := by
  rcases List.eq_nil_or_concat cs with rfl | ⟨init, c, rfl⟩
  · exact absurd (show Even (closingStars []) by decide) hodd
  rw [List.concat_eq_append] at h hodd ⊢
  by_cases hc : c = '*'
  · subst hc
    rw [closingStars_concat_star, Nat.even_add_one, not_not] at hodd
    have hinit : ¬['*', '/'] <:+: init := fun hin =>
      h (hin.trans (List.prefix_append init ['*']).isInfix)
    have hend : IsBlockBody ['*', '*', '/'] := .star (by decide) (.char (by decide) .nil)
    rw [List.append_assoc]
    exact ((isBlockBody_iff hinit).2 hodd).append hend
  · rw [closingStars_concat_of_ne init hc] at hodd
    exact absurd (show Even 0 by decide) hodd

/-- The end of a comment is looked for behind what is read of its body. -/
theorem IsBlockBody.blockEnd_append {body : List Char} (h : IsBlockBody body)
    (rest : List Char) : blockEnd (body ++ rest) = (blockEnd rest).map (· + body.length) := by
  have hmore : ∀ (n m : Nat) (e : Option Nat),
      (e.map (· + n)).map (· + m) = e.map (· + (n + m)) := by
    intro n m e
    cases e with
    | none => rfl
    | some k => exact congrArg some (Nat.add_assoc k n m)
  induction h with
  | nil => simp
  | char hc _ ih =>
    rw [List.cons_append, blockEnd, ih, hmore, List.length_cons] <;> simp [hc]
  | @star c cs hc _ ih =>
    rw [List.cons_append, List.cons_append, blockEnd, ih, hmore, List.length_cons, List.length_cons]
    simpa using hc

/-! ## Tokens behind a comment -/

/-- The number of characters that a comment takes whose opening has been read: up to its end, or
all if it has none. -/
def blockLength (cs : List Char) : Nat := (blockEnd cs).getD cs.length

/-- No token comes of a comment, whether it has an end or not. -/
theorem lexemesFrom_comment (offset : Nat) (cs : List Char) :
    lexemesFrom offset (pieces ('/' :: '*' :: cs)) =
      lexemesFrom (offset + (2 + byteLength (cs.take (blockLength cs))))
        (pieces (cs.drop (blockLength cs))) := by
  have hcut : ∃ kind, kind.token? = none ∧
      cut '/' ('*' :: cs) = ⟨kind, blockLength cs + 1⟩ := by
    change ∃ kind : PieceKind, kind.token? = none ∧ cutSlash ('*' :: cs) = _
    rw [cutSlash, blockLength]
    cases blockEnd cs with
    | some n => exact ⟨.comment, rfl, congrArg (Cut.mk .comment) (Nat.add_comm 1 n)⟩
    | none => exact ⟨.dropped, rfl, congrArg (Cut.mk .dropped) (Nat.add_comm 1 cs.length)⟩
  obtain ⟨kind, hkind, hcut⟩ := hcut
  have hsize : byteLength ('/' :: ('*' :: cs).take (blockLength cs + 1)) =
      2 + byteLength (cs.take (blockLength cs)) := by
    rw [List.take_succ_cons, byteLength_cons, byteLength_cons, ← Nat.add_assoc]
    rfl
  rw [pieces, hcut]
  dsimp only
  rw [lexemesFrom, hsize, List.drop_succ_cons]
  cases kind with
  | token t => cases hkind
  | _ => rfl

/-- What is read of a comment's body counts for no more than the opening. -/
theorem lexemesFrom_comment_append {body : List Char} (h : IsBlockBody body) (offset : Nat)
    (rest : List Char) :
    lexemesFrom offset (pieces ('/' :: '*' :: (body ++ rest))) =
      lexemesFrom (offset + byteLength body) (pieces ('/' :: '*' :: rest)) := by
  have hlength : blockLength (body ++ rest) = body.length + blockLength rest := by
    rw [blockLength, blockLength, h.blockEnd_append]
    cases blockEnd rest with
    | none => exact List.length_append
    | some n => exact Nat.add_comm n body.length
  rw [lexemesFrom_comment, lexemesFrom_comment, hlength, List.take_length_add_append,
    List.drop_length_add_append, byteLength_append]
  congr 1
  omega

/-- The tokens behind a block comment whose body has no end of a comment in it, whatever
follows:

* if the body ends in an even number of asterisks, they are those of what follows, in their places;
* if it ends in an odd number, the comment is not over: the tokens are those that are found if it
  is opened where it should have ended;
* so the comment ends at its end iff the number is even, or what follows has the same tokens with
  a comment opened in front of it. -/
theorem lexemes_behind_comment {body : String} (h : ¬['*', '/'] <:+: body.toList) :
    let comment := "/*" ++ body ++ "*/"
    (Even (closingStars body.toList) → ∀ rest, lexemes (comment ++ rest) =
        (lexemes rest).map (shifted (byteLength comment.toList))) ∧
      (¬Even (closingStars body.toList) → ∀ rest, lexemes (comment ++ rest) =
        (lexemes ("/*" ++ rest)).map (shifted (byteLength body.toList + 2))) ∧
      ∀ rest, lexemes (comment ++ rest) =
          (lexemes rest).map (shifted (byteLength comment.toList)) ↔
        Even (closingStars body.toList) ∨
          lexemes ("/*" ++ rest) = (lexemes rest).map (shifted 2) := by
  intro comment
  have hchars : ∀ rest, (comment ++ rest).toList =
      '/' :: '*' :: (body.toList ++ '*' :: '/' :: rest.toList) := by
    intro rest
    simp [comment]
  have hopened : ∀ rest, ("/*" ++ rest).toList = '/' :: '*' :: rest.toList := by
    intro rest
    simp
  have hsize : byteLength comment.toList = 2 + (byteLength body.toList + 2) := by
    rw [String.toList_append, String.toList_append, byteLength_append, byteLength_append,
      Nat.add_assoc]
    rfl
  have heven : Even (closingStars body.toList) → ∀ rest, lexemes (comment ++ rest) =
      (lexemes rest).map (shifted (byteLength comment.toList)) := by
    intro heven rest
    have hbody := (isBlockBody_iff h).2 heven
    have hend : blockLength ('*' :: '/' :: rest.toList) = 2 := rfl
    rw [lexemes, hchars, lexemesFrom_comment_append hbody, lexemesFrom_comment, hend, hsize,
      lexemes, ← lexemesFrom_add]
    congr 1
    simp only [List.take_succ_cons, List.take_zero, byteLength_cons, byteLength_nil]
    change 0 + byteLength body.toList + (2 + (1 + (1 + 0))) = _
    omega
  have hodd : ¬Even (closingStars body.toList) → ∀ rest, lexemes (comment ++ rest) =
      (lexemes ("/*" ++ rest)).map (shifted (byteLength body.toList + 2)) := by
    intro hodd rest
    have hbody := isBlockBody_append_end h hodd
    have hsplit : body.toList ++ '*' :: '/' :: rest.toList =
        (body.toList ++ ['*', '/']) ++ rest.toList := by
      rw [List.append_assoc]
      rfl
    rw [lexemes, hchars, hsplit, lexemesFrom_comment_append hbody, lexemes, hopened,
      ← lexemesFrom_add, byteLength_append]
    rfl
  refine ⟨heven, hodd, fun rest => ?_⟩
  by_cases hparity : Even (closingStars body.toList)
  · exact iff_of_true (heven hparity rest) (.inl hparity)
  · have hmoved : (lexemes rest).map (shifted (byteLength comment.toList)) =
        ((lexemes rest).map (shifted 2)).map (shifted (byteLength body.toList + 2)) := by
      rw [List.map_map, hsize]
      exact congrArg (List.map · _) (funext fun t => (shifted_shifted _ 2 t).symm)
    rw [hodd hparity rest, hmoved, List.map_inj_right fun _ _ h => shifted_injective _ h]
    exact (or_iff_right hparity).symm

/-- A comment with two asterisks before its end ends there. -/
theorem lexemes_behind_comment_of_two_stars :
    ¬['*', '/'] <:+: "* doc **".toList ∧ Even (closingStars "* doc **".toList) ∧
      lexemes ("/*" ++ "* doc **" ++ "*/" ++ " item") = [⟨.keyword .item, ⟨13, 17⟩⟩] := by
  have hbody : ¬['*', '/'] <:+: "* doc **".toList := by decide +kernel
  have heven : Even (closingStars "* doc **".toList) := by decide +kernel
  have hbehind := (lexemes_behind_comment hbody).1 heven " item"
  have hitem : lexemes " item" = [⟨.keyword .item, ⟨1, 5⟩⟩] := by decide +kernel
  rw [hitem] at hbehind
  exact ⟨hbody, heven, hbehind⟩

/-- With one asterisk before it the end is overlooked, and the comment swallows the token
behind it. -/
theorem swallowed_of_one_star :
    ¬['*', '/'] <:+: "* doc *".toList ∧
      lexemes ("/*" ++ "* doc *" ++ "*/" ++ " item") = [] ∧
      (lexemes " item").map (shifted (byteLength ("/*" ++ "* doc *" ++ "*/").toList)) =
        [⟨.keyword .item, ⟨12, 16⟩⟩] := by
  decide +kernel

end SceneFactory.Markup
