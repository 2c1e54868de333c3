import SceneFactory.Proofs.Markup.Lexing
import SceneFactory.Proofs.Markup.Recognition

/-!
# Declarations that are written and read back

A declaration is written as its tokens (`Declaration.written`), laid out as one pleases
(`Declaration.markup`). Main statement: `parse_markup`. Parsing what was written gives the
declaration back.

What can be written is bounded by what has a spelling: names that are no keywords, and null,
truth values, integers, strings, names and lists of such (`Initializer.IsWritable`). The least
integer has none, since a sign belongs to an integer that is in range without it. The tokens
derive the declaration by the grammar, and the text is cut into them.
-/

set_option autoImplicit false

namespace SceneFactory.Markup

/-! ## Writing -/

/-- An integer, with a sign in front if it is negative. -/
def intTokens (n : Int64) : List Token :=
  if n < 0 then [.mark .minus, .int (-n)] else [.int n]

/-- The literal of a value. Lists are written as initializers, and other values have none. -/
def literalTokens : Value → List Token
  | .null => [.keyword .nullWord]
  | .bool true => [.keyword .trueWord]
  | .bool false => [.keyword .falseWord]
  | .int n => intTokens n
  | .string s => [.string s]
  | .float _ | .list _ | .map _ => []

mutual

/-- The tokens that an initializer is written with. -/
def Initializer.written : Initializer → List Token
  | .literal value => literalTokens value
  | .name n => [.ident n]
  | .list items => .mark .bracketOpen :: writtenItems items ++ [.mark .bracketClose]

/-- The items of a list, with a comma between two of them. -/
def Initializer.writtenItems : List Initializer → List Token
  | [] => []
  | [item] => written item
  | item :: rest => written item ++ .mark .comma :: writtenItems rest

end

/-- What is written behind the name of a property. -/
def writtenInit : Option Initializer → List Token
  | none => []
  | some init => .mark .colon :: init.written

/-- The tokens that a property is written with. -/
def PropertyDeclaration.written (p : PropertyDeclaration) : List Token :=
  (if p.required then [.keyword .required] else []) ++
    .keyword .property :: .ident p.name :: writtenInit p.init

/-- The tokens that a component is written with. -/
def Declaration.written (d : Declaration) : List Token :=
  .keyword d.kind.keyword :: .ident d.name :: .mark .braceOpen ::
    d.properties.flatMap PropertyDeclaration.written ++ [.mark .braceClose]

/-- A declaration as a source: its tokens laid out, `gap n` before the last `n` of them. -/
def Declaration.markup (d : Declaration) (gap : Nat → List Filler) : String :=
  String.ofList (layOut gap d.written)

/-! ## What can be written -/

/-- Initializers that can be written. -/
inductive Initializer.IsWritable : Initializer → Prop where
  | null : IsWritable (.literal .null)
  | bool (b : Bool) : IsWritable (.literal (.bool b))
  | int {n : Int64} (h : -9223372036854775807 ≤ n.toInt) : IsWritable (.literal (.int n))
  | string (s : String) : IsWritable (.literal (.string s))
  | name {n : String} (h : IsName n) : IsWritable (.name n)
  | list {items : List Initializer} (h : ∀ item ∈ items, item.IsWritable) :
      IsWritable (.list items)

/-- Properties that can be written. -/
structure PropertyDeclaration.IsWritable (p : PropertyDeclaration) : Prop where
  name : IsName p.name
  init : ∀ init ∈ p.init, init.IsWritable

/-- Declarations that can be written. -/
structure Declaration.IsWritable (d : Declaration) : Prop where
  name : IsName d.name
  properties : ∀ p ∈ d.properties, p.IsWritable

/-! ## What is written is derivable -/

theorem isNumber_intTokens (n : Int64) : IsNumber (intTokens n) (.int n) := by
  rw [intTokens]
  split
  · have hnumber := IsNumber.negativeInt (-n)
    rw [Int64.neg_neg] at hnumber
    exact hnumber
  · exact .int n

theorem isItems_writtenItems {items : List Initializer}
    (h : ∀ item ∈ items, IsInitializer item.written item) :
    IsItems (Initializer.writtenItems items) items := by
  induction items with
  | nil =>
    rw [Initializer.writtenItems]
    exact .none
  | cons item rest ih =>
    have hitem := h item List.mem_cons_self
    have hrest := ih fun other hother => h other (List.mem_cons_of_mem item hother)
    cases rest with
    | nil =>
      rw [Initializer.writtenItems]
      exact .some (.one hitem)
    | cons next rest =>
      rw [Initializer.writtenItems]
      · exact .cons hitem hrest
      · exact nofun

/-- The tokens of an initializer derive it. -/
theorem isInitializer_written {init : Initializer} (h : init.IsWritable) :
    IsInitializer init.written init := by
  induction h with
  | null => exact .nullWord
  | bool b =>
    cases b with
    | true => exact .trueWord
    | false => exact .falseWord
  | @int n h => exact .number (isNumber_intTokens n)
  | string s => exact .string s
  | @name n h => exact .name n
  | list h ih =>
    rw [Initializer.written]
    exact .list (isItems_writtenItems ih)

theorem isProperty_written {p : PropertyDeclaration} (h : p.IsWritable) :
    IsProperty p.written p := by
  obtain ⟨name, required, init⟩ := p
  have hinit : IsInit (writtenInit init) init := by
    cases init with
    | none => exact .none
    | some init => exact .some (isInitializer_written (h.init init rfl))
  cases required with
  | true => exact .required name hinit
  | false => exact .optional name hinit

theorem isProperties_written {ps : List PropertyDeclaration} (h : ∀ p ∈ ps, p.IsWritable) :
    IsProperties (ps.flatMap PropertyDeclaration.written) ps := by
  induction ps with
  | nil => exact .nil
  | cons p ps ih =>
    exact .cons (isProperty_written (h p List.mem_cons_self))
      (ih fun q hq => h q (List.mem_cons_of_mem p hq))

/-- The tokens of a declaration derive it. -/
theorem isComponent_written {d : Declaration} (h : d.IsWritable) : IsComponent d.written d :=
  .mk d.kind d.name (isProperties_written h.properties)

/-! ## What is written can be spelled -/

theorem isSpellable_of_mem_intTokens {n : Int64} (h : -9223372036854775807 ≤ n.toInt) {t : Token}
    (ht : t ∈ intTokens n) : t.IsSpellable := by
  rw [intTokens] at ht
  split at ht
  · rename_i hneg
    have hpos : 0 ≤ -n := by
      have hlt : n.toInt < 0 := Int64.lt_iff_toInt_lt.1 hneg
      have hrange : (-n).toInt = -n.toInt := by
        rw [Int64.toInt_neg]
        exact Int.bmod_eq_of_le (by omega) (by omega)
      have hle : 0 ≤ (-n).toInt := by
        rw [hrange]
        omega
      exact Int64.le_iff_toInt_le.2 hle
    rcases List.mem_cons.1 ht with rfl | ht
    · exact .mark _
    · obtain rfl := List.mem_singleton.1 ht
      exact .int hpos
  · rename_i hneg
    obtain rfl := List.mem_singleton.1 ht
    exact .int (Int64.not_lt.1 hneg)

theorem isSpellable_of_mem_writtenItems {items : List Initializer}
    (h : ∀ item ∈ items, ∀ t ∈ item.written, t.IsSpellable) :
    ∀ t ∈ Initializer.writtenItems items, t.IsSpellable := by
  induction items with
  | nil =>
    rw [Initializer.writtenItems]
    exact nofun
  | cons item rest ih =>
    have hitem := h item List.mem_cons_self
    have hrest := ih fun other hother => h other (List.mem_cons_of_mem item hother)
    cases rest with
    | nil =>
      rw [Initializer.writtenItems]
      exact hitem
    | cons next rest =>
      rw [Initializer.writtenItems]
      · intro t ht
        rcases List.mem_append.1 ht with ht | ht
        · exact hitem t ht
        · rcases List.mem_cons.1 ht with rfl | ht
          · exact .mark _
          · exact hrest t ht
      · exact nofun

/-- An initializer is written with tokens that have a spelling. -/
theorem isSpellable_of_mem_initializer {init : Initializer} (h : init.IsWritable) :
    ∀ t ∈ init.written, t.IsSpellable := by
  induction h with
  | null => exact fun t ht => List.mem_singleton.1 ht ▸ .keyword _
  | bool b => cases b <;> exact fun t ht => List.mem_singleton.1 ht ▸ .keyword _
  | int h => exact fun t ht => isSpellable_of_mem_intTokens h ht
  | string s => exact fun t ht => List.mem_singleton.1 ht ▸ .string s
  | name h => exact fun t ht => List.mem_singleton.1 ht ▸ .ident h
  | list h ih =>
    intro t ht
    rw [Initializer.written, List.cons_append, List.mem_cons, List.mem_append] at ht
    rcases ht with rfl | ht | ht
    · exact .mark _
    · exact isSpellable_of_mem_writtenItems ih t ht
    · exact List.mem_singleton.1 ht ▸ .mark _

theorem isSpellable_of_mem_property {p : PropertyDeclaration} (h : p.IsWritable) {t : Token}
    (ht : t ∈ p.written) : t.IsSpellable := by
  obtain ⟨name, required, init⟩ := p
  rw [PropertyDeclaration.written, List.mem_append, List.mem_cons, List.mem_cons] at ht
  rcases ht with ht | rfl | rfl | ht
  · cases required with
    | true => exact List.mem_singleton.1 ht ▸ .keyword _
    | false => cases ht
  · exact .keyword _
  · exact .ident h.name
  · cases init with
    | none => cases ht
    | some init =>
      rcases List.mem_cons.1 ht with rfl | ht
      · exact .mark _
      · exact isSpellable_of_mem_initializer (h.init init rfl) t ht

/-- A declaration is written with tokens that have a spelling. -/
theorem isSpellable_of_mem_declaration {d : Declaration} (h : d.IsWritable) :
    ∀ t ∈ d.written, t.IsSpellable := by
  intro t ht
  rw [Declaration.written, List.cons_append, List.cons_append, List.cons_append, List.mem_cons,
    List.mem_cons, List.mem_cons, List.mem_append, List.mem_flatMap] at ht
  rcases ht with rfl | rfl | rfl | ⟨p, hp, ht⟩ | ht
  · exact .keyword _
  · exact .ident h.name
  · exact .mark _
  · exact isSpellable_of_mem_property (h.properties p hp) ht
  · exact List.mem_singleton.1 ht ▸ .mark _

/-! ## Reading back -/

/-- What is written is read back. Every declaration that can be written, laid out in any way
that separates its tokens, is parsed to a component that declares the same: its kind and name, and
each property in its place with its name, whether it is required, and its initializer. -/
theorem parse_markup (d : Declaration) (h : d.IsWritable) (gap : Nat → List Filler)
    (hgap : Separated gap d.written) :
    ∃ c, parse (d.markup gap) = .ok c ∧ c.declaration = d := by
  have htokens : tokens (lexemes (d.markup gap)) = d.written := by
    rw [tokens_lexemes, Declaration.markup, String.toList_ofList]
    exact lexed_layOut (isSpellable_of_mem_declaration h) hgap
  have hcomponent : IsComponent (tokens (lexemes (d.markup gap))) d := by
    rw [htokens]
    exact isComponent_written h
  obtain ⟨c, hread, hd⟩ := readComponent_of_isComponent hcomponent
  exact ⟨c, (parse_eq_ok_iff _ c).2 hread, hd⟩

/-- A window whose title looks like escapes and a comment, with its sizes and an owner to be
given. -/
def windowDeclaration : Declaration :=
  ⟨.item, "Window",
    [⟨"title", false, some (.literal (.string "\"a\\n\" // b\n"))⟩,
      ⟨"sizes", false,
        some (.list [.literal (.int (-9223372036854775807)), .list [], .name "width"])⟩,
      ⟨"owner", true, none⟩]⟩

/-- The window comes back from a text with a comment before and behind each token. -/
theorem parse_markup_of_windowDeclaration :
    let gap : Nat → List Filler := fun _ => [.space, .comment "a \"".toList (by decide), .tab]
    windowDeclaration.IsWritable ∧ Separated gap windowDeclaration.written ∧
      ∃ c, parse (windowDeclaration.markup gap) = .ok c ∧ c.declaration = windowDeclaration := by
  intro gap
  have hsizes : ∀ item ∈ [.literal (.int (-9223372036854775807)), .list [], .name "width"],
      Initializer.IsWritable item := by
    simp only [List.forall_mem_cons]
    exact ⟨.int (by decide), .list nofun, .name (by decide), nofun⟩
  have hwritable : windowDeclaration.IsWritable := by
    refine ⟨by decide, ?_⟩
    simp only [windowDeclaration, List.forall_mem_cons]
    refine ⟨⟨by decide, ?_⟩, ⟨by decide, ?_⟩, ⟨by decide, nofun⟩, nofun⟩
    · rintro _ ⟨⟩
      exact .string _
    · rintro _ ⟨⟩
      exact .list hsizes
  have hseparated : Separated gap windowDeclaration.written :=
    separated_of_ne_nil (fun _ => List.cons_ne_nil _ _) _
  exact ⟨hwritable, hseparated, parse_markup _ hwritable gap hseparated⟩

example : Declaration.markup
    ⟨.object, "Timer", [⟨"delay", true, some (.literal (.int (-5)))⟩]⟩ (fun _ => [.space]) =
      " object Timer \x7b required property delay : - 5 \x7d " := by
  decide +kernel

end SceneFactory.Markup
