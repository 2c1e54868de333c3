import SceneFactory.Proofs.Markup.Spelled

/-!
# The spans of a component

What it is for the parts of a component to be placed in a source (`Component.IsPlaced`): under each
span stands some text, under each name the name, and under each list a text in brackets; properties
follow each other and the name of the component, each with its name and its initializer behind its
keyword; and the items of a list follow each other between its brackets, at every depth.

Reading takes tokens from the front, which stand in order, so whatever is read stops before the
tokens that are left (`Between`). Main statement: `placed_of_parse`. The parts of every component
that is read are placed in its source.
-/

set_option autoImplicit false

namespace SceneFactory.Markup

/-! ## Placed parts -/

/-- An initializer is placed in a source. -/
inductive Expr.IsPlaced (source : String) : Located Expr → Prop where
  | literal (value : Value) {span : Span} {text : List Char} (h : Stands source span text)
      (hne : text ≠ []) : IsPlaced source ⟨.literal value, span⟩
  | name {name : String} {span : Span} (h : Stands source span name.toList)
      (hne : name.toList ≠ []) : IsPlaced source ⟨.name name, span⟩
  | list {items : List (Located Expr)} {span : Span} {inner : List Char}
      (h : Stands source span (Mark.bracketOpen.char :: inner ++ [Mark.bracketClose.char]))
      (hitems : ∀ item ∈ items, IsPlaced source item)
      (hinside : ∀ item ∈ items, span.start < item.span.start ∧ item.span.stop < span.stop)
      (horder : items.Pairwise fun a b => a.span.stop ≤ b.span.start) :
      IsPlaced source ⟨.list items, span⟩

/-- The name and the initializer of a property are placed in a source, the initializer behind the
name, and the property stops with the last of them. -/
structure Property.IsNamed (source : String) (p : Located Property) : Prop where
  name : Stands source p.node.name.span p.node.name.node.toList
  name_ne : p.node.name.node.toList ≠ []
  init : ∀ init ∈ p.node.init, Expr.IsPlaced source init ∧
    p.node.name.span.stop ≤ init.span.start
  stop : p.span.stop = match p.node.init with
    | some init => init.span.stop
    | none => p.node.name.span.stop

/-- The keyword that a property begins with. -/
def Property.keyword (p : Property) : Keyword := if p.required then .required else .property

/-- A property is placed in a source: it begins with its keyword, and its name comes after that. -/
structure Property.IsPlaced (source : String) (p : Located Property) : Prop
    extends Property.IsNamed source p where
  text : ∃ text, Stands source p.span text ∧ text ≠ []
  keyword : ∃ t ∈ lexemes source, t.node = .keyword p.node.keyword ∧
    Stands source t.span p.node.keyword.spelling.toList ∧ t.span.start = p.span.start ∧
    t.span.stop ≤ p.node.name.span.start

/-- A component is placed in a source: its properties come after its name and one after the
other. -/
structure Component.IsPlaced (source : String) (c : Component) : Prop where
  name : Stands source c.name.span c.name.node.toList
  name_ne : c.name.node.toList ≠ []
  properties : ∀ p ∈ c.properties, Property.IsPlaced source p
  after : ∀ p ∈ c.properties, c.name.span.stop ≤ p.span.start
  order : c.properties.Pairwise fun p q => p.span.stop ≤ q.span.start

variable {source : String}

/-- Some text stands under every initializer. -/
theorem Expr.IsPlaced.exists_stands {e : Located Expr} (h : Expr.IsPlaced source e) :
    ∃ text, Stands source e.span text ∧ text ≠ [] := by
  cases h with
  | literal _ h hne => exact ⟨_, h, hne⟩
  | name h hne => exact ⟨_, h, hne⟩
  | list h => exact ⟨_, h, List.cons_ne_nil _ _⟩

/-! ## Tokens at the front -/

/-- A span begins with one of some tokens and stops before those that are left of them. -/
structure Between (ts : List Lexeme) (span : Span) (rest : List Lexeme) : Prop where
  start_mem : ∃ t ∈ ts, t.span.start = span.start
  stop_le : ∀ u ∈ rest, span.stop ≤ u.span.start
  suffix : rest <:+ ts

theorem suffix_of_cons {t : Lexeme} {rest ts : List Lexeme} (h : t :: rest <:+ ts) : rest <:+ ts :=
  (List.suffix_cons t rest).trans h

/-- A token stops before the ones behind it. -/
theorem stop_le_of_mem {t u : Lexeme} {rest : List Lexeme} (hts : t :: rest <:+ lexemes source)
    (hu : u ∈ rest) : t.span.stop ≤ u.span.start :=
  List.rel_of_pairwise_cons ((inOrder_lexemes source).sublist hts.sublist) hu

theorem between_token {t : Lexeme} {rest : List Lexeme} (hts : t :: rest <:+ lexemes source) :
    Between (t :: rest) t.span rest :=
  ⟨⟨t, List.mem_cons_self, rfl⟩, fun _ hu => stop_le_of_mem hts hu, List.suffix_cons t rest⟩

theorem Between.cons {t : Lexeme} {ts rest : List Lexeme} {span : Span}
    (h : Between ts span rest) : Between (t :: ts) ⟨t.span.start, span.stop⟩ rest :=
  ⟨⟨t, List.mem_cons_self, rfl⟩, h.stop_le, suffix_cons_of h.suffix⟩

/-! ## Expressions -/

/-- What is read of an expression is placed. -/
def PlacesExpr (source : String) {ts : List Lexeme} :
    Except Stop (Reading (Located Expr) ts) → Prop
  | .ok r => Expr.IsPlaced source r.node ∧ Between ts r.node.span r.rest
  | .error _ => True

/-- The items of a list are placed, up to the closing bracket, which stops where it is said. -/
structure ArePlaced (source : String) (ts : List Lexeme) (items : List (Located Expr))
    (stop : Nat) (rest : List Lexeme) : Prop where
  placed : ∀ item ∈ items, Expr.IsPlaced source item
  start_mem : ∀ item ∈ items, ∃ t ∈ ts, t.span.start = item.span.start
  stop_lt : ∀ item ∈ items, item.span.stop < stop
  order : items.Pairwise fun a b => a.span.stop ≤ b.span.start
  closed : ∃ t ∈ ts, t.node = .mark .bracketClose ∧ t.span.stop = stop
  stop_le : ∀ u ∈ rest, stop ≤ u.span.start
  suffix : rest <:+ ts

/-- What is read of the items of a list is placed. -/
def PlacesItems (source : String) {ts : List Lexeme} :
    Except Stop (Reading (List (Located Expr) × Nat) ts) → Prop
  | .ok r => ArePlaced source ts r.node.1 r.node.2 r.rest
  | .error _ => True

/-- A literal of one token is placed. -/
theorem placed_literal {t : Lexeme} {rest : List Lexeme} (hts : t :: rest <:+ lexemes source)
    (value : Value) :
    Expr.IsPlaced source ⟨.literal value, t.span⟩ ∧ Between (t :: rest) t.span rest := by
  obtain ⟨text, hstands, hne⟩ := exists_stands_of_mem_lexemes (hts.mem List.mem_cons_self)
  exact ⟨.literal value hstands hne, between_token hts⟩

/-- A literal of two tokens is placed. -/
theorem placed_signed {t u : Lexeme} {rest : List Lexeme} (hts : t :: u :: rest <:+ lexemes source)
    (value : Value) :
    Expr.IsPlaced source ⟨.literal value, ⟨t.span.start, u.span.stop⟩⟩ ∧
      Between (t :: u :: rest) ⟨t.span.start, u.span.stop⟩ rest := by
  have hu := suffix_of_cons hts
  obtain ⟨text, hstands, hne⟩ := exists_stands_of_mem_lexemes (hts.mem List.mem_cons_self)
  obtain ⟨text', hstands', -⟩ := exists_stands_of_mem_lexemes (hu.mem List.mem_cons_self)
  obtain ⟨between, hjoin⟩ := hstands.join hstands' (stop_le_of_mem hts List.mem_cons_self)
  exact ⟨.literal value hjoin (by simp [hne]), (between_token hu).cons⟩

/-- A list is placed if its items are. -/
theorem placed_list {span : Span} {ts rest : List Lexeme} {items : List (Located Expr)} {stop : Nat}
    (hts : ⟨.mark .bracketOpen, span⟩ :: ts <:+ lexemes source)
    (h : ArePlaced source ts items stop rest) :
    Expr.IsPlaced source ⟨.list items, ⟨span.start, stop⟩⟩ ∧
      Between (⟨.mark .bracketOpen, span⟩ :: ts) ⟨span.start, stop⟩ rest := by
  have hopen := stands_mark (hts.mem List.mem_cons_self)
  obtain ⟨⟨node, close⟩, hclose, rfl, rfl⟩ := h.closed
  have hclosed := stands_mark ((suffix_of_cons hts).mem hclose)
  obtain ⟨inner, hjoin⟩ := hopen.join hclosed (stop_le_of_mem hts hclose)
  refine ⟨.list hjoin h.placed (fun item hitem => ⟨?_, h.stop_lt item hitem⟩) h.order,
    ⟨_, List.mem_cons_self, rfl⟩, h.stop_le, suffix_cons_of h.suffix⟩
  obtain ⟨t, ht, hstart⟩ := h.start_mem item hitem
  have hbehind := stop_le_of_mem hts ht
  have hlt := hopen.start_lt_stop (List.cons_ne_nil _ _)
  dsimp only at hbehind ⊢
  omega

theorem places_readExpr {n : Nat}
    (hitems : ∀ ts : List Lexeme, ts.length < n → ts <:+ lexemes source →
      PlacesItems source (readItems ts))
    {ts : List Lexeme} (hlength : ts.length ≤ n) (hts : ts <:+ lexemes source) :
    PlacesExpr source (readExpr ts) := by
  unfold readExpr
  split
  case h_1 | h_2 | h_3 | h_4 | h_5 | h_6 | h_7 => exact placed_literal hts _
  case h_8 name span rest =>
    obtain ⟨hstands, hne⟩ := stands_ident (hts.mem List.mem_cons_self)
    exact ⟨.name hstands hne, between_token hts⟩
  case h_9 | h_10 => exact placed_signed hts _
  case h_11 => exact trivial
  case h_12 span rest =>
    have hrest := hitems rest (Nat.lt_of_succ_le hlength) (suffix_of_cons hts)
    split
    · exact trivial
    · rename_i items stop after h heq
      rw [heq] at hrest
      exact placed_list hts hrest
  case h_13 => exact trivial

/-- The closing bracket alone: there are no items. -/
theorem arePlaced_nil {span : Span} {rest : List Lexeme}
    (hts : ⟨.mark .bracketClose, span⟩ :: rest <:+ lexemes source) :
    ArePlaced source (⟨.mark .bracketClose, span⟩ :: rest) [] span.stop rest where
  placed := nofun
  start_mem := nofun
  stop_lt := nofun
  order := .nil
  closed := ⟨_, List.mem_cons_self, rfl, rfl⟩
  stop_le _ hu := stop_le_of_mem hts hu
  suffix := List.suffix_cons _ _

/-- An item in front of others, all of which begin behind it. -/
theorem ArePlaced.cons {ts others more rest : List Lexeme} {item : Located Expr}
    {items : List (Located Expr)} {stop : Nat} (hts : ts <:+ lexemes source)
    (hitem : Expr.IsPlaced source item) (hbetween : Between ts item.span others)
    (hmore : more <:+ others) (h : ArePlaced source more items stop rest) :
    ArePlaced source ts (item :: items) stop rest := by
  have hothers : more <:+ ts := hmore.trans hbetween.suffix
  obtain ⟨t, ht, hstart⟩ := hbetween.start_mem
  obtain ⟨close, hclose, hnode, hstop⟩ := h.closed
  have hlt : item.span.stop < stop := by
    obtain ⟨text, hstands, hne⟩ := exists_stands_of_mem_lexemes (hts.mem (hothers.mem hclose))
    have hbefore := hbetween.stop_le close (hmore.mem hclose)
    have hpos := hstands.start_lt_stop hne
    omega
  refine ⟨List.forall_mem_cons.2 ⟨hitem, h.placed⟩,
    List.forall_mem_cons.2 ⟨⟨t, ht, hstart⟩, fun other hother => ?_⟩,
    List.forall_mem_cons.2 ⟨hlt, h.stop_lt⟩, .cons (fun other hother => ?_) h.order,
    ⟨close, hothers.mem hclose, hnode, hstop⟩, h.stop_le, h.suffix.trans hothers⟩
  · obtain ⟨u, hu, hsame⟩ := h.start_mem other hother
    exact ⟨u, hothers.mem hu, hsame⟩
  · obtain ⟨u, hu, hsame⟩ := h.start_mem other hother
    exact hsame ▸ hbetween.stop_le u (hmore.mem hu)

theorem places_readItems {n : Nat}
    (hexpr : ∀ ts : List Lexeme, ts.length ≤ n → ts <:+ lexemes source →
      PlacesExpr source (readExpr ts))
    (hitems : ∀ ts : List Lexeme, ts.length < n → ts <:+ lexemes source →
      PlacesItems source (readItems ts))
    {ts : List Lexeme} (hlength : ts.length ≤ n) (hts : ts <:+ lexemes source) :
    PlacesItems source (readItems ts) := by
  have hitem := hexpr ts hlength hts
  unfold readItems
  split
  · exact arePlaced_nil hts
  · split
    · split <;> exact trivial
    · rename_i item rest h heq
      rw [heq] at hitem
      obtain ⟨hplaced, hbetween⟩ := hitem
      have hrest := hbetween.suffix.trans hts
      split
      · exact .cons hts hplaced hbetween (List.suffix_refl _) (arePlaced_nil hrest)
      · rename_i span more h
        have hmore := hitems more (Nat.lt_of_lt_of_le (Nat.lt_trans shorter_cons h) hlength)
          (suffix_of_cons hrest)
        split
        · exact trivial
        · rename_i items stop after h' heq'
          rw [heq'] at hmore
          exact .cons hts hplaced hbetween (List.suffix_cons _ _) hmore
      · exact trivial

/-- What is read of an expression, or of the items of a list, is placed. -/
theorem places_reading (n : Nat) : ∀ ts : List Lexeme, ts.length ≤ n → ts <:+ lexemes source →
    PlacesExpr source (readExpr ts) ∧ PlacesItems source (readItems ts) := by
  induction n using Nat.strongRecOn with
  | ind n ih =>
    have hitems : ∀ ts : List Lexeme, ts.length < n → ts <:+ lexemes source →
        PlacesItems source (readItems ts) :=
      fun ts hlt hts => (ih ts.length hlt ts (Nat.le_refl _) hts).2
    have hexpr : ∀ ts : List Lexeme, ts.length ≤ n → ts <:+ lexemes source →
        PlacesExpr source (readExpr ts) :=
      fun ts hle hts => places_readExpr hitems hle hts
    intro ts hle hts
    exact ⟨hexpr ts hle hts, places_readItems hexpr hitems hle hts⟩

theorem placed_of_readExpr {ts : List Lexeme} {r : Reading (Located Expr) ts}
    (hts : ts <:+ lexemes source) (h : readExpr ts = .ok r) :
    Expr.IsPlaced source r.node ∧ Between ts r.node.span r.rest := by
  have hplaces := (places_reading ts.length ts (Nat.le_refl _) hts).1
  rw [h] at hplaces
  exact hplaces

/-! ## Properties -/

/-- What is read behind the keyword of a property is placed, and stops before the tokens that are
left. -/
theorem named_of_readPropertyTail {start : Nat} {required : Bool} {ts : List Lexeme}
    {r : Reading (Located Property) ts} (hts : ts <:+ lexemes source)
    (h : readPropertyTail start required ts = .ok r) :
    Property.IsNamed source r.node ∧ r.node.node.required = required ∧ r.node.span.start = start ∧
      (∃ t ∈ ts, t.span.start = r.node.node.name.span.start) ∧
      (∀ u ∈ r.rest, r.node.span.stop ≤ u.span.start) ∧ r.rest <:+ ts := by
  simp only [readPropertyTail] at h
  split at h
  · rename_i name nameSpan colon rest
    split at h
    · cases h
    · rename_i init after hlt heq
      cases h
      obtain ⟨hstands, hne⟩ := stands_ident (hts.mem List.mem_cons_self)
      obtain ⟨hplaced, hbetween⟩ :=
        placed_of_readExpr (suffix_of_cons (suffix_of_cons hts)) heq
      obtain ⟨t, ht, hstart⟩ := hbetween.start_mem
      have hbehind := stop_le_of_mem hts (List.mem_cons_of_mem _ ht)
      refine ⟨⟨hstands, hne, ?_, rfl⟩, rfl, rfl, ⟨_, List.mem_cons_self, rfl⟩, hbetween.stop_le,
        suffix_cons_of (suffix_cons_of hbetween.suffix)⟩
      rintro other hother
      cases Option.some.inj hother
      exact ⟨hplaced, hstart ▸ hbehind⟩
  · rename_i name nameSpan rest hcolon
    cases h
    obtain ⟨hstands, hne⟩ := stands_ident (hts.mem List.mem_cons_self)
    exact ⟨⟨hstands, hne, by simp, rfl⟩, rfl, rfl, ⟨_, List.mem_cons_self, rfl⟩,
      fun u hu => stop_le_of_mem hts hu, List.suffix_cons _ _⟩
  · cases h

/-- What is named behind a keyword is a property that is placed. -/
theorem Property.IsNamed.placed {p : Located Property} {t : Lexeme}
    (h : Property.IsNamed source p) (ht : t ∈ lexemes source)
    (hnode : t.node = .keyword p.node.keyword) (hstart : t.span.start = p.span.start)
    (hle : t.span.stop ≤ p.node.name.span.start) : Property.IsPlaced source p := by
  obtain ⟨node, span⟩ := t
  cases hnode
  have hkeyword := stands_keyword ht
  have hspelling : p.node.keyword.spelling.toList ≠ [] := by
    cases p.node.keyword <;> decide
  refine ⟨h, ?_, _, ht, rfl, hkeyword, hstart, hle⟩
  -- from the keyword to the last part stands what is between them
  have hspan : p.span = ⟨span.start, p.span.stop⟩ := by rw [hstart]
  rw [hspan, h.stop]
  cases hinit : p.node.init with
  | none =>
    obtain ⟨between, hjoin⟩ := hkeyword.join h.name hle
    exact ⟨_, hjoin, by simp [hspelling]⟩
  | some init =>
    obtain ⟨hplaced, hbehind⟩ := h.init init hinit
    obtain ⟨text, hstands, -⟩ := hplaced.exists_stands
    have hname := h.name.start_lt_stop h.name_ne
    obtain ⟨between, hjoin⟩ := hkeyword.join hstands (by dsimp only at hle ⊢; omega)
    exact ⟨_, hjoin, by simp [hspelling]⟩

/-- A property that is read is placed, between the tokens it begins with and those that are left. -/
theorem placed_of_readProperty {ts : List Lexeme} {r : Reading (Located Property) ts}
    (hts : ts <:+ lexemes source) (h : readProperty ts = .ok r) :
    Property.IsPlaced source r.node ∧ Between ts r.node.span r.rest := by
  simp only [readProperty] at h
  split at h
  · rename_i span span' rest
    cases htail : readPropertyTail span.start true rest with
    | error stop =>
      rw [htail] at h
      cases h
    | ok tail =>
      rw [htail] at h
      cases h
      obtain ⟨hnamed, hrequired, hstart, ⟨t, ht, hname⟩, hstop, hsuffix⟩ :=
        named_of_readPropertyTail (suffix_of_cons (suffix_of_cons hts)) htail
      have hle := stop_le_of_mem hts (List.mem_cons_of_mem _ ht)
      refine ⟨hnamed.placed (hts.mem List.mem_cons_self) ?_ hstart.symm (hname ▸ hle),
        ⟨_, List.mem_cons_self, hstart.symm⟩, hstop, suffix_cons_of (suffix_cons_of hsuffix)⟩
      rw [Property.keyword, hrequired]
      rfl
  · cases h
  · rename_i span rest
    cases htail : readPropertyTail span.start false rest with
    | error stop =>
      rw [htail] at h
      cases h
    | ok tail =>
      rw [htail] at h
      cases h
      obtain ⟨hnamed, hrequired, hstart, ⟨t, ht, hname⟩, hstop, hsuffix⟩ :=
        named_of_readPropertyTail (suffix_of_cons hts) htail
      have hle := stop_le_of_mem hts ht
      refine ⟨hnamed.placed (hts.mem List.mem_cons_self) ?_ hstart.symm (hname ▸ hle),
        ⟨_, List.mem_cons_self, hstart.symm⟩, hstop, suffix_cons_of hsuffix⟩
      rw [Property.keyword, hrequired]
      rfl
  · cases h

/-- Properties that are read are placed one after the other. -/
theorem placed_of_readProperties {colon : Bool} {ts rest : List Lexeme}
    {properties : List (Located Property)} (hts : ts <:+ lexemes source)
    (h : readProperties colon ts = .ok (properties, rest)) :
    (∀ p ∈ properties, Property.IsPlaced source p) ∧
      (∀ p ∈ properties, ∃ t ∈ ts, t.span.start = p.span.start) ∧
      properties.Pairwise fun p q => p.span.stop ≤ q.span.start := by
  fun_induction readProperties colon ts generalizing properties with
  | case1 =>
    cases h
    exact ⟨by simp, by simp, .nil⟩
  | case2 => cases h
  | case3 => cases h
  | case4 => cases h
  | case5 colon ts hclose property middle hlt heq others after hrest ih =>
    cases h
    obtain ⟨hplaced, hbetween⟩ := placed_of_readProperty hts heq
    obtain ⟨hothers, hstarts, horder⟩ := ih (hbetween.suffix.trans hts) hrest
    refine ⟨List.forall_mem_cons.2 ⟨hplaced, hothers⟩,
      List.forall_mem_cons.2 ⟨hbetween.start_mem, fun other hother => ?_⟩,
      .cons (fun other hother => ?_) horder⟩
    · obtain ⟨t, ht, hstart⟩ := hstarts other hother
      exact ⟨t, hbetween.suffix.mem ht, hstart⟩
    · obtain ⟨t, ht, hstart⟩ := hstarts other hother
      exact hstart ▸ hbetween.stop_le t ht

/-! ## Components -/

theorem placed_of_readNamed {kind : ComponentKind} {ts : List Lexeme} {c : Component}
    (hts : ts <:+ lexemes source) (h : readComponent.readNamed kind ts = .ok c) :
    c.IsPlaced source := by
  simp only [readComponent.readNamed] at h
  split at h
  · rename_i name span rest
    split at h
    · rename_i braceSpan body
      split at h
      · cases h
      · rename_i properties heq
        cases h
        obtain ⟨hstands, hne⟩ := stands_ident (hts.mem List.mem_cons_self)
        obtain ⟨hplaced, hstarts, horder⟩ :=
          placed_of_readProperties (suffix_of_cons (suffix_of_cons hts)) heq
        refine ⟨hstands, hne, hplaced, fun p hp => ?_, horder⟩
        obtain ⟨t, ht, hstart⟩ := hstarts p hp
        exact hstart ▸ stop_le_of_mem hts (List.mem_cons_of_mem _ ht)
      · cases h
    · cases h
  · cases h

theorem placed_of_readComponent {ts : List Lexeme} {c : Component}
    (hts : ts <:+ lexemes source) (h : readComponent ts = .ok c) : c.IsPlaced source := by
  simp only [readComponent] at h
  split at h
  · exact placed_of_readNamed (suffix_of_cons hts) h
  · exact placed_of_readNamed (suffix_of_cons hts) h
  · cases h

/-- The parts of a component that is read are placed in its source: all spans are exact and
nested as the parts are, whatever blank space, comments and dropped text stand between the
tokens. -/
theorem placed_of_parse {source : String} {c : Component} (h : parse source = .ok c) :
    c.IsPlaced source := by
  simp only [parse] at h
  split at h
  · rename_i component hread
    cases h
    exact placed_of_readComponent (List.suffix_refl _) hread
  · cases h

/-- A list in a list, a sign apart from its number, a letter of two bytes, a comma behind the last
item, and a comment behind a property without an initializer. -/
def listSource : String :=
  "item A \x7b required property b: [- 1, [x], \"é\",] property c /* d */ \x7d"

/-- What is read of it. -/
def listComponent : Component where
  kind := .item
  name := ⟨"A", ⟨5, 6⟩⟩
  properties := [
    ⟨⟨⟨"b", ⟨27, 28⟩⟩, true, some ⟨.list [⟨.literal (.int (-1)), ⟨31, 34⟩⟩,
      ⟨.list [⟨.name "x", ⟨37, 38⟩⟩], ⟨36, 39⟩⟩, ⟨.literal (.string "é"), ⟨41, 45⟩⟩], ⟨30, 47⟩⟩⟩,
      ⟨9, 47⟩⟩,
    ⟨⟨⟨"c", ⟨57, 58⟩⟩, false, none⟩, ⟨48, 58⟩⟩]

theorem placed_of_parse_listSource :
    parse listSource = .ok listComponent ∧ listComponent.IsPlaced listSource := by
  have hlexemes : lexemes listSource =
      [⟨.keyword .item, ⟨0, 4⟩⟩, ⟨.ident "A", ⟨5, 6⟩⟩, ⟨.mark .braceOpen, ⟨7, 8⟩⟩,
        ⟨.keyword .required, ⟨9, 17⟩⟩, ⟨.keyword .property, ⟨18, 26⟩⟩, ⟨.ident "b", ⟨27, 28⟩⟩,
        ⟨.mark .colon, ⟨28, 29⟩⟩, ⟨.mark .bracketOpen, ⟨30, 31⟩⟩, ⟨.mark .minus, ⟨31, 32⟩⟩,
        ⟨.int 1, ⟨33, 34⟩⟩, ⟨.mark .comma, ⟨34, 35⟩⟩, ⟨.mark .bracketOpen, ⟨36, 37⟩⟩,
        ⟨.ident "x", ⟨37, 38⟩⟩, ⟨.mark .bracketClose, ⟨38, 39⟩⟩, ⟨.mark .comma, ⟨39, 40⟩⟩,
        ⟨.string "é", ⟨41, 45⟩⟩, ⟨.mark .comma, ⟨45, 46⟩⟩, ⟨.mark .bracketClose, ⟨46, 47⟩⟩,
        ⟨.keyword .property, ⟨48, 56⟩⟩, ⟨.ident "c", ⟨57, 58⟩⟩, ⟨.mark .braceClose, ⟨67, 68⟩⟩] := by
    decide +kernel
  have hparse : parse listSource = .ok listComponent := by
    rw [parse, hlexemes]
    cbv
  exact ⟨hparse, placed_of_parse hparse⟩

end SceneFactory.Markup
