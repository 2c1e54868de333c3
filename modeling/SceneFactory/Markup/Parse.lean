import SceneFactory.Markup.Component
import SceneFactory.Markup.Lexicon
import SceneFactory.Report.Diagnostic

/-!
# Reading components

A source declares one component:

    component ::= (item | object) Name { property* }
    property  ::= [required] property Name [: expr]
    expr      ::= String | Color | true | false | null | [-] Number | Name
                | [ [expr (, expr)* [,]] ]

One token of foresight decides every choice, so the first token that fits no
rule is where reading stops. An error names what stood there and what could have
stood there; alternatives that are written with a name or a literal in them are
not listed.
-/

namespace SceneFactory.Markup

/-! ## Errors -/

/-- What could have come where reading stopped. -/
inductive Expected where
  | token (t : Token)
  | endOfInput
deriving DecidableEq, Inhabited

/-- How an expectation is named in messages. -/
def Expected.describe : Expected → String
  | .token t => t.describe
  | .endOfInput => "end of input"

/-- Where reading stopped: the tokens that were left, and what could have come. -/
structure Stop where
  rest : List Lexeme
  expected : List Expected
deriving DecidableEq, Inhabited

/-- A syntax error: its place, the token found there (none at the end of the
source), and what could have come. -/
structure SyntaxError where
  span : Span
  found : Option Token
  expected : List Expected
deriving DecidableEq, Inhabited

/-- The wording of a syntax error. -/
def SyntaxError.message (e : SyntaxError) : String :=
  "Unexpected " ++ (match e.found with
    | some t => t.describe
    | none => "end of input")

/-- The error as it is reported. -/
def SyntaxError.diagnostic (e : SyntaxError) : Diagnostic :=
  ⟨e.span, e.message, e.expected.map Expected.describe⟩

/-! ## Expressions -/

/-- A node read from the front of some tokens, and the tokens after it, fewer
than there were. -/
structure Reading (α : Type) (ts : List Lexeme) where
  node : α
  rest : List Lexeme
  shorter : rest.length < ts.length

/-- A reading of a tail is a reading of the whole. -/
def Reading.weaken {α : Type} {ts us : List Lexeme} (r : Reading α us)
    (h : us.length ≤ ts.length) : Reading α ts :=
  ⟨r.node, r.rest, Nat.lt_of_lt_of_le r.shorter h⟩

/-- The tokens behind the first are fewer. -/
theorem shorter_cons {t : Lexeme} {rest : List Lexeme} : rest.length < (t :: rest).length :=
  Nat.lt_succ_self rest.length

theorem shorter_cons_cons {t u : Lexeme} {rest : List Lexeme} :
    rest.length < (t :: u :: rest).length :=
  Nat.lt_trans shorter_cons shorter_cons

private abbrev expectMark (m : Mark) : Expected := .token (.mark m)

private abbrev expectKeyword (k : Keyword) : Expected := .token (.keyword k)

mutual

/-- Reads one expression. -/
def readExpr : (ts : List Lexeme) → Except Stop (Reading (Located Expr) ts)
  | ⟨.string s, span⟩ :: rest => .ok ⟨⟨.literal (.string s), span⟩, rest, shorter_cons⟩
  | ⟨.color c, span⟩ :: rest => .ok ⟨⟨.literal (.string c), span⟩, rest, shorter_cons⟩
  | ⟨.keyword .trueWord, span⟩ :: rest => .ok ⟨⟨.literal (.bool true), span⟩, rest, shorter_cons⟩
  | ⟨.keyword .falseWord, span⟩ :: rest => .ok ⟨⟨.literal (.bool false), span⟩, rest, shorter_cons⟩
  | ⟨.keyword .nullWord, span⟩ :: rest => .ok ⟨⟨.literal .null, span⟩, rest, shorter_cons⟩
  | ⟨.int n, span⟩ :: rest => .ok ⟨⟨.literal (.int n), span⟩, rest, shorter_cons⟩
  | ⟨.float x, span⟩ :: rest => .ok ⟨⟨.literal (.float x), span⟩, rest, shorter_cons⟩
  | ⟨.ident name, span⟩ :: rest => .ok ⟨⟨.name name, span⟩, rest, shorter_cons⟩
  | ⟨.mark .minus, sign⟩ :: ⟨.int n, span⟩ :: rest =>
    .ok ⟨⟨.literal (.int (-n)), ⟨sign.start, span.stop⟩⟩, rest, shorter_cons_cons⟩
  | ⟨.mark .minus, sign⟩ :: ⟨.float x, span⟩ :: rest =>
    .ok ⟨⟨.literal (.float (-x)), ⟨sign.start, span.stop⟩⟩, rest, shorter_cons_cons⟩
  -- a sign must be followed by a number, which is never listed
  | ⟨.mark .minus, _⟩ :: rest => .error ⟨rest, []⟩
  | ⟨.mark .bracketOpen, span⟩ :: rest =>
    match readItems rest with
    | .error stop => .error stop
    | .ok ⟨(items, stop), after, h⟩ =>
      .ok ⟨⟨.list items, ⟨span.start, stop⟩⟩, after, Nat.lt_trans h shorter_cons⟩
  | ts => .error ⟨ts, [expectMark .minus, expectMark .bracketOpen]⟩
termination_by ts => (ts.length, 0)
decreasing_by exact Prod.Lex.left _ _ shorter_cons

/-- Reads the items of a list and its closing bracket, from a place where an item
or the bracket may stand. Gives the items and the end of the bracket. -/
def readItems : (ts : List Lexeme) → Except Stop (Reading (List (Located Expr) × Nat) ts)
  | ⟨.mark .bracketClose, span⟩ :: rest => .ok ⟨([], span.stop), rest, shorter_cons⟩
  | ts =>
    match readExpr ts with
    | .error stop =>
      if stop.rest.length = ts.length then
        .error ⟨stop.rest, stop.expected ++ [expectMark .bracketClose]⟩
      else .error stop
    | .ok ⟨item, rest, h⟩ =>
      match rest, h with
      | ⟨.mark .bracketClose, span⟩ :: after, h =>
        .ok ⟨([item], span.stop), after, Nat.lt_trans shorter_cons h⟩
      | ⟨.mark .comma, _⟩ :: more, h =>
        match readItems more with
        | .error stop => .error stop
        | .ok ⟨(items, stop), after, h'⟩ =>
          .ok ⟨(item :: items, stop), after, Nat.lt_trans h' (Nat.lt_trans shorter_cons h)⟩
      | rest, _ => .error ⟨rest, [expectMark .comma, expectMark .bracketClose]⟩
termination_by ts => (ts.length, 1)
decreasing_by
  · exact Prod.Lex.right _ Nat.zero_lt_one
  · exact Prod.Lex.left _ _ (Nat.lt_trans shorter_cons h)

end

/-! ## Properties and components -/

/-- Reads the name and the initializer of a property that began at `start`. -/
def readPropertyTail (start : Nat) (required : Bool) :
    (ts : List Lexeme) → Except Stop (Reading (Located Property) ts)
  | ⟨.ident name, nameSpan⟩ :: ⟨.mark .colon, _⟩ :: rest =>
    match readExpr rest with
    | .error stop => .error stop
    | .ok ⟨init, after, h⟩ =>
      .ok ⟨⟨⟨⟨name, nameSpan⟩, required, some init⟩, ⟨start, init.span.stop⟩⟩, after,
        Nat.lt_trans h shorter_cons_cons⟩
  | ⟨.ident name, nameSpan⟩ :: rest =>
    .ok ⟨⟨⟨⟨name, nameSpan⟩, required, none⟩, ⟨start, nameSpan.stop⟩⟩, rest, shorter_cons⟩
  | ts => .error ⟨ts, []⟩

/-- Reads one property. -/
def readProperty : (ts : List Lexeme) → Except Stop (Reading (Located Property) ts)
  | ⟨.keyword .required, span⟩ :: ⟨.keyword .property, _⟩ :: rest =>
    (readPropertyTail span.start true rest).map fun r =>
      r.weaken (Nat.le_of_lt shorter_cons_cons)
  | ⟨.keyword .required, _⟩ :: rest => .error ⟨rest, [expectKeyword .property]⟩
  | ⟨.keyword .property, span⟩ :: rest =>
    (readPropertyTail span.start false rest).map fun r => r.weaken (Nat.le_of_lt shorter_cons)
  | ts => .error ⟨ts, [expectKeyword .required, expectKeyword .property]⟩

/-- Reads properties up to the closing brace. `colon` tells whether the property
just read could still take an initializer. -/
def readProperties (colon : Bool) :
    List Lexeme → Except Stop (List (Located Property) × List Lexeme)
  | ⟨.mark .braceClose, _⟩ :: rest => .ok ([], rest)
  | ts =>
    match readProperty ts with
    | .error stop =>
      -- nothing was read, so the closing brace could have come as well
      if stop.rest.length = ts.length then
        .error ⟨stop.rest,
          (if colon then [expectMark .colon] else []) ++ stop.expected ++ [expectMark .braceClose]⟩
      else .error stop
    | .ok ⟨property, rest, _⟩ =>
      match readProperties property.node.init.isNone rest with
      | .error stop => .error stop
      | .ok (properties, after) => .ok (property :: properties, after)
termination_by ts => ts.length

/-- Reads a component and nothing after it. -/
def readComponent : List Lexeme → Except Stop Component
  | ⟨.keyword .item, _⟩ :: rest => readNamed .item rest
  | ⟨.keyword .object, _⟩ :: rest => readNamed .object rest
  | ts => .error ⟨ts, []⟩
where
  /-- Reads on after the kind. -/
  readNamed (kind : ComponentKind) : List Lexeme → Except Stop Component
    | ⟨.ident name, span⟩ :: rest =>
      match rest with
      | ⟨.mark .braceOpen, _⟩ :: body =>
        match readProperties false body with
        | .error stop => .error stop
        | .ok (properties, []) => .ok ⟨kind, ⟨name, span⟩, properties⟩
        | .ok (_, rest) => .error ⟨rest, [.endOfInput]⟩
      | _ => .error ⟨rest, [expectMark .braceOpen]⟩
    | ts => .error ⟨ts, []⟩

/-! ## From the source -/

/-- The place of an error. At the end of the source it starts at the source's end
and stops at the end of the last token, which comes before it if anything but a
token ends the source. -/
def Stop.span (stop : Stop) (sourceLength : Nat) (all : List Lexeme) : Span :=
  match stop.rest with
  | t :: _ => t.span
  | [] => ⟨sourceLength, (all.getLast?.map fun t => t.span.stop).getD sourceLength⟩

/-- The component that a source declares. -/
def parse (source : String) : Except SyntaxError Component :=
  let all := lexemes source
  match readComponent all with
  | .ok component => .ok component
  | .error stop =>
    .error ⟨stop.span (byteLength source.toList) all, stop.rest.head?.map Located.node,
      stop.expected⟩

end SceneFactory.Markup
