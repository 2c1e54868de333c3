import SceneFactory.Assoc
import SceneFactory.Number.Binary64

/-!
# Attribute values

The dynamically typed values that components take as attributes and hold as
properties, and the rule that says which value may overwrite which
(`Value.accepts`). Two notions of equality stand side by side: equality as data
(`DecidableEq`), which sees the order of a map and the bits of a number, and
equality of contents (`Value.same`), which does not.
-/

namespace SceneFactory

/-- A value of an attribute. The entries of a map stand in the order in which
their keys came in. -/
inductive Value where
  | null
  | bool (b : Bool)
  | int (n : Int64)
  | float (x : Binary64)
  | string (s : String)
  | list (items : List Value)
  | map (entries : List (String × Value))
deriving Inhabited

namespace Value

/-! ## Equality as data -/

mutual

/-- Decides equality as data. -/
def decEq : (v w : Value) → Decidable (v = w)
  | .null, .null => isTrue rfl
  | .bool a, .bool b =>
    if h : a = b then isTrue (h ▸ rfl) else isFalse fun e => h (by injection e)
  | .int a, .int b =>
    if h : a = b then isTrue (h ▸ rfl) else isFalse fun e => h (by injection e)
  | .float a, .float b =>
    if h : a = b then isTrue (h ▸ rfl) else isFalse fun e => h (by injection e)
  | .string a, .string b =>
    if h : a = b then isTrue (h ▸ rfl) else isFalse fun e => h (by injection e)
  | .list a, .list b =>
    match decEqItems a b with
    | isTrue h => isTrue (h ▸ rfl)
    | isFalse h => isFalse fun e => h (by injection e)
  | .map a, .map b =>
    match decEqEntries a b with
    | isTrue h => isTrue (h ▸ rfl)
    | isFalse h => isFalse fun e => h (by injection e)
  | .null, .bool _ | .null, .int _ | .null, .float _ | .null, .string _ | .null, .list _
  | .null, .map _ | .bool _, .null | .bool _, .int _ | .bool _, .float _ | .bool _, .string _
  | .bool _, .list _ | .bool _, .map _ | .int _, .null | .int _, .bool _ | .int _, .float _
  | .int _, .string _ | .int _, .list _ | .int _, .map _ | .float _, .null | .float _, .bool _
  | .float _, .int _ | .float _, .string _ | .float _, .list _ | .float _, .map _
  | .string _, .null | .string _, .bool _ | .string _, .int _ | .string _, .float _
  | .string _, .list _ | .string _, .map _ | .list _, .null | .list _, .bool _ | .list _, .int _
  | .list _, .float _ | .list _, .string _ | .list _, .map _ | .map _, .null | .map _, .bool _
  | .map _, .int _ | .map _, .float _ | .map _, .string _ | .map _, .list _ =>
    isFalse fun e => by cases e

/-- Decides equality of lists of values. -/
def decEqItems : (vs ws : List Value) → Decidable (vs = ws)
  | [], [] => isTrue rfl
  | v :: vs, w :: ws =>
    match decEq v w, decEqItems vs ws with
    | isTrue h, isTrue hs => isTrue (h ▸ hs ▸ rfl)
    | isFalse h, _ => isFalse fun e => h (by injection e)
    | _, isFalse hs => isFalse fun e => hs (by injection e)
  | [], _ :: _ => isFalse fun e => by cases e
  | _ :: _, [] => isFalse fun e => by cases e

/-- Decides equality of lists of entries. -/
def decEqEntries : (vs ws : List (String × Value)) → Decidable (vs = ws)
  | [], [] => isTrue rfl
  | (k, v) :: vs, (j, w) :: ws =>
    if hk : k = j then
      match decEq v w, decEqEntries vs ws with
      | isTrue h, isTrue hs => isTrue (hk ▸ h ▸ hs ▸ rfl)
      | isFalse h, _ => isFalse fun e => h (by injection e with e _; injection e)
      | _, isFalse hs => isFalse fun e => hs (by injection e)
    else isFalse fun e => hk (by injection e with e _; injection e)
  | [], _ :: _ => isFalse fun e => by cases e
  | _ :: _, [] => isFalse fun e => by cases e

end

instance : DecidableEq Value := decEq

/-! ## Kinds of values -/

/-- Short name of the value's type. -/
def typeName : Value → String
  | .null => "null"
  | .bool _ => "bool"
  | .int _ => "int"
  | .float _ => "float"
  | .string _ => "string"
  | .list _ => "list"
  | .map _ => "map"

/-- Whether the value is null. -/
def isNull : Value → Bool
  | .null => true
  | _ => false

/-- The text of a string value. -/
def string? : Value → Option String
  | .string s => some s
  | _ => none

/-- The number of an integer value. -/
def int? : Value → Option Int64
  | .int n => some n
  | _ => none

/-- Whether a slot that holds the first value may be overwritten with the
second: null goes with everything, the two kinds of numbers go with each other,
and all else needs the same kind. -/
def accepts : Value → Value → Bool
  | .null, _ | _, .null => true
  | .int _, .int _ | .int _, .float _ | .float _, .int _ | .float _, .float _ => true
  | .bool _, .bool _ | .string _, .string _ | .list _, .list _ | .map _, .map _ => true
  | _, _ => false

/-! ## Equality of contents -/

mutual

/-- Equality of contents: numbers compare as numbers of their own kind, so the
zeros are equal and a NaN equals nothing, and maps compare without regard to
order. -/
def same : Value → Value → Bool
  | .null, .null => true
  | .bool a, .bool b => a == b
  | .int a, .int b => a == b
  | .float a, .float b => a.equal b
  | .string a, .string b => a == b
  | .list a, .list b => sameItems a b
  | .map a, .map b => a.length == b.length && sameEntries a b
  | _, _ => false

/-- Equality of lists, item by item. -/
def sameItems : List Value → List Value → Bool
  | [], [] => true
  | v :: vs, w :: ws => same v w && sameItems vs ws
  | _, _ => false

/-- Whether each entry has an equal one under its key in another map. -/
def sameEntries : List (String × Value) → List (String × Value) → Bool
  | [], _ => true
  | (k, v) :: vs, ws =>
    (match Assoc.find k ws with
      | some w => same v w
      | none => false) && sameEntries vs ws

end

/-- The map with the given entries; a repeated key keeps its first place and has
its last value. -/
def ofEntries (es : List (String × Value)) : Value := .map (Assoc.ofList es).entries

/-! ## Laws -/

/-- Acceptance does not depend on the direction. -/
theorem accepts_comm (v w : Value) : v.accepts w = w.accepts v := by
  cases v <;> cases w <;> rfl

/-- A null slot takes everything. -/
@[simp] theorem null_accepts (v : Value) : null.accepts v = true := by
  cases v <;> rfl

/-- Null may be written everywhere. -/
@[simp] theorem accepts_null (v : Value) : v.accepts null = true := by
  cases v <;> rfl

/-- Every value may overwrite itself. -/
@[simp] theorem accepts_self (v : Value) : v.accepts v = true := by
  cases v <;> rfl

end Value

end SceneFactory
