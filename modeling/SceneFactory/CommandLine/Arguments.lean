import SceneFactory.Text.Terminal

/-!
# Arguments of the command line

Options take their value from the next argument, or from the same one (`--base=x`,
`-bx`, `-b=x`); short flags may stand together (`-gv`); behind `--` nothing is an
option. An option whose value stands in the next argument waits for it, and is
settled when the next argument of any kind is taken up: a fault in it is found only
then, and not at all if that argument is refused for its own sake.
-/

namespace SceneFactory.CommandLine

open Text (setOff)

/-! ## Options -/

/-- The options of the program. -/
inductive OptionName where
  | config
  | base
  | root
  | attrs
  | async
  | grammar
  | verbose
  | help
deriving DecidableEq, Inhabited

namespace OptionName

/-- All options, in the order in which the help lists them. -/
def all : List OptionName := [.config, .base, .root, .attrs, .async, .grammar, .verbose, .help]

/-- The long name. -/
def long : OptionName → String
  | .config => "config"
  | .base => "base"
  | .root => "root"
  | .attrs => "attrs"
  | .async => "async"
  | .grammar => "grammar"
  | .verbose => "verbose"
  | .help => "help"

/-- The short name. -/
def short? : OptionName → Option Char
  | .config => some 'c'
  | .base => some 'b'
  | .root => some 'r'
  | .attrs => some 'a'
  | .async => none
  | .grammar => some 'g'
  | .verbose => some 'v'
  | .help => some 'h'

/-- What the value is called, if the option takes one. -/
def valueName? : OptionName → Option String
  | .config => some "CONFIG"
  | .base => some "BASE"
  | .root => some "ROOT"
  | .attrs => some "ATTRS"
  | _ => none

/-- Whether the option takes a value. -/
def takesValue (o : OptionName) : Bool := o.valueName?.isSome

/-- How the option is written, with its value. -/
def usage (o : OptionName) : String :=
  "--" ++ o.long ++ (match o.valueName? with
    | some name => " <" ++ name ++ ">"
    | none => "")

/-- What the option is for. -/
def purpose : OptionName → String
  | .config => "Factory config file (TOML format)"
  | .base => "Base path for relative template identifiers"
  | .root => "Map a URI prefix to a directory, as PREFIX=DIR"
  | .attrs => "Attribute file with [context], [direct] and optional [batch] tables"
  | .async => "Compile asynchronously and wait on the event queue"
  | .grammar => "Show markup grammar reference"
  | .verbose => "Log every construction step"
  | .help => "Print help"

/-- The option of a long name. -/
def ofLong? (name : String) : Option OptionName := all.find? fun o => o.long = name

/-- The option of a short name. -/
def ofShort? (c : Char) : Option OptionName := all.find? fun o => o.short? = some c

end OptionName

/-! ## Faults -/

/-- Why arguments are refused, or that help was asked for. -/
inductive Refusal where
  | unexpectedArgument (argument : String)
  | unexpectedValue (value : String) (o : OptionName)
  | missingValue (o : OptionName)
  | repeated (o : OptionName)
  | invalidValue (value : String) (o : OptionName) (reason : String)
  | helpWanted
deriving DecidableEq, Inhabited

/-- The wording of a refusal, for a terminal: what was given is set off, but not where a
reason repeats it. -/
def Refusal.message : Refusal → String
  | .unexpectedArgument argument => "unexpected argument '" ++ setOff argument ++ "' found"
  | .unexpectedValue value o =>
    "unexpected value '" ++ setOff value ++ "' for '" ++ setOff o.usage ++
      "' found; no more were expected"
  | .missingValue o => "a value is required for '" ++ setOff o.usage ++ "' but none was supplied"
  | .repeated o => "the argument '" ++ setOff o.usage ++ "' cannot be used multiple times"
  | .invalidValue value o reason =>
    "invalid value '" ++ setOff value ++ "' for '" ++ setOff o.usage ++ "': " ++ reason
  | .helpWanted => "help"

/-- Whether the usage is shown with a refusal: not if the option is right and its value is
missing or wrong. -/
def Refusal.showsUsage : Refusal → Bool
  | .missingValue _ | .invalidValue .. => false
  | _ => true

/-! ## What was asked for -/

/-- What the arguments ask for. -/
structure Arguments where
  template? : Option String
  config? : Option String
  base? : Option String
  /-- URI beginnings with their directories. -/
  roots : List (String × String)
  attrs? : Option String
  isAsync : Bool
  isGrammar : Bool
  isVerbose : Bool
deriving DecidableEq, Inhabited

/-- Splits a root into the beginning of URIs and the directory at the first equals
sign; neither may be empty. -/
def splitRoot? (text : String) : Option (String × String) :=
  let beginning := text.toList.takeWhile (· ≠ '=')
  match text.toList.dropWhile (· ≠ '=') with
  | _ :: c :: cs =>
    if beginning.isEmpty then none else some (String.ofList beginning, String.ofList (c :: cs))
  | _ => none

namespace Arguments

/-- No arguments. -/
def empty : Arguments := ⟨none, none, none, [], none, false, false, false⟩

/-- The arguments with a template. -/
def withTemplate (a : Arguments) (template : String) : Arguments :=
  ⟨some template, a.config?, a.base?, a.roots, a.attrs?, a.isAsync, a.isGrammar, a.isVerbose⟩

/-- Takes in the value of an option. -/
def setValue (a : Arguments) (o : OptionName) (value : String) : Except Refusal Arguments :=
  match o with
  | .config =>
    if a.config?.isSome then .error (.repeated o)
    else if value = "" then .error (.missingValue o)
    else .ok ⟨a.template?, some value, a.base?, a.roots, a.attrs?, a.isAsync, a.isGrammar,
      a.isVerbose⟩
  | .base =>
    if a.base?.isSome then .error (.repeated o)
    else .ok ⟨a.template?, a.config?, some value, a.roots, a.attrs?, a.isAsync, a.isGrammar,
      a.isVerbose⟩
  | .attrs =>
    if a.attrs?.isSome then .error (.repeated o)
    else if value = "" then .error (.missingValue o)
    else .ok ⟨a.template?, a.config?, a.base?, a.roots, some value, a.isAsync, a.isGrammar,
      a.isVerbose⟩
  | .root =>
    match splitRoot? value with
    | some root => .ok ⟨a.template?, a.config?, a.base?, a.roots ++ [root], a.attrs?, a.isAsync,
        a.isGrammar, a.isVerbose⟩
    | none => .error (.invalidValue value o ("expected PREFIX=DIR, got '" ++ value ++ "'"))
  | _ => .error (.unexpectedValue value o)

/-- Takes in a flag. -/
def setFlag (a : Arguments) (o : OptionName) : Except Refusal Arguments :=
  match o with
  | .async =>
    if a.isAsync then .error (.repeated o)
    else .ok ⟨a.template?, a.config?, a.base?, a.roots, a.attrs?, true, a.isGrammar, a.isVerbose⟩
  | .grammar =>
    if a.isGrammar then .error (.repeated o)
    else .ok ⟨a.template?, a.config?, a.base?, a.roots, a.attrs?, a.isAsync, true, a.isVerbose⟩
  | .verbose =>
    if a.isVerbose then .error (.repeated o)
    else .ok ⟨a.template?, a.config?, a.base?, a.roots, a.attrs?, a.isAsync, a.isGrammar, true⟩
  | .help => .error .helpWanted
  | _ => .error (.missingValue o)

end Arguments

/-! ## Reading -/

/-- The arguments taken in so far, and the option that is not settled yet, with the
value that it has got. -/
structure Reading where
  taken : Arguments
  unsettled? : Option (OptionName × Option String)
  /-- Whether `--` has come. -/
  isOver : Bool

namespace Reading

/-- Nothing read. -/
def start : Reading := ⟨.empty, none, false⟩

/-- Settles the option that is not settled yet. -/
def settle (r : Reading) : Except Refusal Reading :=
  match r.unsettled? with
  | none => .ok r
  | some (o, none) => .error (.missingValue o)
  | some (o, some value) => (r.taken.setValue o value).map fun taken => ⟨taken, none, r.isOver⟩

/-- Takes in an option with its value. -/
def give (r : Reading) (o : OptionName) (value : String) : Except Refusal Reading := do
  let r ← r.settle
  return ⟨← r.taken.setValue o value, none, r.isOver⟩

/-- Takes in an option whose value comes next. -/
def await (r : Reading) (o : OptionName) : Except Refusal Reading := do
  let r ← r.settle
  return ⟨r.taken, some (o, none), r.isOver⟩

/-- Takes in a flag. -/
def flag (r : Reading) (o : OptionName) : Except Refusal Reading := do
  let r ← r.settle
  return ⟨← r.taken.setFlag o, none, r.isOver⟩

/-- Takes in an argument that is no option. -/
def plain (r : Reading) (argument : String) : Except Refusal Reading :=
  match r.isOver, r.unsettled? with
  | false, some (o, none) => .ok ⟨r.taken, some (o, some argument), r.isOver⟩
  | _, _ =>
    -- refused before the option that waits is settled
    if r.taken.template?.isSome then .error (.unexpectedArgument argument)
    else r.settle.map fun r => ⟨r.taken.withTemplate argument, none, r.isOver⟩

/-- Takes in short options that stand together. -/
def cluster (r : Reading) : List Char → Except Refusal Reading
  | [] => .ok r
  | c :: rest =>
    match OptionName.ofShort? c with
    | none => .error (.unexpectedArgument (String.ofList ['-', c]))
    | some o =>
      if o.takesValue then
        match rest with
        | [] => r.await o
        -- one equals sign belongs to the spelling, not to the value
        | '=' :: value => r.give o (String.ofList value)
        | value => r.give o (String.ofList value)
      else
        match r.flag o with
        | .error e => .error e
        | .ok r => r.cluster rest

/-- Takes in a long option, given by what stands behind the two dashes. -/
def longOption (r : Reading) (text : List Char) : Except Refusal Reading :=
  let name := String.ofList (text.takeWhile (· ≠ '='))
  let value? := match text.dropWhile (· ≠ '=') with
    | _ :: value => some (String.ofList value)
    | [] => none
  match OptionName.ofLong? name with
  | none => .error (.unexpectedArgument ("--" ++ name))
  | some o =>
    match o.takesValue, value? with
    | true, some value => r.give o value
    | true, none => r.await o
    | false, some value => .error (.unexpectedValue value o)
    | false, none => r.flag o

/-- Takes in one argument. -/
def next (r : Reading) (argument : String) : Except Refusal Reading :=
  if r.isOver then r.plain argument
  else
    match argument.toList with
    | ['-', '-'] => .ok ⟨r.taken, r.unsettled?, true⟩
    | '-' :: '-' :: text => r.longOption text
    | '-' :: c :: text => r.cluster (c :: text)
    | _ => r.plain argument

end Reading

/-- What a list of arguments asks for. -/
def Arguments.parse (arguments : List String) : Except Refusal Arguments := do
  let r ← arguments.foldlM Reading.next .start
  return (← r.settle).taken

end SceneFactory.CommandLine
