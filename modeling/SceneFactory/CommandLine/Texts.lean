import SceneFactory.CommandLine.Arguments

/-!
# Texts of the command line

What the program shows on request, and how refused arguments are reported.
-/

namespace SceneFactory.CommandLine

open Text (setOff plainText)

/-- Lines as a text, each with its end. -/
def textOfLines (lines : List String) : String := String.join (lines.map fun line => line ++ "\n")

/-- The lines shown when nothing is asked for. -/
def introduction : List String :=
  ["NodeLink Factory - instantiate node-graph components from markup templates",
    "",
    "USAGE:",
    "    nodelink-factory [OPTIONS] <TEMPLATE>",
    "",
    "OPTIONS:",
    "    -c, --config       Factory config (TOML file)",
    "    -b, --base         Base path for relative identifiers",
    "    -r, --root         Map a URI prefix to a directory, PREFIX=DIR",
    "    -a, --attrs        Attributes to apply (TOML file)",
    "    --async            Compile through the event queue",
    "    -g, --grammar      Show markup grammar reference",
    "    -v, --verbose      Log every construction step",
    "    -h, --help         Print help",
    "",
    "QUICK START:",
    "    nodelink-factory --base views/ NodeView.tmpl",
    "",
    "Run --grammar for the markup syntax."]

/-- The lines of the reference of the markup grammar. -/
def grammarReference : List String :=
  ["NODELINK MARKUP GRAMMAR",
    "=======================",
    "",
    "COMPONENTS",
    "----------",
    "item <Name> \x7b ... \x7d      Visual component, attachable to a container",
    "object <Name> \x7b ... \x7d    Non-visual component",
    "",
    "PROPERTIES",
    "----------",
    "property <name>                 Declared, starts as null",
    "property <name>: <value>        Declared with an initial value",
    "required property <name>        Must be non-null when construction completes",
    "",
    "VALUES",
    "------",
    "Strings:   \"text\"",
    "Numbers:   42, -3, 2.5",
    "Colors:    #4488ff (stored as a string)",
    "Booleans:  true, false",
    "Null:      null",
    "Lists:     [1, 2, \"three\"]",
    "Context:   heading   (a bare name reads the construction context)",
    "",
    "ATTRIBUTE FILES",
    "---------------",
    "[context]            Written into the construction context first",
    "heading = \"Input\"",
    "",
    "[direct]             Written onto the object before completion",
    "node = 3",
    "",
    "[batch]              One instance per value, written under `key`",
    "key = \"node\"",
    "values = [1, 2, 3]",
    "",
    "COMMENTS",
    "--------",
    "// line comment",
    "/* block comment */"]

/-- The name of the program. -/
def programName : String := "nodelink-factory"

/-- How the program is called. -/
def usage : String := "Usage: " ++ programName ++ " [OPTIONS] [TEMPLATE]"

/-- The columns of an option in the help, before its purpose. -/
def OptionName.column (o : OptionName) : String :=
  (match o.short? with
    | some c => "  -" ++ String.ofList [c] ++ ", "
    | none => "      ") ++ o.usage

/-- A text filled up with blanks to a given length. -/
def filled (text : String) (length : Nat) : String :=
  text ++ String.ofList (List.replicate (length - text.length) ' ')

/-- The lines of the help. -/
def helpLines : List String :=
  ["Instantiate node-graph components from markup templates", "", usage, "", "Arguments:",
    "  [TEMPLATE]  Template identifier, relative to the base path or absolute", "", "Options:"] ++
    OptionName.all.map fun o => filled o.column 25 ++ o.purpose

/-- The lines that report refused arguments, for a terminal. -/
def refusalLines (refusal : Refusal) : List String :=
  [setOff "error:" ++ " " ++ refusal.message, ""] ++
    (if refusal.showsUsage then [usage, ""] else []) ++
    ["For more information, try '" ++ setOff "--help" ++ "'."]

/-- The report of refused arguments, as it is read without a terminal. Control
characters in the arguments take effect on the report as a whole: a sequence that a
reason leaves open takes in what follows. -/
def refusalText (refusal : Refusal) : String := plainText (textOfLines (refusalLines refusal))

end SceneFactory.CommandLine
