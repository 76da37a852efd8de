import CommandLine.Presentation

/-!
# Command-line grammars

A grammar describes what one parser accepts: its options (each with one or more option
strings), its positional arguments, the characters that mark an option, and whether long
options may be abbreviated. It also holds what its help page shows: the program name, an
explicit usage line if any, a description, listing sections and a closing text.

The front end uses two levels of grammar: the top level, whose one positional is the
command (which hands the rest of the line to the command's own grammar), and one grammar
per command.

## Arities

A positional takes a number of argument strings:

* `one`: exactly one;
* `any`: any number, including none;
* `rest`: everything that is left, options included;
* `command`: one command name, then everything that is left.

Options here take either no argument (`help`, `version`, `flag`) or exactly one
(`choice`).
-/

namespace CommandLine.Matching

/-- How many argument strings a positional takes. -/
inductive Arity where
  | one
  | any
  | rest
  | command
  deriving DecidableEq, Repr, Inhabited

/-- What an option does when matched. -/
inductive OptionEffect where
  /-- Prints the help page and exits. -/
  | help
  /-- Prints the text and exits. -/
  | version (text : String)
  /-- Stores true. -/
  | flag (dest : String)
  /-- Stores one argument taken from the choices, and remembers it as the color choice. -/
  | choice (dest : String) (choices : List String)
  deriving DecidableEq, Repr, Inhabited

/-- An option: its option strings and what it does. `help` is its help line, if any. -/
structure OptionSpec where
  strings : List String
  effect : OptionEffect
  help : Option String := none
  deriving DecidableEq, Repr, Inhabited

/-- Whether a positional shows in help: not at all, without a help text, or with one. -/
inductive HelpLine where
  | hidden
  | bare
  | text (s : String)
  deriving DecidableEq, Repr, Inhabited

/-- A positional argument. -/
structure PositionalSpec where
  dest : String
  metavar : String
  arity : Arity
  help : HelpLine := .bare
  deriving DecidableEq, Repr, Inhabited

/-- A parser's grammar and help page. -/
structure Grammar where
  prog : String
  /-- An explicit usage line, after the program name. -/
  usage : Option String := none
  description : Option Value := none
  epilog : Option String := none
  prefixChars : List Char := ['-']
  allowAbbrev : Bool := true
  options : List OptionSpec := []
  positionals : List PositionalSpec := []
  /-- Values set after parsing starts, besides the arguments' own defaults. -/
  defaults : List (String × Value) := []
  /-- Listing sections of the help page: heading and rows. -/
  sections : List (String × List String) := []
  /-- Names a mistyped command is compared with. -/
  listedNames : List String := []
  /-- Every name the command positional accepts, in registration order. -/
  commandNames : List String := []
  styles : Styles := {}
  deriving Inhabited

namespace OptionSpec

/-- How many argument strings an option takes. -/
def arity (o : OptionSpec) : Nat :=
  match o.effect with
  | .choice .. => 1
  | _ => 0

def name (o : OptionSpec) : String := "/".intercalate o.strings

/-- The destination an option stores into, if any. -/
def dest? (o : OptionSpec) : Option String :=
  match o.effect with
  | .flag d | .choice d _ => some d
  | _ => none

/-- The default an option puts in a fresh namespace, if any. -/
def default? (o : OptionSpec) : Option (String × Value) :=
  match o.effect with
  | .flag d => some (d, .bool false)
  | .choice d _ => some (d, .none)
  | _ => none

end OptionSpec

namespace Grammar

def optionTable (g : Grammar) : List (String × OptionSpec) :=
  g.options.flatMap fun o => o.strings.map fun s => (s, o)

def optionFor? (g : Grammar) (s : String) : Option OptionSpec :=
  (g.optionTable.find? (·.1 == s)).map (·.2)

def isPrefix (g : Grammar) (c : Char) : Bool := g.prefixChars.contains c

/-- The namespace a parse starts from: the defaults of the options, then of the positionals
(nothing), then the grammar's own defaults. -/
def initialNamespace (g : Grammar) : List (String × Value) :=
  g.options.filterMap OptionSpec.default? ++ g.positionals.map (fun p => (p.dest, .none)) ++
    g.defaults

end Grammar

end CommandLine.Matching
