import CommandLine.Value.Show

/-!
# Faults: what a step can raise

A step of the front end ends either with a result or with a fault. Faults come in four
kinds:

* `CliError`: the front end's own errors. Each has a kind (usage, command, configuration,
  internal, …), a one-line message, a context of named values and a list of suggestions.
  Its text is the message, then `Context:` with one `key: value` line per entry, then
  `Suggestions:` with one `- s` line per suggestion.
* `runtime`: an error of the language runtime underneath (a missing attribute, a value of
  the wrong type, a key that is not there, undecodable bytes, …), with the runtime's text.
* `exit`: a request to end the process with a code.
* `interrupt`: the user interrupted the process.

The class names these faults print under are part of the output (`Error: TypeError: …`),
so each kind knows its name and the module that defines it.

## Main definitions

* `CliError.text`: the full text of a front-end error.
* `Fault.format`: the one-paragraph report (`Internal error: `, `Error: `, or
  `Error: Class: `).
* `Fault.traceback`: the report printed in verbose mode.
-/

namespace CommandLine

/-- The kinds of the front end's own errors. -/
inductive ErrorKind where
  /-- The base kind, raised as is by handlers. -/
  | general
  /-- The command line could not be matched. -/
  | usage
  /-- A command handler failed. -/
  | command
  /-- A configuration file or the feature list is unusable. -/
  | config
  /-- The catalog, schema and dispatcher disagree (a defect). -/
  | internal
  /-- The catalog failed its consistency check. -/
  | catalog
  /-- A matched command line names a command the schema does not know. -/
  | unknownCommand
  /-- A command reached dispatch without a handler. -/
  | dispatch
  deriving DecidableEq, Repr, Inhabited

namespace ErrorKind

/-- The class name of an error kind. -/
def className : ErrorKind → String
  | .general => "JjCliError"
  | .usage => "UsageError"
  | .command => "CommandError"
  | .config => "ConfigError"
  | .internal => "InternalError"
  | .catalog => "CatalogError"
  | .unknownCommand => "UnknownCommandError"
  | .dispatch => "DispatchError"

/-- Internal kinds are defects of the build rather than of the input. -/
def isInternal : ErrorKind → Bool
  | .internal | .catalog | .unknownCommand | .dispatch => true
  | _ => false

def all : List ErrorKind :=
  [.general, .usage, .command, .config, .internal, .catalog, .unknownCommand, .dispatch]

def ofClassName? (name : String) : Option ErrorKind :=
  all.find? (·.className == name)

end ErrorKind

/-- An error of the front end. `usage` is the usage line of the parser that rejected the
input (usage errors only); `cause` is the class and text of the error this one was raised
from, if any. -/
structure CliError where
  kind : ErrorKind
  message : String
  context : List (String × Value) := []
  suggestions : List Value := []
  usage : Option String := none
  cause : Option (String × String) := none
  deriving Inhabited

namespace CliError

/-- The full text: message, then the context block, then the suggestions block. -/
def text (e : CliError) : String :=
  let contextBlock :=
    if e.context.isEmpty then ""
    else "\n\nContext:" ++ String.join (e.context.map fun (k, v) => "\n  " ++ k ++ ": " ++ v.display)
  let suggestionBlock :=
    if e.suggestions.isEmpty then ""
    else "\n\nSuggestions:" ++ String.join (e.suggestions.map fun s => "\n  - " ++ s.display)
  e.message ++ contextBlock ++ suggestionBlock

end CliError

/-- Errors of the runtime underneath the front end, by class. -/
inductive RuntimeKind where
  | attribute
  | type
  | key
  | value
  | runtime
  | generic
  | moduleNotFound
  | unicodeDecode
  | recursion
  deriving DecidableEq, Repr, Inhabited

/-- The class name of a runtime error. -/
def RuntimeKind.className : RuntimeKind → String
  | .attribute => "AttributeError"
  | .type => "TypeError"
  | .key => "KeyError"
  | .value => "ValueError"
  | .runtime => "RuntimeError"
  | .generic => "Exception"
  | .moduleNotFound => "ModuleNotFoundError"
  | .unicodeDecode => "UnicodeDecodeError"
  | .recursion => "RecursionError"

def RuntimeKind.ofClassName? (name : String) : Option RuntimeKind :=
  [RuntimeKind.attribute, .type, .key, .value, .runtime, .generic, .moduleNotFound,
    .unicodeDecode, .recursion].find? (·.className == name)

/-- What a step can raise. -/
inductive Fault where
  | cli (e : CliError)
  | runtime (kind : RuntimeKind) (message : String)
  /-- A request to exit with the given code (`none` when no code was given). -/
  | exit (code : Value)
  | interrupt
  deriving Inhabited

namespace Fault

def errorModule : String := "jj_cli.exceptions"

/-- The class name of a fault. -/
def className : Fault → String
  | .cli e => e.kind.className
  | .runtime k _ => k.className
  | .exit _ => "SystemExit"
  | .interrupt => "KeyboardInterrupt"

/-- The class name with its defining module, as tracebacks show it (built-in classes
without one). -/
def qualifiedName : Fault → String
  | .cli e => errorModule ++ "." ++ e.kind.className
  | f => f.className

/-- The text of a fault. -/
def text : Fault → String
  | .cli e => e.text
  | .runtime _ m => m
  | .exit code =>
    match code with
    | .none => ""
    | c => c.display
  | .interrupt => ""

/-- Whether a fault is an internal error (a defect). -/
def isInternal : Fault → Bool
  | .cli e => e.kind.isInternal
  | _ => false

/-- The plain one-paragraph report of a fault. -/
def format (f : Fault) : String :=
  match f with
  | .cli e => (if e.kind.isInternal then "Internal error: " else "Error: ") ++ e.text
  | _ => "Error: " ++ f.className ++ ": " ++ f.text

/-- The last line of a traceback: the qualified class name, then the text when there is
one. -/
def finalLine (name text : String) : String :=
  if text.isEmpty then name ++ "\n" else name ++ ": " ++ text ++ "\n"

def tracebackHeader : String := "Traceback (most recent call last):\n"

/-- The verbose report of a raised fault: the traceback of the error it was raised from,
if any, then its own, each with its frames left out. The frames, one per call the fault
passed through with its file, line and source, depend on the call stack rather than on the
fault, so runs that raise alike through different calls print these reports alike; a
statement comparing the tracebacks of such runs is not about the program. -/
def traceback (f : Fault) : String :=
  let own := tracebackHeader ++ finalLine f.qualifiedName f.text
  match f with
  | .cli { cause := some (name, text), .. } =>
    tracebackHeader ++ finalLine name text ++
      "\nThe above exception was the direct cause of the following exception:\n\n" ++ own
  | _ => own

/-! ## Runtime errors with fixed texts -/

def unhashable (v : Value) : Fault :=
  .runtime .type ("unhashable type: '" ++ v.typeName ++ "'")

def notIterable (v : Value) : Fault :=
  .runtime .type ("'" ++ v.typeName ++ "' object is not iterable")

def missingAttribute (owner field : String) : Fault :=
  .runtime .attribute (owner ++ " has no attribute '" ++ field ++ "'")

def notCallable (v : Value) : Fault :=
  .runtime .type ("'" ++ v.typeName ++ "' object is not callable")

/-- Reading a whole number from a text that is not one: the text's literal, cut to 200
characters. -/
def notWhole (text : String) : Fault :=
  .runtime .value ("invalid literal for int() with base 10: " ++ String.ofList ((Text.quote text).toList.take 200))

/-- Reading a whole number from more decimal digits than `digitLimit`. -/
def digitsToRead (count : Nat) : Fault :=
  .runtime .value ("Exceeds the limit (" ++ toString digitLimit ++
    " digits) for integer string conversion: value has " ++ toString count ++
    " digits; use sys.set_int_max_str_digits() to increase the limit")

/-- Writing a whole number of more decimal digits than `digitLimit`. -/
def digitsToWrite : Fault :=
  .runtime .value ("Exceeds the limit (" ++ toString digitLimit ++
    " digits) for integer string conversion; use sys.set_int_max_str_digits() to increase the limit")

/-- Reading a key that is not there: the text is the key's literal. -/
def missingKey (key : Value) : Fault :=
  .runtime .key key.literal

end Fault

/-- The items of a value iterated over: the items of a list, the characters of a text, the
keys of a table; other values cannot be iterated. -/
def Value.iterate (v : Value) : Except Fault (List Value) :=
  match v with
  | .list items => pure items
  | .str s => pure (s.toList.map fun c => .str (String.singleton c))
  | .table entries => pure (entries.map fun (k, _) => .str k)
  | _ => throw (Fault.notIterable v)

def Value.displayChecked (v : Value) : Except Fault String :=
  if v.writable then pure v.display else throw Fault.digitsToWrite

def Value.literalChecked (v : Value) : Except Fault String :=
  if v.writable then pure v.literal else throw Fault.digitsToWrite

end CommandLine
