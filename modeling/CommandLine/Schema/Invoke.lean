import CommandLine.Schema.Build

/-!
# Matching, decoding and dispatching a command line

Running a command line against a schema takes three steps.

* *Matching* scans the argument vector with the top-level grammar; the command positional
  hands the rest of the line to the chosen command's grammar. The result is a namespace of
  attributes, among them the canonical name of the command.
* *Decoding* turns the namespace into a `Command`: the canonical name, and the arguments
  decoded by the command's argument schema. A namespace that names no enabled command is a
  defect of the caller, reported as an unknown-command error.
* *Dispatching* calls the handler of the command's descriptor with the user interface, the
  invocation context and the arguments; what the handler returns or raises is the result.

The built-in `help` command prints the top-level help, or the help of the command its first
argument names; `version` prints the program name and version.
-/

namespace CommandLine

open Matching

/-- One decoded invocation: the canonical name of a command and its decoded arguments. -/
structure Command where
  name : Value
  args : Args
  deriving Inhabited

/-- A fault of a pure step, raised in an action. -/
def liftFault {α : Type} (r : Except Fault α) : Action α :=
  match r with
  | .ok a => pure a
  | .error f => throw f

namespace Schema

/-! ## Matching -/

/-- Hands the strings after a command name to that command's grammar. -/
def subcommand (s : Schema) (columns : Int) : Subcommand := fun name rest =>
  match (s.names.find? (·.1.same (.str name))).bind fun (_, canonical) =>
      s.grammars.find? (·.1.same canonical) with
  | some (_, g) => g.parseKnown columns noSubcommand rest
  | none => pure ([], rest)

/-- Matches an argument vector against the schema, starting with no color chosen, for
standard output on a terminal or not. Returns the namespace (or why the scan stopped) and
the scan's final state, which remembers the color chosen on the line even when the match
failed. -/
def matchArgs (s : Schema) (columns : Int) (argv : List String) (terminal : Bool) :
    Except Halt Namespace × ScanState :=
  ((s.top.parse columns (s.subcommand columns) argv).run).run { terminal }

/-- The color a help page printed during a match would use: the color chosen on the line,
or `auto`. -/
def colorChoice (state : ScanState) : String := state.color.getD "auto"

/-! ## Decoding -/

/-- The error for a namespace that names no enabled command. -/
def unknownCommand (name : Value) : CliError where
  kind := .unknownCommand
  message := "Matched arguments name a command missing from the schema"
  context := [("command", name)]
  suggestions := List.map .str ["The schema and the parser were built from different catalogs"]

/-- An attribute the namespace must have. -/
def required (ns : Namespace) (key : String) : Except Fault Value :=
  match ns.get? key with
  | some v => pure v
  | none => throw (Fault.missingAttribute "'Namespace' object" key)

/-- The items of an attribute holding a sequence; a missing or false attribute holds none. -/
def itemsOf (v : Value) : Except Fault (List Value) :=
  if v.truthy then v.iterate else pure []

/-- Decodes a namespace by an argument schema. -/
def decodeArgs (kind : ArgsKind) (ns : Namespace) : Except Fault Args :=
  match kind with
  | .raw => do pure (.raw (← itemsOf ((ns.get? "argv").getD .none)))
  | .none => pure .none
  | .help => do pure (.help (← itemsOf (← required ns "command")))
  | .flag => do pure (.flag (← required ns "flag"))
  | .bad | .half =>
    throw (Fault.missingAttribute ("type object '" ++ kind.className ++ "'") "from_namespace")

/-- Decodes a namespace as an invocation of a descriptor: its canonical name and the
arguments its argument schema reads. -/
def decodeAs (d : Descriptor) (ns : Namespace) : Action Command := do
  let args ← liftFault (decodeArgs d.args ns)
  debugLog "jj_cli.cli.command" ("Parsed command '" ++ d.label ++ "'")
  pure ⟨d.name, args⟩

/-- The canonical name a namespace carries: nothing when the attribute is missing. -/
def commandNameIn (ns : Namespace) : Value := (ns.get? commandNameKey).getD .none

/-- Decodes a matched namespace into a command. -/
def parse (s : Schema) (ns : Namespace) : Action Command := do
  let name := commandNameIn ns
  let descriptor ← match name with
    | .none => pure none
    | _ => liftFault (s.get? name)
  match descriptor with
  | none => throw (.cli (unknownCommand name))
  | some d => decodeAs d ns

/-! ## Dispatching -/

/-- The error for a command that no enabled descriptor handles. -/
def noHandler (name : Value) : CliError where
  kind := .dispatch
  message := "No handler for command '" ++ name.display ++ "'"
  context := [("command", name)]
  suggestions := List.map .str ["Every catalog entry needs a dispatch arm; this is a bug"]

/-- The built-in `help` command: with no command names, the top-level help; otherwise the
help of the command the first name resolves to. -/
def helpCommand (s : Schema) (ui : Ui) (args : Args) : Action Value := do
  let commands ← match args with
    | .help cs => pure cs
    | a => throw (Fault.missingAttribute ("'" ++ a.className ++ "' object") "command")
  match commands with
  | [] =>
    ui.printHelp (← liftFault (s.top.formatHelp ui.columns)) s.presentation.styles
    pure (.int 0)
  | name :: _ =>
    match ← liftFault (s.grammarFor? name) with
    | some g =>
      ui.printHelp (← liftFault (g.formatHelp ui.columns)) s.presentation.styles
      pure (.int 0)
    | none =>
      throw (.cli { kind := .usage
                    message := "unrecognized subcommand '" ++ name.display ++ "'"
                    suggestions := List.map .str ["Use '" ++ s.program ++ " help' to list the available commands"] })

/-- Calls a handler. -/
def call (s : Schema) : Handler → Ui → CommandContext → Args → Action Value
  | .help, ui, _, args => s.helpCommand ui args
  | .version, ui, _, _ => do
    ui.write (s.program ++ " " ++ versionNumber)
    pure (.int 0)
  | .missing name program loadError, _, _, _ =>
    throw (.cli (Handler.missingError name program loadError))
  | .plugin _ _ body, ui, ctx, args => body ui ctx args
  | .renamed old new program inner, ui, ctx, args => do
    for w in Handler.renameWarnings old new program do ui.warning w
    s.call inner ui ctx args
  | .uncallable v, _, _, _ => throw (Fault.notCallable v)

/-- Invokes a descriptor's handler for a command, after a debug diagnostic naming both. -/
def invoke (s : Schema) (d : Descriptor) (cmd : Command) (ui : Ui) (ctx : CommandContext) :
    Action Value := do
  debugLog "jj_cli.cli.dispatch" ("Dispatching '" ++ cmd.name.display ++ "' to " ++ d.handler.label)
  s.call d.handler ui ctx cmd.args

/-- Dispatches a command to the handler of its enabled descriptor. -/
def dispatch (s : Schema) (cmd : Command) (ui : Ui) (ctx : CommandContext) : Action Value := do
  match ← liftFault (s.get? cmd.name) with
  | none => throw (.cli (noHandler cmd.name))
  | some d => s.invoke d cmd ui ctx

end Schema

end CommandLine
