import CommandLine.Args
import CommandLine.Capability
import CommandLine.Config.Settings
import CommandLine.Session

/-!
# Command handlers

A handler is what runs a command. It receives the user interface, the invocation context
and the decoded arguments, and returns a value (an exit code, or anything else, which
counts as success) or raises a fault.

Handlers are of six sorts:

* the built-in `help` and `version` commands;
* the stand-in for a command that no installed package provides, which fails with a
  command error saying why (no handler, or a handler that failed to load);
* a plugin handler, given by its qualified name, its truth value and its behaviour (a
  callable object is false as a condition when its `__bool__` or `__len__` says so);
* a renamed command: two deprecation warnings, then the handler of the new name;
* a value that cannot be called at all.

A handler's identity (module and qualified name) shows in descriptors and diagnostics; a
renamed command keeps the identity of the handler it wraps.
-/

namespace CommandLine

/-- What a handler sees of the invocation. -/
structure CommandContext where
  argv : List String
  capabilities : CapabilitySet
  settings : Settings
  program : String
  /-- The canonical name of the matched command, if any. -/
  command : Option String
  deriving Inhabited

/-- The context as a value: the argument vector, the enabled features, the settings, the
program name and the matched command. -/
def CommandContext.toValue (c : CommandContext) : Value :=
  .table [("argv", .list (c.argv.map .str)),
    ("capabilities", .list (c.capabilities.names.map .str)),
    ("config", c.settings.toValue),
    ("program", .str c.program),
    ("command", (c.command.map Value.str).getD .none)]

def defaultProgram : String := "jj"

def commandsModule : String := "jj_cli.cli.commands"

def entryPointGroup : String := "jj_cli.commands"

/-- A command handler. -/
inductive Handler where
  | help
  | version
  /-- The stand-in for a command without a working handler. -/
  | missing (name program : String) (loadError : Option Value)
  /-- A plugin handler: its module is `plugin`. -/
  | plugin (qualname : String) (truthy : Bool) (body : Ui → CommandContext → Args → Action Value)
  /-- A handler called under an old name. -/
  | renamed (old new program : String) (inner : Handler)
  /-- A value that is not callable. -/
  | uncallable (value : Value)
  deriving Inhabited

namespace Handler

/-- The module and qualified name of a handler; `none` when it cannot be called. -/
def identity : Handler → Option (String × String)
  | .help => some ("jj_cli.cli.commands.help", "cmd_help")
  | .version => some ("jj_cli.cli.commands.version", "cmd_version")
  | .missing name _ _ => some (commandsModule, "missing_handler.<" ++ name ++ ">")
  | .plugin q _ _ => some ("plugin", q)
  | .renamed _ _ _ inner => inner.identity
  | .uncallable _ => none

def callable (h : Handler) : Bool := h.identity.isSome

/-- A handler's truth value as a condition: functions are true, a plugin object is what its
class makes it, and a value that cannot be called is as true as the value. -/
def truthy : Handler → Bool
  | .plugin _ t _ => t
  | .uncallable v => v.truthy
  | _ => true

def dottedName? (h : Handler) : Option String := h.identity.map fun (m, q) => m ++ "." ++ q

/-- The name diagnostics give a handler: its dotted name, or the literal of a value that
cannot be called. -/
def label : Handler → String
  | .uncallable v => v.literal
  | h => h.dottedName?.getD ""

/-- The error of the stand-in for a command without a working handler; a load error that is
empty or false counts as none. -/
def missingError (name program : String) (loadError : Option Value) : CliError :=
  match loadError.filter Value.truthy with
  | some err =>
    { kind := .command
      message := "`" ++ program ++ " " ++ name ++ "` is not available: its handler failed to load"
      context := [("command", .str name), ("error", err)]
      suggestions := List.map .str ["The '" ++ name ++ "' entry point in the '" ++ entryPointGroup ++
          "' group raised: " ++ err.display,
        "Reinstall or fix the package providing it"] }
  | none =>
    { kind := .command
      message := "`" ++ program ++ " " ++ name ++ "` is not available: no handler is installed for it"
      context := [("command", .str name)]
      suggestions := List.map .str ["Install a package providing the '" ++ name ++ "' entry point in the '" ++
        entryPointGroup ++ "' group"] }

/-- The two warnings of a renamed command. -/
def renameWarnings (old new program : String) : List String :=
  ["`" ++ program ++ " " ++ old ++ "` is deprecated; use `" ++ program ++ " " ++ new ++
      "` instead, which is equivalent",
    "`" ++ program ++ " " ++ old ++ "` will be removed in a future version, and this will be a hard error"]

/-- The default qualified name of a plugin handler for a command: `cmd_` and the name with
hyphens turned into underscores. -/
def pluginName (command : String) : String :=
  "cmd_" ++ String.ofList (command.toList.map fun c => if c = '-' then '_' else c)

end Handler

end CommandLine
