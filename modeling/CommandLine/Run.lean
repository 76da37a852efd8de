import CommandLine.Schema.Invoke
import CommandLine.Catalog.Reference
import CommandLine.Config.Load

/-!
# One run of the command line

A run takes an argument vector through every stage, reporting each failure on standard
error and ending with an exit status:

1. the enabled features are read from the features variable (an unknown feature: status
   1);
2. the reference catalog, with the installed handlers, is built into a schema (a catalog
   error: 255 when internal, else 1);
3. the line is matched (a usage error: the error, its hints and the usage line, status 2;
   `--help` and `--version` print their page and exit with status 0);
4. the configuration is loaded (a configuration error: status 1);
5. `--debug`, or a configured level other than `WARNING`, turns on diagnostics (debug
   diagnostics show only at level `DEBUG`); the terminal uses the `--color` choice, else
   the configured one;
6. without a command the top-level help is printed (status 0);
7. the command is decoded and dispatched. An internal error is reported with a hint that
   it is a bug (status 255), a usage error as in step 3 (status 2), any other error plainly
   (status 1). Otherwise the status is the handler's result when it is a whole number (or a
   truth value), else 0.

Errors are reported with their traceback when `--verbose` is given, or (from step 5 on)
when the configuration asks for it. A request to exit, an interruption, and errors other
than the front end's own during configuration loading are not reported: they end the run
as they are.
-/

namespace CommandLine

open Matching

/-- Everything a run depends on. -/
structure Invocation where
  argv : List String
  /-- The value of the features variable, when it is set. -/
  features : Option String := none
  /-- The installed handler of each command, if any. -/
  handlers : String → Option Handler := fun _ => none
  /-- Why the installed handler of a command failed to load, if it did. -/
  failures : String → Option Value := fun _ => none
  disk : Disk
  /-- The working directory. -/
  cwd : DiskPath
  /-- The path of the user configuration file. -/
  userConfig : DiskPath
  /-- The width of the terminal. -/
  columns : Nat := 80
  /-- Whether standard output and standard error are a terminal. -/
  terminal : Bool := false
  /-- The depth of the call stack at which the run starts. -/
  entryDepth : Nat := 5

def exitFailure : Int := 1
def exitUsage : Int := 2
def exitBug : Int := 255

def bugHint : String := "This is a bug in jj; please report it"

/-- The status a handler's result gives: a whole number or truth value as it is, anything
else success. -/
def exitStatusOf (result : Value) : Value :=
  match result with
  | .int _ | .bool _ => result
  | _ => .int 0

/-- A namespace attribute as a truth value (missing counts as false). -/
def flagOf (ns : Namespace) (key : String) : Bool := ((ns.get? key).map Value.truthy).getD false

/-- Runs the command line. The result is the exit status; a fault that escapes is the run
ending without one. -/
def Invocation.run (inv : Invocation) : Action Value := do
  let ui0 : Ui := { columns := inv.columns, terminal := inv.terminal }
  let columns : Int := inv.columns
  match CapabilitySet.ofVariable inv.features with
  | .error e =>
    printError ui0 (.cli e)
    pure (.int exitFailure)
  | .ok caps =>
  match Schema.build (referenceCatalog inv.handlers inv.failures) caps {} with
  | .error f =>
    match f with
    | .cli e =>
      printError ui0 f
      pure (.int (if e.kind.isInternal then exitBug else exitFailure))
    | _ => throw f
  | .ok schema =>
  match (schema.matchArgs columns inv.argv inv.terminal).1 with
  | .error (.usage e) =>
    printUsageError ui0 e
    pure (.int exitUsage)
  | .error (.exit page) =>
    emit .out page
    throw (.exit (.int 0))
  | .error (.fault f) => throw f
  | .ok ns =>
  let verbose := flagOf ns "global_verbose"
  let (loaded, warnings) := ((Settings.load inv.disk inv.cwd inv.userConfig (inv.entryDepth + 1)).run).run []
  modify fun o => { o with warnings := o.warnings ++ warnings }
  match loaded with
  | .error f =>
    match f with
    | .cli _ =>
      printError ui0 f verbose
      pure (.int exitFailure)
    | _ => throw f
  | .ok settings =>
  let verbose := verbose || settings.verbose
  if flagOf ns "global_debug" then modify fun o => { o with showDebug := true }
  else if settings.level != "WARNING" then
    modify fun o => { o with showDebug := settings.level == "DEBUG" }
  let color := ((ns.get? "global_color").bind Value.asString?).getD settings.color
  let ui : Ui :=
    { color := color, styles := schema.presentation.styles, columns := inv.columns
      terminal := inv.terminal }
  match ns.get? "command" with
  | none | some .none =>
    ui.printHelp (← liftFault (schema.top.formatHelp columns))
    pure (.int 0)
  | some _ =>
  let ctx : CommandContext :=
    { argv := inv.argv, capabilities := caps, settings := settings, program := schema.program
      command := (ns.get? commandNameKey).bind Value.asString? }
  tryCatch (do
      let cmd ← schema.parse ns
      let result ← schema.dispatch cmd ui ctx
      pure (exitStatusOf result))
    fun f => match f with
      | .exit _ | .interrupt => throw f
      | .cli e =>
        if e.kind.isInternal then do
          printError ui f verbose
          ui.hint bugHint
          pure (.int exitBug)
        else if e.kind == .usage then do
          printUsageError ui e
          pure (.int exitUsage)
        else do
          printError ui f verbose
          pure (.int exitFailure)
      | .runtime .. => do
        printError ui f verbose
        pure (.int exitFailure)

end CommandLine
