import CommandLine.Terminal.Render
import CommandLine.Presentation

/-!
# Sessions: output channels and the user interface

Everything the front end prints goes to one of two channels, standard output for primary
output and standard error for warnings, hints, errors and diagnostics. A session records
the writes in order; `Output.stdout` and `Output.stderr` are what each channel received.

`Action` is a step that writes to the channels and may raise a fault. Writes made before
a fault stay written.

The user interface (`Ui`) is handed to every command. It writes lines of primary output,
and warnings, hints and errors with a styled prefix. The color choice `always` writes colors
and treats the channels as a terminal; `never` writes no colors; `auto` (and any other
choice) writes colors exactly when the channels are a terminal. Errors are drawn line by
line on a terminal, with or without colors, and written as a paragraph elsewhere.
-/

namespace CommandLine

/-- The two output channels. -/
inductive Channel where
  | out
  | err
  deriving DecidableEq, Repr, Inhabited

/-- What a session has written so far, the warnings it has raised, and whether debug
diagnostics are shown. -/
structure Output where
  writes : Array (Channel × String) := #[]
  warnings : List String := []
  showDebug : Bool := false
  deriving Inhabited

namespace Output

def channel (o : Output) (c : Channel) : String :=
  String.join (o.writes.toList.filterMap fun (d, s) => if d = c then some s else none)

def stdout (o : Output) : String := o.channel .out

def stderr (o : Output) : String := o.channel .err

def combined (o : Output) : String := String.join (o.writes.toList.map (·.2))

end Output

abbrev Action := ExceptT Fault (StateM Output)

def emit (c : Channel) (text : String) : Action Unit :=
  modify fun o => { o with writes := o.writes.push (c, text) }

def debugLog (logger message : String) : Action Unit := do
  if (← get).showDebug then emit .err ("[DEBUG " ++ logger ++ "] " ++ message ++ "\n")

def colorChoices : List String := ["auto", "always", "never"]

/-- The user interface of one invocation. -/
structure Ui where
  color : String := "auto"
  styles : Styles := {}
  /-- The width of the terminal, in cells. -/
  columns : Nat := 80
  /-- Whether the channels are a terminal. -/
  terminal : Bool := false
  deriving Inhabited

namespace Ui

/-- Whether the console counts as a terminal: `always` forces it. -/
def isTerminal (u : Ui) : Bool := u.color == "always" || u.terminal

/-- The console both channels are written through: it writes colors when forced to, or on a
terminal unless told never to. -/
def console (u : Ui) : Terminal.Console := .ofChoice u.columns u.color u.terminal

/-- A styled text as the console prints it, followed by `finish`; fails when a span's style
has an `rgb(...)` component that is not a whole number. -/
def present (u : Ui) (t : Terminal.Styled) (finish : String := "\n") : Action String :=
  match u.console.failingComponent? t with
  | some c => throw (Fault.notWhole c)
  | none => pure (u.console.render t finish)

def write (u : Ui) (text : String) : Action Unit := emit .out (u.console.line text)

def labelled (u : Ui) (label style message : String) : Action Unit :=
  do emit .err (← u.present (Terminal.Styled.labelled label style message))

def warning (u : Ui) (message : String) : Action Unit := u.labelled "Warning: " u.styles.warning message

def hint (u : Ui) (message : String) : Action Unit := u.labelled "Hint: " u.styles.hint message

def error (u : Ui) (message : String) : Action Unit := u.labelled "Error: " u.styles.error message

def helpStyles (s : Styles) : Terminal.HelpStyles := ⟨s.header, s.usage, s.literal, s.placeholder⟩

/-- Prints a help page, styled (by default with the interface's own styles), to standard
output. -/
def printHelp (u : Ui) (text : String) (styles : Styles := u.styles) : Action Unit :=
  do emit .out (← u.present (Terminal.helpText text (helpStyles styles)) "")

end Ui

/-! ## Reporting faults -/

/-- A line made of a label in a style and a value after it. A text follows the label as it
is. Any other value is spread into the arguments of the append that adds it: a list gives
its items and a table its keys, which must be a text and at most a style (a style that is
not a text fails as applying it would, unless it is empty); a value that cannot be spread
fails. -/
def labelledValue (label style : String) (v : Value) : Except Fault Terminal.Styled :=
  let base := Terminal.Styled.labelled label style ""
  let spread (args : List Value) : Except Fault Terminal.Styled :=
    match args with
    | [] => throw (.runtime .type "Text.append() missing 1 required positional argument: 'text'")
    | [.str s] => pure (base.append s)
    | [.str s, .str st] => pure (base.append s st)
    | [.str s, st] =>
      if !st.truthy || s.isEmpty then pure (base.append s)
      else if st.hashable then throw (Fault.missingAttribute ("'" ++ st.typeName ++ "' object") "strip")
      else throw (Fault.unhashable st)
    | [_] | [_, _] => throw (.runtime .type "Only str or Text can be appended to Text")
    | _ => throw (.runtime .type ("Text.append() takes from 2 to 3 positional arguments but " ++
        toString (args.length + 1) ++ " were given"))
  match v with
  | .str s => pure (base.append s)
  | .list items => spread items
  | .table entries => spread (entries.map fun (k, _) => .str k)
  | _ => throw (.runtime .type
      ("rich.text.Text.append() argument after * must be an iterable, not " ++ v.typeName))

/-- The styled form of a front-end error: `Error: ` and the message, one dimmed-key line per
context entry, and `Hint: ` and each suggestion. Its labels have fixed styles. -/
def CliError.styledLines (e : CliError) : Except Fault (List Terminal.Styled) := do
  let hints ← e.suggestions.mapM (labelledValue "Hint: " "bold cyan")
  pure ([Terminal.Styled.labelled "Error: " "bold red" e.message] ++
    e.context.map (fun (k, v) =>
      ((({} : Terminal.Styled).append "  ").append (k ++ ": ") "dim").append v.display) ++
    hints)

/-- The styled report of a front-end error on a console. The lines are only made when the
console has room to print them. -/
def CliError.styledReport (c : Terminal.Console) (e : CliError) : Except Fault String := do
  if c.width = 0 then return ""
  let lines ← e.styledLines
  match lines.findSome? c.failingComponent? with
  | some comp => throw (Fault.notWhole comp)
  | none => pure (String.join (lines.map fun l => c.render l))

/-- Reports a fault on standard error: its traceback when verbose; the styled form when the
console is a terminal and the fault is a front-end error; else the plain report. The
plain report and the traceback are written as they are, without removing control
characters. -/
def printError (u : Ui) (f : Fault) (verbose : Bool := false) : Action Unit :=
  if verbose then emit .err (f.traceback ++ "\n")
  else match f with
    | .cli e =>
      if u.isTerminal then
        match e.styledReport u.console with
        | .ok report => emit .err report
        | .error g => throw g
      else emit .err (f.format ++ "\n")
    | _ => emit .err (f.format ++ "\n")

/-- Reports a usage error: the error, a hint per suggestion, then the usage line. -/
def printUsageError (u : Ui) (e : CliError) : Action Unit := do
  u.error e.message
  for s in e.suggestions do
    let line ← match labelledValue "Hint: " u.styles.hint s with
      | .ok line => pure line
      | .error g => throw g
    emit .err (← u.present line)
  match e.usage with
  | some line => if line.isEmpty then pure () else emit .err (u.console.line line)
  | none => pure ()

end CommandLine
