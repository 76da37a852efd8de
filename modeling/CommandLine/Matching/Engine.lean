import CommandLine.Help.Layout
import CommandLine.Matching.Similar
import CommandLine.Terminal.Render
import CommandLine.Text.Digit
import CommandLine.Text.Quote
import CommandLine.Fault

/-!
# Matching an argument vector against a grammar

The scan first gives each argument string a kind: an option (known, or unknown but
shaped like one), a positional, or the separator `--`, after which every string is a
positional. Options are recognised by their first character; a string that is an option
string, or one followed by `=` and a value, names that option; a single-prefix string may
also be a short option with its value (or more short options) glued on; a double-prefix
string may abbreviate a long option when the grammar allows it. A string that looks like a
negative number, or holds a space, is a positional.

The scan then alternates between positionals and options, left to right. Positionals take
as many strings as their arities allow, greedily, up to the next option; each option takes
its own argument strings. Strings nothing takes are extra; a parse that leaves extras is
rejected with `unrecognized arguments`.

The `command` positional takes a command name and everything after it, checks the name,
and hands the rest to the command's own grammar, whose results are merged into the
namespace (its extras come after the top level's).

Some options end the scan: `help` prints the help page (in the color chosen so far on this
line, on standard output, which may be a terminal) and `version` prints the version; both
exit with status 0. The color option records
its choice as soon as it is matched, so a later help page, or the schema after a failed
match, sees it.

## Errors

An error is reported by the grammar that meets it, with that grammar's usage line. An
invalid command name is reported as `unrecognized subcommand 'NAME'`, with the most
similar listed name as a hint, then a pointer to `--help`.
-/

namespace CommandLine.Matching

abbrev Namespace := List (String × Value)

namespace Namespace

def set (ns : Namespace) (key : String) (v : Value) : Namespace :=
  if ns.any (·.1 == key) then ns.map fun (k, w) => if k == key then (k, v) else (k, w)
  else ns ++ [(key, v)]

def get? (ns : Namespace) (key : String) : Option Value := (ns.find? (·.1 == key)).map (·.2)

def merge (ns other : Namespace) : Namespace := other.foldl (fun acc (k, v) => acc.set k v) ns

end Namespace

/-- Why a scan stopped before its end. -/
inductive Halt where
  /-- The line was rejected. -/
  | usage (e : CliError)
  /-- A page was printed to standard output and the process exits with status 0. -/
  | exit (stdout : String)
  /-- Making a page failed. -/
  | fault (f : Fault)
  deriving Inhabited

/-- What a scan remembers across its steps: the color chosen on the line so far, and
whether standard output is a terminal. -/
structure ScanState where
  color : Option String := none
  terminal : Bool := false
  deriving Inhabited, Repr

abbrev ScanM := ExceptT Halt (StateM ScanState)

/-- How an option-shaped string was read. -/
structure OptionMatch where
  /-- The option it names, if any. -/
  option : Option OptionSpec
  /-- The option string matched (the whole string for an unknown option). -/
  string : String
  /-- The value joined to it, by `=` or directly. -/
  explicit : Option String
  deriving Inhabited

/-- The kind of an argument string. -/
inductive Kind where
  | positional
  | separator
  | option (m : OptionMatch)
  deriving Inhabited

/-- The pattern letter of a kind: `A`, `-` or `O`. -/
def Kind.letter : Kind → Char
  | .positional => 'A'
  | .separator => '-'
  | .option _ => 'O'

/-! ## Errors -/

/-- The name of an invalid command, read back from the text of the error that reports it:
`argument <COMMAND>: invalid choice: ` and the name's literal, cut at its first closing
quote. -/
def invalidCommandName? (message : String) : Option String :=
  let lead := "argument <COMMAND>: invalid choice: "
  if !message.startsWith lead then none
  else
    match (message.toList.drop lead.length) with
    | q :: rest =>
      if q = '\'' ∨ q = '"' then
        let name := rest.takeWhile (fun c => c ≠ q ∧ c ≠ '\n')
        if (rest.drop name.length).head? = some q then some (String.ofList name) else none
      else none
    | [] => none

/-- The usage error a grammar reports for a message: an invalid command becomes
`unrecognized subcommand`, with the most similar listed name and a pointer to help. -/
def Grammar.usageError (g : Grammar) (columns : Int) (message : String) : CliError :=
  let usage := Text.trimBlank (g.formatUsage columns)
  match invalidCommandName? message with
  | some name =>
    let similar := (closestMatch name g.listedNames).map fun y =>
      "a similar subcommand exists: '" ++ y ++ "'"
    { kind := .usage
      message := "unrecognized subcommand '" ++ name ++ "'"
      suggestions := List.map .str <| similar.toList ++ ["For more information, try '" ++ g.prog ++ " --help'"]
      usage := some usage }
  | none => { kind := .usage, message := message, usage := some usage }

def Grammar.fail {α : Type} (g : Grammar) (columns : Int) (message : String) : ScanM α :=
  throw (.usage (g.usageError columns message))

def argumentMessage (name message : String) : String := "argument " ++ name ++ ": " ++ message

def invalidChoice (v : String) (choices : List String) : String :=
  "invalid choice: " ++ Text.quote v ++ " (choose from " ++ ", ".intercalate (choices.map Text.quote) ++ ")"

/-! ## Reading option strings -/

/-- Whether a string looks like a negative number: a minus, then digits, or digits, a point
and digits (a final line feed is allowed). -/
def looksNegative (s : String) : Bool :=
  let cs := s.toList
  let body (cs : List Char) : Bool :=
    match cs with
    | '-' :: rest =>
      (!rest.isEmpty && rest.all Text.isDecimalDigit) ||
        (match rest.splitOn '.' with
          | [a, b] => a.all Text.isDecimalDigit && !b.isEmpty && b.all Text.isDecimalDigit
          | _ => false)
    | _ => false
  body cs || (cs.getLast? = some '\n' && body cs.dropLast)

/-- Splits a string at its first `=`: before, whether there was one, after. -/
def splitAtEquals (s : String) : String × Bool × String :=
  let cs := s.toList
  let before := cs.takeWhile (· ≠ '=')
  if before.length = cs.length then (s, false, "")
  else (String.ofList before, true, String.ofList (cs.drop (before.length + 1)))

/-- The readings of an option-shaped string that is not an option string: abbreviations
of long options (when allowed), or a short option with text glued on. -/
def Grammar.optionReadings (g : Grammar) (arg : String) : List OptionMatch :=
  match arg.toList with
  | c0 :: c1 :: _ =>
    if g.isPrefix c0 && g.isPrefix c1 then
      if g.allowAbbrev then
        let (pre, hasSep, explicit) := splitAtEquals arg
        g.optionTable.filterMap fun (s, o) =>
          if s.startsWith pre then
            some ⟨some o, s, if hasSep then some explicit else none⟩
          else none
      else []
    else
      let short := String.ofList (arg.toList.take 2)
      g.optionTable.filterMap fun (s, o) =>
        if s == short then some ⟨some o, s, some (String.ofList (arg.toList.drop 2))⟩
        else if s.startsWith arg then some ⟨some o, s, none⟩
        else none
  | _ => []

/-- Reads one argument string: `none` for a positional. -/
def Grammar.readOption (g : Grammar) (columns : Int) (arg : String) : ScanM (Option OptionMatch) :=
  match arg.toList with
  | [] => pure none
  | c :: _ =>
    if !g.isPrefix c then pure none
    else match g.optionFor? arg with
    | some o => pure (some ⟨some o, arg, none⟩)
    | none =>
      if arg.length = 1 then pure none
      else
        let (pre, hasSep, explicit) := splitAtEquals arg
        match (if hasSep then g.optionFor? pre else none) with
        | some o => pure (some ⟨some o, pre, some explicit⟩)
        | none =>
          match g.optionReadings arg with
          | [m] => pure (some m)
          | [] =>
            if looksNegative arg || arg.contains ' ' then pure none
            else pure (some ⟨none, arg, none⟩)
          | ms => g.fail columns ("ambiguous option: " ++ arg ++ " could match " ++
              ", ".intercalate (ms.map (·.string)))

def Kind.ofReading : Option OptionMatch → Kind
  | some m => .option m
  | none => .positional

/-- The kinds of all argument strings; after `--` every string is a positional. -/
def Grammar.kinds (g : Grammar) (columns : Int) : List String → ScanM (List Kind)
  | [] => pure []
  | "--" :: rest => pure (.separator :: rest.map fun _ => .positional)
  | a :: rest => do
    let k := Kind.ofReading (← g.readOption columns a)
    pure (k :: (← g.kinds columns rest))

/-! ## How many strings a positional takes -/

/-- The numbers of pattern letters an arity can take at the start of a pattern, in the
order a greedy matcher tries them. -/
def Arity.takes (a : Arity) (p : List Char) : List Nat :=
  let dashes := (p.takeWhile (· = '-')).length
  let after := p.drop dashes
  match a with
  | .one =>
    if after.head? = some 'A' then
      let trailing := ((after.drop 1).takeWhile (· = '-')).length
      (List.range (trailing + 1)).reverse.map (dashes + 1 + ·)
    else []
  | .any =>
    let run := (p.takeWhile fun c => c = 'A' ∨ c = '-').length
    (List.range (run + 1)).reverse
  | .rest => (List.range (p.length + 1)).reverse
  | .command =>
    if after.head? = some 'A' then
      (List.range (p.length - dashes)).reverse.map (dashes + 1 + ·)
    else []

/-- The counts a sequence of positionals takes from the start of a pattern, if it can. -/
def takeAll : List Arity → List Char → Option (List Nat)
  | [], _ => some []
  | a :: rest, p => (a.takes p).findSome? fun n => (takeAll rest (p.drop n)).map (n :: ·)

def takePartial (arities : List Arity) (p : List Char) : List Nat :=
  ((List.range arities.length).reverse.findSome? fun i => takeAll (arities.take (i + 1)) p).getD []

/-! ## The scan -/

/-- The state of a scan: the namespace so far, the extra strings, the extra strings of the
command's own grammar (reported after the others), and the positionals still to match. -/
structure Scan where
  ns : Namespace
  extras : List String := []
  deferred : List String := []
  positionals : List PositionalSpec

/-- What the command positional does with a command name and the strings after it: parse
them with the command's grammar, giving its namespace and extra strings. -/
abbrev Subcommand := String → List String → ScanM (Namespace × List String)

/-- How printing a grammar's help page in a color stops the scan: with the page rendered for
the console of that color, on a terminal or not, or with the fault of making it. -/
def Grammar.helpHalt (g : Grammar) (columns : Int) (color : String) (terminal : Bool) : Halt :=
  let console := Terminal.Console.ofChoice (if columns ≥ 0 then columns.toNat else 80) color terminal
  let styles : Terminal.HelpStyles := ⟨g.styles.header, g.styles.usage, g.styles.literal, g.styles.placeholder⟩
  match g.formatHelp columns with
  | .ok page =>
    let t := Terminal.helpText page styles
    match console.failingComponent? t with
    | some c => .fault (Fault.notWhole c)
    | none => .exit (console.render t "")
  | .error f => .fault f

def Grammar.printHelp {α : Type} (g : Grammar) (columns : Int) : ScanM α := do
  let σ ← get
  throw (g.helpHalt columns (σ.color.getD "auto") σ.terminal)

/-- Applies an option to the namespace. -/
def Grammar.takeOption (g : Grammar) (columns : Int) (o : OptionSpec) (args : List String)
    (ns : Namespace) : ScanM Namespace :=
  match o.effect with
  | .help => g.printHelp columns
  | .version text =>
    match Help.versionPage text g.prog with
    | .ok page => throw (.exit page)
    | .error f => throw (.fault f)
  | .flag d => pure (ns.set d (.bool true))
  | .choice d cs => do
    let v := args.headD ""
    if !cs.contains v then g.fail columns (argumentMessage o.name (invalidChoice v cs))
    modify fun s => { s with color := some v }
    pure (ns.set d (.str v))

/-- The strings without their first `--`. -/
def dropSeparator (args : List String) : List String :=
  match args.idxOf? "--" with
  | some i => args.eraseIdx i
  | none => args

/-- Applies a positional to the scan. -/
def Grammar.takePositional (g : Grammar) (columns : Int) (sub : Subcommand)
    (p : PositionalSpec) (args : List String) (st : Scan) : ScanM Scan :=
  match p.arity with
  | .command => do
    let name := args.headD ""
    if !g.commandNames.contains name then
      g.fail columns (argumentMessage p.metavar (invalidChoice name g.commandNames))
    let (subNs, subExtras) ← sub name args.tail
    pure { st with ns := (st.ns.set p.dest (.str name)).merge subNs,
                   deferred := st.deferred ++ subExtras }
  | .rest => pure { st with ns := st.ns.set p.dest (.list (args.map .str)) }
  | .any => pure { st with ns := st.ns.set p.dest (.list ((dropSeparator args).map .str)) }
  | .one => pure { st with ns := st.ns.set p.dest (.str ((dropSeparator args).headD "")) }

/-- Matches as many of the remaining positionals as possible from position `start`. -/
def Grammar.consumePositionals (g : Grammar) (columns : Int) (sub : Subcommand)
    (args : Array String) (pattern : List Char) (start : Nat) (st : Scan) : ScanM (Nat × Scan) := do
  let counts := takePartial (st.positionals.map (·.arity)) (pattern.drop start)
  let rest := st.positionals.drop counts.length
  let (stop, st) ← (st.positionals.zip counts).foldlM (fun (acc : Nat × Scan) (p, n) => do
    let (pos, st) := acc
    let st ← g.takePositional columns sub p ((args.toList.drop pos).take n) st
    pure (pos + n, st)) (start, st)
  pure (stop, { st with positionals := rest })

/-- One option with the options glued to it, as `(option, its argument strings)`, and
where the scan goes on. A single-prefix option that takes no argument reads the first
character of its glued text as the next short option, and the rest as that option's glued
text; a character that names no option makes the whole glued text an ignored argument. -/
def Grammar.readCluster (g : Grammar) (columns : Int) (kinds : List Kind) (args : Array String)
    (start : Nat) (o : OptionSpec) (optString : String) (explicit : Option String) :
    ScanM (List (OptionSpec × List String) × Nat) :=
  let rec loop (fuel : Nat) (o : OptionSpec) (optString : String) (explicit : Option String)
      (acc : List (OptionSpec × List String)) : ScanM (List (OptionSpec × List String) × Nat) :=
    match fuel with
    | 0 => pure (acc, start + 1)
    | fuel + 1 =>
      match explicit with
      | some e =>
        let ignored : ScanM (List (OptionSpec × List String) × Nat) :=
          g.fail columns (argumentMessage o.name ("ignored explicit argument " ++ Text.quote e))
        if o.arity = 0 && !g.isPrefix ((optString.toList.drop 1).headD ' ') && !e.isEmpty then
          let next := String.ofList [optString.toList.headD '-', e.toList.headD ' ']
          match g.optionFor? next with
          | some o' =>
            let rest := String.ofList (e.toList.drop 1)
            loop fuel o' next (if rest.isEmpty then none else some rest) (acc ++ [(o, [])])
          | none => ignored
        else if o.arity = 1 then pure (acc ++ [(o, [e])], start + 1)
        else ignored
      | none =>
        if o.arity = 0 then pure (acc ++ [(o, [])], start + 1)
        else
          match kinds.drop (start + 1) with
          | .positional :: _ => pure (acc ++ [(o, [args[start + 1]!])], start + 2)
          | _ => g.fail columns (argumentMessage o.name "expected one argument")
  loop ((explicit.map String.length).getD 0 + 1) o optString explicit []

/-- Consumes the option at position `start` (with anything glued to it). -/
def Grammar.consumeOptional (g : Grammar) (columns : Int) (kinds : List Kind) (args : Array String)
    (start : Nat) (st : Scan) : ScanM (Nat × Scan) := do
  match kinds.drop start with
  | .option m :: _ =>
    match m.option with
    | none => pure (start + 1, { st with extras := st.extras ++ [args[start]!] })
    | some o =>
      let (actions, stop) ← g.readCluster columns kinds args start o m.string m.explicit
      let ns ← actions.foldlM (fun ns (o, vs) => g.takeOption columns o vs ns) st.ns
      pure (stop, { st with ns := ns })
  | _ => pure (start + 1, st)

def optionPositions (kinds : List Kind) (start : Nat) : List Nat :=
  (kinds.zipIdx.filter fun (k, i) => start ≤ i ∧ k.letter = 'O').map (·.2)

/-- The positionals before the option at `next`, matched when the scan has not reached the
option yet: where the scan then stands, its state, and whether it moved. -/
def Grammar.positionalsBefore (g : Grammar) (columns : Int) (sub : Subcommand)
    (args : Array String) (pattern : List Char) (start next : Nat) (st : Scan) :
    ScanM (Nat × Scan × Bool) :=
  if start ≠ next then do
    let (stop, st) ← g.consumePositionals columns sub args pattern start st
    pure (stop, st, decide (stop > start))
  else pure (start, st, false)

/-- The scan loop: positionals up to the next option, then the option, until no option is
left. Every round moves past at least one string, so the fuel (the number of strings) is
enough. -/
def Grammar.scanLoop (g : Grammar) (columns : Int) (sub : Subcommand) (kinds : List Kind)
    (args : Array String) (pattern : List Char) : Nat → Nat → Scan → ScanM (Nat × Scan)
  | 0, start, st => pure (start, st)
  | fuel + 1, start, st => do
    match optionPositions kinds start with
    | [] => pure (start, st)
    | next :: _ =>
      let (start, st, advanced) ← g.positionalsBefore columns sub args pattern start next st
      if advanced then g.scanLoop columns sub kinds args pattern fuel start st
      else
        let st := if start < next then
            { st with extras := st.extras ++ ((args.toList.drop start).take (next - start)) }
          else st
        let (stop, st) ← g.consumeOptional columns kinds args next st
        g.scanLoop columns sub kinds args pattern fuel stop st

/-- Parses an argument vector, keeping the strings nothing took: the namespace and the
extra strings (the top level's, then the command grammar's). -/
def Grammar.parseKnown (g : Grammar) (columns : Int) (sub : Subcommand) (argv : List String) :
    ScanM (Namespace × List String) := do
  let kinds ← g.kinds columns argv
  let pattern := kinds.map Kind.letter
  let args := argv.toArray
  let st : Scan := { ns := g.initialNamespace, positionals := g.positionals }
  let (start, st) ← g.scanLoop columns sub kinds args pattern (argv.length + 1) 0 st
  let (stop, st) ← g.consumePositionals columns sub args pattern start st
  pure (st.ns, st.extras ++ argv.drop stop ++ st.deferred)

/-- Parses an argument vector; extra strings are an error. -/
def Grammar.parse (g : Grammar) (columns : Int) (sub : Subcommand) (argv : List String) :
    ScanM Namespace := do
  let (ns, extras) ← g.parseKnown columns sub argv
  if extras.isEmpty then pure ns
  else g.fail columns ("unrecognized arguments: " ++ " ".intercalate extras)

def noSubcommand : Subcommand := fun _ _ => pure ([], [])

end CommandLine.Matching
