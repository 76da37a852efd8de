import CommandLine.Matching.Grammar
import CommandLine.Help.Wrap
import CommandLine.Terminal.Styled
import CommandLine.Text.Template

/-!
# Help pages and usage lines

The layout of a parser's help page, for a terminal of a given width (help uses the width
less two):

* the usage line, `usage: ` and either the explicit usage or one built from the options
  and positionals, wrapped when too long;
* the description;
* the listing sections, then `positional arguments:` and `options:`, each a heading and
  its entries indented by two;
* the closing text.

Texts (description, listing, closing text) keep their own line breaks. An entry of an
argument section is its invocation (`-h, --help`, `--color {auto,always,never}`,
`COMMAND`), then its help in a column starting at most 24 cells in; an invocation too wide
for that column puts the help on the next line. Runs of three or more line feeds become two,
and the page ends with exactly one line feed.
-/

namespace CommandLine

namespace Help

open Matching

/-- The width help is laid out to, for a terminal of `columns` cells (a terminal that does
not say counts as 80). -/
def helpWidth (columns : Int) : Int := (if columns > 0 then columns else 80) - 2

def spaces (n : Nat) : String := String.ofList (List.replicate n ' ')

/-- A text with the program named where it asks for it: a text that holds `%(prog)` is
filled as a template whose one field is `prog`; other texts are kept as they are. -/
def nameProgram (text prog : String) : Except Fault String :=
  if Template.asksFor text "prog" then Template.fill text [("prog", prog)] else pure text

/-- A text block: the text with the program named, each of its lines indented, then a blank
line. -/
def textBlock (text : String) (indent : Nat) (prog : String) : Except Fault String := do
  let text ← nameProgram text prog
  pure (String.join ((Terminal.linesWithBreaks text.toList).map fun l =>
    spaces indent ++ String.ofList l) ++ "\n\n")

/-- The block of a description that may not be a text. A text is a text block. Another value
fails where a text is expected of it: a list or table when it is asked to split into lines,
after the test for `%(prog)` among its items or keys (when that test holds, filling it as a
template fails first); any other value already at that test. -/
def valueBlock (v : Value) (indent : Nat) (prog : String) : Except Fault String :=
  let operand (t : String) : Fault :=
    .runtime .type ("unsupported operand type(s) for %: '" ++ t ++ "' and 'dict'")
  let noLines (t : String) : Fault := Fault.missingAttribute ("'" ++ t ++ "' object") "splitlines"
  match v with
  | .str s => textBlock s indent prog
  | .list items =>
    throw (if items.any (·.same (.str "%(prog)")) then operand "list" else noLines "list")
  | .table entries =>
    throw (if entries.any (·.1 == "%(prog)") then operand "dict" else noLines "dict")
  | _ => throw (.runtime .type ("argument of type '" ++ v.typeName ++ "' is not iterable"))

/-- Collapses runs of three or more line feeds into two. -/
def collapseBreaks (s : String) : String :=
  let rec go (cs : List Char) (run : Nat) : List Char :=
    match cs with
    | [] => []
    | '\n' :: rest => if run ≥ 2 then go rest (run + 1) else '\n' :: go rest (run + 1)
    | c :: rest => c :: go rest 0
  String.ofList (go s.toList 0)

/-- A page's final form: line feeds around it removed, then exactly one added. -/
def finishPage (s : String) : String :=
  let cs := (collapseBreaks s).toList
  let cs := (cs.dropWhile (· = '\n')).reverse.dropWhile (· = '\n') |>.reverse
  String.ofList cs ++ "\n"

/-! ## Usage -/

/-- How an option shows in a usage line. -/
def optionUsage (o : OptionSpec) : String :=
  let first := o.strings.headD ""
  match o.effect with
  | .choice _ cs => "[" ++ first ++ " \x7b" ++ ",".intercalate cs ++ "\x7d]"
  | _ => "[" ++ first ++ "]"

/-- How a positional shows in a usage line. -/
def positionalUsage (p : PositionalSpec) : String :=
  match p.arity with
  | .one => p.metavar
  | .any => "[" ++ p.metavar ++ " ...]"
  | .rest => "..."
  | .command => p.metavar ++ " ..."

/-- Puts parts on lines of at most `width` characters after `indent`; with a prefix, the
first line starts after the prefix instead. -/
def packLines (parts : List String) (indent : Nat) (prefixLen : Option Nat) (width : Int) :
    List String :=
  let start : Int := match prefixLen with
    | some n => (n : Int) - 1
    | none => (indent : Int) - 1
  let (lines, line, _) := parts.foldl (fun (acc : List (List String) × List String × Int) part =>
    let (lines, line, len) := acc
    if len + 1 + part.length > width && !line.isEmpty then
      (lines ++ [line], [part], (indent : Int) - 1 + part.length + 1)
    else (lines, line ++ [part], len + part.length + 1)) ([], [], start)
  let all := if line.isEmpty then lines else lines ++ [line]
  all.zipIdx.map fun (l, i) =>
    if prefixLen.isSome && i = 0 then " ".intercalate l else spaces indent ++ " ".intercalate l

end Help

namespace Matching

open Help

/-- The usage text of a grammar (without `usage: `), wrapped to `width`. -/
def Grammar.usageBody (g : Grammar) (width : Int) : String :=
  match g.usage with
  | some u => g.prog ++ " " ++ u
  | none =>
    let optParts := g.options.map optionUsage
    let posParts := (g.positionals.filter (·.help != .hidden)).map positionalUsage
    let full := " ".intercalate ((g.prog :: optParts ++ posParts).filter (!·.isEmpty))
    let pre := "usage: ".length
    if ((pre + full.length : Nat) : Int) ≤ width then full
    else
      let lines :=
        if (4 * (pre + g.prog.length) : Int) ≤ 3 * width then
          let indent := pre + g.prog.length + 1
          if !optParts.isEmpty then
            packLines (g.prog :: optParts) indent (some pre) width ++ packLines posParts indent none width
          else if !posParts.isEmpty then packLines (g.prog :: posParts) indent (some pre) width
          else [g.prog]
        else
          let parts := packLines (optParts ++ posParts) pre none width
          let parts := if parts.length > 1 then
              packLines optParts pre none width ++ packLines posParts pre none width
            else parts
          g.prog :: parts
      "\n".intercalate lines

def Grammar.formatUsage (g : Grammar) (columns : Int) : String :=
  finishPage ("usage: " ++ g.usageBody (helpWidth columns) ++ "\n\n")

end Matching

namespace Help

open Matching

/-! ## Argument sections -/

/-- The invocation of an option in help: each option string, with its argument's choices
when it takes one. -/
def optionInvocation (o : OptionSpec) : String :=
  match o.effect with
  | .choice _ cs => ", ".intercalate (o.strings.map fun s => s ++ " \x7b" ++ ",".intercalate cs ++ "\x7d")
  | _ => ", ".intercalate o.strings

/-- One entry of an argument section: the invocation, then the help lines. -/
def entry (invocation : String) (help : Option String) (helpPosition width : Int) : String :=
  let actionWidth := helpPosition - 4
  let helpWidth := max (width - helpPosition) 11
  match help.filter (!·.isEmpty) with
  | none => "  " ++ invocation ++ "\n"
  | some h =>
    let (header, indentFirst) :=
      if (invocation.length : Int) ≤ actionWidth then
        ("  " ++ invocation ++ spaces (actionWidth.toNat - invocation.length) ++ "  ", 0)
      else ("  " ++ invocation ++ "\n", helpPosition.toNat)
    if (Text.trimBlank h).isEmpty then header ++ (if header.endsWith "\n" then "" else "\n")
    else
      match wrap h helpWidth.toNat with
      | first :: rest =>
        header ++ spaces indentFirst ++ first ++ "\n" ++
          String.join (rest.map fun l => spaces helpPosition.toNat ++ l ++ "\n")
      | [] => header ++ spaces indentFirst ++ "\n"

/-- A section: a blank line, the heading, the body, a line feed; nothing when the body is
empty. -/
def helpSection (heading body : String) : String :=
  if body.isEmpty then "" else "\n" ++ heading ++ ":\n" ++ body ++ "\n"

end Help

namespace Matching

open Help

/-- The help page of a grammar, for a terminal of `columns` cells; it fails when a text
that names the program is not a well-formed template. -/
def Grammar.formatHelp (g : Grammar) (columns : Int) : Except Fault String := do
  let width := helpWidth columns
  let maxHelpPosition : Int := min 24 (max (width - 20) 4)
  let shownPositionals := g.positionals.filter (·.help != .hidden)
  let invocations := shownPositionals.map (·.metavar) ++ g.options.map optionInvocation
  let longest : Nat := invocations.foldl (fun m s => max m (s.length + 2)) 0
  let helpPosition : Int := min ((longest : Int) + 2) maxHelpPosition
  let positionalBody := String.join (shownPositionals.map fun p =>
    entry p.metavar (match p.help with
      | .text s => some s
      | _ => none) helpPosition width)
  let optionBody := String.join (g.options.map fun o => entry (optionInvocation o) o.help helpPosition width)
  let description ← match g.description with
    | some d => valueBlock d 0 g.prog
    | none => pure ""
  let listing ← g.sections.mapM fun (heading, rows) => do
    pure (helpSection heading (← textBlock ("\n".intercalate rows) 2 g.prog))
  let epilog ← match g.epilog with
    | some e => textBlock e 0 g.prog
    | none => pure ""
  pure <| finishPage <|
    "usage: " ++ g.usageBody width ++ "\n\n" ++ description ++ String.join listing ++
    helpSection "positional arguments" positionalBody ++
    helpSection "options" optionBody ++ epilog

end Matching

namespace Help

/-- The page printed by a version option: the version text, with the program named, as a
paragraph. -/
def versionPage (text prog : String) : Except Fault String := do
  pure (finishPage (← textBlock text 0 prog))

end Help

end CommandLine
