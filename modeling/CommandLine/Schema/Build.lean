import CommandLine.Catalog.Check
import CommandLine.Matching.Engine

/-!
# Building the command-line schema

The schema is the catalog compiled for one set of enabled features: the descriptors whose
requirement is met, every name they answer to, a grammar for each of them, and the
top-level grammar whose command positional chooses among them. A command whose feature is
disabled is left out completely, so its names fail exactly like a typo.

The catalog is walked in order. For each enabled descriptor every name (canonical name,
listed aliases, hidden aliases) is registered; a name seen before is a duplicate and stops
the build. Its grammar comes from its argument schema: raw commands read no option at all
(not even `-h`) and hand every token to the handler, the others accept `-h` and their own
arguments.

The top-level help lists the enabled, non-hidden commands grouped by category, in the
presentation's category order; each row is the name padded to the widest name of its
section, two spaces and the summary with the listed aliases.

## Errors

Building fails, in catalog order, on the first of: an entry that is not a descriptor; a
requirement that is not a capability and not met; a repeated name; an argument schema
that cannot add its arguments. Listing the commands then fails on a listed name or alias
that is not text.
-/

namespace CommandLine

open Matching

def versionNumber : String := "0.1.0"

def programDescription : String :=
  "Jujutsu: a version control system that works on changes, not branches"

def commandNameKey : String := "_command_name"

/-- The built schema. -/
structure Schema where
  catalog : Catalog
  capabilities : CapabilitySet
  presentation : Presentation
  /-- The enabled descriptors, in catalog order. -/
  descriptors : List Descriptor
  /-- Every name an enabled command answers to, with its canonical name, in registration
  order. -/
  names : List (Value × Value)
  /-- The grammar of each enabled command, by canonical name. -/
  grammars : List (Value × Grammar)
  /-- The top-level grammar. -/
  top : Grammar
  deriving Inhabited

/-! ## Grammars of commands -/

def helpOption : OptionSpec :=
  ⟨["-h", "--help"], .help, some "show this help message and exit"⟩

/-- The grammar of an enabled command, for a program: its options and positionals come
from the argument schema, and matching it records the command's canonical name. -/
def Descriptor.grammar (d : Descriptor) (program : String) (styles : Styles) :
    Except Fault Grammar := do
  let base : Grammar :=
    { prog := program ++ " " ++ d.name.display
      description := if d.help.truthy then some d.help else none
      defaults := [(commandNameKey, d.name)]
      styles := styles }
  match d.args with
  | .raw => pure { base with
      prefixChars := ['\x00']
      positionals := [⟨"argv", "ARGS", .rest, .bare⟩] }
  | .help => pure { base with
      options := [helpOption]
      positionals := [⟨"command", "COMMAND", .any, .text "Print help for the subcommand(s)"⟩] }
  | .flag => pure { base with options := [helpOption, ⟨["--flag"], .flag "flag", none⟩] }
  | .none | .half => pure { base with options := [helpOption] }
  | .bad => throw (Fault.missingAttribute ("type object '" ++ d.args.className ++ "'") "add_arguments")

/-! ## The listing -/

/-- The listing: each placement of the presentation's order that holds enabled, non-hidden
commands, with those commands in catalog order. A command belongs to a placement that is
the very same object as its own (`Placement.identical`), so a value that is not a category
can collect commands too; such a section has no heading, and building help from it fails. -/
def listingOf (presentation : Presentation) (descriptors : List Descriptor) :
    Except Fault (List (Placement × List Descriptor)) := do
  let order ← presentation.orderedCategories
  pure <| order.filterMap fun p =>
    let entries := descriptors.filter fun d => d.placement.identical p && !d.hidden
    if entries.isEmpty then none else some (p, entries)

/-- The length of a name that must be text. -/
def nameLength (v : Value) : Except Fault Nat :=
  match v with
  | .str s => pure s.length
  | _ => throw (.runtime .type ("object of type '" ++ v.typeName ++ "' has no len()"))

/-- Texts joined by a separator; every item must be text. -/
def joinTexts (sep : String) (vs : List Value) : Except Fault String := do
  let texts ← vs.zipIdx.mapM fun (v, i) =>
    match v with
    | .str s => pure s
    | _ => throw (.runtime .type ("sequence item " ++ toString i ++ ": expected str instance, " ++
        v.typeName ++ " found"))
  pure (sep.intercalate texts)

/-- The rows of one listing section: the name padded to the widest name of the section,
two spaces, the summary and the listed aliases, without trailing blanks. -/
def listingRows (entries : List Descriptor) : Except Fault (List String) := do
  let widths ← entries.mapM (nameLength ·.name)
  let width := widths.foldl max 0
  entries.mapM fun d => do
    let summary ←
      if d.aliases.isEmpty then pure d.help.display
      else do
        let aliases ← joinTexts ", " d.aliases
        pure (Text.trimBlank (d.help.display ++ " [aliases: " ++ aliases ++ "]"))
    let name := d.name.display
    pure (Text.trimBlankRight (name ++ Help.spaces (width - name.length) ++ "  " ++ summary))

/-- The sections of the top-level help: each heading of the listing with its rows. -/
def listingSections (listing : List (Placement × List Descriptor)) :
    Except Fault (List (String × List String)) :=
  listing.mapM fun (p, entries) => do
    let heading ← p.heading
    pure (heading, ← listingRows entries)

/-- The names a mistyped command is compared with: the canonical names and listed aliases
of the listed commands, in listing order. -/
def listedNames (listing : List (Placement × List Descriptor)) : List String :=
  listing.flatMap fun (_, entries) =>
    entries.flatMap fun d => (d.name :: d.aliases).filterMap Value.asString?

/-! ## The top-level grammar -/

def versionOption (program : String) : OptionSpec :=
  ⟨["--version"], .version (program ++ " " ++ versionNumber), some "show program's version number and exit"⟩

def verboseOption : OptionSpec :=
  ⟨["--verbose"], .flag "global_verbose", some "Show full stack traces on errors"⟩

def debugOption : OptionSpec := ⟨["--debug"], .flag "global_debug", some "Enable debug logging"⟩

def colorOption : OptionSpec :=
  ⟨["--color"], .choice "global_color" colorChoices, some "When to colorize output"⟩

def commandPositional : PositionalSpec := ⟨"command", "<COMMAND>", .command, .hidden⟩

/-- The top-level grammar of a program: the global options, then the command. -/
def topGrammar (program : String) (styles : Styles) (sections : List (String × List String))
    (listed commandNames : List String) : Grammar where
  prog := program
  usage := some "[OPTIONS] <COMMAND>"
  description := some (.str programDescription)
  epilog := some ("Use '" ++ program ++ " help <COMMAND>' for more information on a specific command.")
  allowAbbrev := false
  options := [helpOption, versionOption program, verboseOption, debugOption, colorOption]
  positionals := [commandPositional]
  sections := sections
  listedNames := listed
  commandNames := commandNames
  styles := styles

/-! ## Building -/

/-- Whether a descriptor's requirement is met; a requirement that is not a capability is
never met, and one that cannot be a key is a type error. -/
def CapabilitySet.admits (caps : CapabilitySet) : Requirement → Except Fault Bool
  | .none => pure true
  | .needs c => pure (caps.contains c)
  | .other v => if v.hashable then pure false else throw (Fault.unhashable v)

/-- What the build has registered so far: enabled descriptors, names and grammars. -/
structure Registry where
  descriptors : List Descriptor := []
  names : List (Value × Value) := []
  grammars : List (Value × Grammar) := []

/-- The error for a name registered twice: the name, the canonical name of the command that
registered it first, and that of the command registering it again. -/
def duplicateName (name first second : Value) : CliError where
  kind := .catalog
  message := "Duplicate command name " ++ name.literal
  context := [("first", first), ("second", second)]

/-- Registers one name of a descriptor; a name registered before is a catalog error naming
both owners. -/
def Registry.addName (d : Descriptor) (r : Registry) (name : Value) : Except Fault Registry := do
  if !name.hashable then throw (Fault.unhashable name)
  match r.names.find? (·.1.same name) with
  | some (_, first) => throw (.cli (duplicateName name first d.name))
  | none => pure { r with names := r.names ++ [(name, d.name)] }

def Registry.addNames (r : Registry) (d : Descriptor) : Except Fault Registry :=
  d.allNames.foldlM (Registry.addName d) r

/-- Adds one catalog entry: a disabled descriptor is left out, an enabled one registered
with its grammar. -/
def Registry.add (program : String) (styles : Styles) (caps : CapabilitySet) (r : Registry) :
    Entry → Except Fault Registry
  | .foreign v => throw (Fault.missingAttribute ("'" ++ v.typeName ++ "' object") "requires")
  | .descriptor d => do
    if !(← caps.admits d.requires) then
      match d.requires with
      | .other v => throw (Fault.missingAttribute ("'" ++ v.typeName ++ "' object") "value")
      | _ => pure r
    else
      let r ← r.addNames d
      let g ← d.grammar program styles
      pure { r with descriptors := r.descriptors ++ [d], grammars := r.grammars ++ [(d.name, g)] }

/-- Builds the schema of a catalog for the enabled features. With `verify`, the catalog is
checked first. -/
def Schema.build (catalog : Catalog) (caps : CapabilitySet) (presentation : Presentation)
    (verify : Bool := false) : Except Fault Schema := do
  if verify then catalog.check
  let program := presentation.program
  let styles := presentation.styles
  let r ← catalog.entries.foldlM (Registry.add program styles caps) {}
  let listing ← listingOf presentation r.descriptors
  let sections ← listingSections listing
  let commandNames := r.names.filterMap (·.1.asString?)
  pure { catalog := catalog
         capabilities := caps
         presentation := presentation
         descriptors := r.descriptors
         names := r.names
         grammars := r.grammars
         top := topGrammar program styles sections (listedNames listing) commandNames }

namespace Schema

def program (s : Schema) : String := s.presentation.program

def get? (s : Schema) (name : Value) : Except Fault (Option Descriptor) :=
  if !name.hashable then throw (Fault.unhashable name)
  else pure (s.descriptors.find? (·.name.same name))

def resolve? (s : Schema) (name : Value) : Except Fault (Option Value) :=
  if !name.hashable then throw (Fault.unhashable name)
  else pure ((s.names.find? (·.1.same name)).map (·.2))

def matchableNames (s : Schema) : List Value := s.names.map (·.1)

/-- The grammar of the command a name or alias resolves to. -/
def grammarFor? (s : Schema) (name : Value) : Except Fault (Option Grammar) := do
  match ← s.resolve? name with
  | some canonical =>
    if canonical.truthy then pure ((s.grammars.find? (·.1.same canonical)).map (·.2)) else pure none
  | none => pure none

def listing (s : Schema) : Except Fault (List (Placement × List Descriptor)) :=
  listingOf s.presentation s.descriptors

/-- The problems of a schema against its catalog: every name of an enabled descriptor is
registered for it, no name of a disabled one is registered, and every enabled descriptor
has a grammar. -/
def problems (s : Schema) : Except Fault (List String) :=
  s.catalog.entries.foldlM (fun acc e =>
    match e with
    | .foreign _ => pure acc
    | .descriptor d => do
      let enabled ← s.capabilities.admits d.requires
      let nameProblems ← d.allNames.foldlM (fun acc name => do
        let registered ← s.resolve? name
        let acc := if enabled && !(registered.map (·.equals d.name)).getD false then
            acc ++ [name.literal ++ " is not registered for '" ++ d.label ++ "'"]
          else acc
        pure (if !enabled && registered.isSome then
            acc ++ [name.literal ++ " is registered although its feature is disabled"]
          else acc)) []
      let missing := enabled && !s.grammars.any (·.1.same d.name)
      pure (acc ++ nameProblems ++ (if missing then ["'" ++ d.label ++ "' has no parser"] else []))) []

/-- Checks the catalog, then the schema against it. -/
def check (s : Schema) : Except Fault Unit := do
  s.catalog.check
  let problems ← s.problems
  if problems.isEmpty then pure ()
  else throw (.cli { kind := .catalog
                     message := "Command schema does not match its catalog"
                     context := [("problems", .str ("; ".intercalate problems))] })

end Schema

end CommandLine
