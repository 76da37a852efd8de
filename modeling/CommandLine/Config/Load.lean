import CommandLine.Config.Disk
import CommandLine.Config.Settings
import CommandLine.Toml.Read
import CommandLine.Text.Utf8
import CommandLine.Text.Case
import CommandLine.Fault

/-!
# Loading the configuration

Settings come from up to two TOML files, merged over the defaults in order:

1. the user file, when it is a regular file;
2. the repository file: the first `.jj-cli.toml` that is a regular file, looking in the
   start directory and then in each directory above it. The search stops after a directory
   that holds `.jj` or `.git` (a repository root), or at the root of the disk.

Each file is read as UTF-8 (bytes that are not are an error as they are) and then as TOML
(a syntax error becomes a configuration error naming the file).

## Merging a file

Keys outside `ui` and `logging`, and keys of those sections other than `ui.color`,
`ui.verbose` and `logging.level`, are warned about (all warnings come before any value is
checked). `ui.color` must be `auto`, `always` or `never`; `ui.verbose` is the truth of its
value; `logging.level`, in upper case, must be a level name. A file that sets a value
becomes its source.

A section that is not a table is treated as the sequence it is: a text as its characters,
a list as its items; its items are warned about one by one, and asking it for a key is a
type error. Other values cannot be iterated at all.
-/

namespace CommandLine

/-- A step of loading: it records warnings and may fail; the warnings survive a failure. -/
abbrev Loading := ExceptT Fault (StateM (List String))

def warn (message : String) : Loading Unit := modify (· ++ [message])

/-- A pure step's failure, raised while loading. -/
def Loading.lift {α : Type} (r : Except Fault α) : Loading α :=
  match r with
  | .ok a => pure a
  | .error f => throw f

def repoConfigName : String := ".jj-cli.toml"

def repoMarkers : List String := [".jj", ".git"]

def colorValues : List String := ["always", "auto", "never"]

def logLevels : List String := ["CRITICAL", "DEBUG", "ERROR", "INFO", "WARNING"]

/-! ## Finding and reading files -/

/-- The repository configuration file for a start directory: the first one found walking
up, stopping after a repository root. -/
def findRepoConfig (disk : Disk) (start : DiskPath) : Option DiskPath :=
  let rec go (fuel : Nat) (dir : DiskPath) : Option DiskPath :=
    match fuel with
    | 0 => none
    | fuel + 1 =>
      let candidate := dir ++ [repoConfigName]
      if (disk.file? candidate).isSome then some candidate
      else if repoMarkers.any (fun m => disk.present (dir ++ [m])) then none
      else if dir.isEmpty then none
      else go fuel dir.parent
  go (start.length + 1) start

/-- The configuration error for a file that is not valid TOML. -/
def invalidToml (path : DiskPath) (message : String) : CliError where
  kind := .config
  message := "Invalid TOML in " ++ path.text ++ ": " ++ message
  context := [("file", .str path.text)]
  cause := some ("tomllib.TOMLDecodeError", message)

/-- Reads a configuration file into its document, the text being read in a step at
`depth`. -/
def readDocument (disk : Disk) (path : DiskPath) (depth : Nat) : Except Fault Value := do
  let text ← match disk.file? path with
    | some (.text s) => pure s
    | some (.bytes bs) =>
      match Text.decodeUtf8 bs with
      | .ok s => pure s
      | .error f => throw (.runtime .unicodeDecode f.message)
    | none => pure ""
  match Toml.read text depth with
  | .ok v => pure v
  | .error (.malformed message) => throw (.cli (invalidToml path message))
  | .error (.exhausted call) => throw (.runtime .recursion call.exhaustedMessage)
  | .error (.tooManyDigits count) => throw (Fault.digitsToRead count)

/-! ## Sections as sequences -/

/-- Whether a section holds a key: a table has it, a text contains it, a list has it as an
item. -/
def sectionHas (body : Value) (key : String) : Bool :=
  match body with
  | .table entries => entries.any (·.1 == key)
  | .str s => (s.splitOn key).length > 1
  | .list items => items.any (·.same (.str key))
  | _ => false

/-- The value of a key in a section; only a table can be asked. -/
def sectionGet (body : Value) (key : String) : Except Fault Value :=
  match body with
  | .table entries => pure ((Value.lookup entries key).getD .none)
  | .str _ => throw (.runtime .type "string indices must be integers, not 'str'")
  | .list _ => throw (.runtime .type "list indices must be integers or slices, not str")
  | v => throw (.runtime .type ("'" ++ v.typeName ++ "' object is not subscriptable"))

/-- Warns about a key of a section when it is not a known one; a key that cannot be one is a
type error. -/
def warnUnknownKey (known : List String) (name source : String) (key : Value) : Loading Unit := do
  if !key.hashable then throw (Fault.unhashable key)
  if !known.any (fun k => key.same (.str k)) then
    let shown ← Loading.lift key.displayChecked
    warn ("Unknown config key '" ++ name ++ "." ++ shown ++ "' in " ++ source)

/-- Warns about each key of a section that is not a known one. -/
def warnUnknownKeys (body : Value) (known : List String) (name source : String) :
    Loading Unit := do
  let keys ← Loading.lift body.iterate
  keys.forM (warnUnknownKey known name source)

/-! ## Merging -/

/-- The configuration error for an invalid value; writing the value's literal may fail. -/
def invalidValue (key : String) (v : Value) (choices : List String) (source : String) :
    Except Fault CliError := do
  let shown ← v.literalChecked
  pure {
    kind := .config
    message := "Invalid value for " ++ key ++ ": " ++ shown
    context := [("file", .str source)]
    suggestions := List.map .str ["Use one of: " ++ ", ".intercalate choices] }

def rejectValue {α : Type} (key : String) (v : Value) (choices : List String) (source : String) :
    Loading α := do
  throw (.cli (← Loading.lift (invalidValue key v choices source)))

/-- The logging level a value names, if any: its text in upper case, when that is a level.
Writing the value's text may fail. -/
def levelOf? (v : Value) : Except Fault (Option String) := do
  let shown ← v.displayChecked
  pure ((Text.upperAscii? shown).filter logLevels.contains)

/-- Warns about a key of a document outside `ui` and `logging`. -/
def warnUnknownSection (source : String) (entry : String × Value) : Loading Unit :=
  if entry.1 != "ui" && entry.1 != "logging" then
    warn ("Unknown config key '" ++ entry.1 ++ "' in " ++ source)
  else pure ()

def warnUnknownSections (entries : List (String × Value)) (source : String) : Loading Unit :=
  entries.forM (warnUnknownSection source)

/-- Merges a `ui.color` value: it must be one of the color choices. -/
def Settings.mergeColor (s : Settings) (color : Value) (source : String) : Loading Settings := do
  if !color.hashable then throw (Fault.unhashable color)
  match color with
  | .str c =>
    if colorValues.contains c then pure ({ s with color := c }.setSource "ui.color" source)
    else rejectValue "ui.color" color colorValues source
  | _ => rejectValue "ui.color" color colorValues source

/-- Merges a `ui` section: warnings for its unknown keys, then its color and its verbosity. -/
def Settings.mergeUi (s : Settings) (ui : Value) (source : String) : Loading Settings := do
  warnUnknownKeys ui ["color", "verbose"] "ui" source
  let s ← if sectionHas ui "color" then
      s.mergeColor (← Loading.lift (sectionGet ui "color")) source
    else pure s
  if sectionHas ui "verbose" then
    let verbose ← Loading.lift (sectionGet ui "verbose")
    pure ({ s with verbose := verbose.truthy }.setSource "ui.verbose" source)
  else pure s

/-- Merges a `logging` section: warnings for its unknown keys, then its level, which in upper
case must be a level name. -/
def Settings.mergeLogging (s : Settings) (logging : Value) (source : String) :
    Loading Settings := do
  warnUnknownKeys logging ["level"] "logging" source
  if sectionHas logging "level" then
    let level ← Loading.lift (sectionGet logging "level")
    match ← Loading.lift (levelOf? level) with
    | some l => pure ({ s with level := l }.setSource "logging.level" source)
    | none => rejectValue "logging.level" level logLevels source
  else pure s

/-- Merges one file's document into the settings. -/
def Settings.merge (s : Settings) (data : Value) (source : String) : Loading Settings := do
  let entries := data.tableEntries
  warnUnknownSections entries source
  let s ← match Value.lookup entries "ui" with
    | some ui => s.mergeUi ui source
    | none => pure s
  match Value.lookup entries "logging" with
  | some logging => s.mergeLogging logging source
  | none => pure s

/-- Reads a file's document and merges it into the settings, the text being read three steps
below `depth` (loading the file, reading its bytes, reading its text). -/
def Settings.mergeFile (s : Settings) (disk : Disk) (path : DiskPath) (depth : Nat) :
    Loading Settings := do
  let data ← Loading.lift (readDocument disk path (depth + 3))
  s.merge data path.text

/-- Loads the settings: the defaults, then the user file, then the repository file found
from the start directory. Loading is a step at `depth` of the call stack. -/
def Settings.load (disk : Disk) (start userConfig : DiskPath) (depth : Nat) : Loading Settings := do
  let s ← if (disk.file? userConfig).isSome then ({} : Settings).mergeFile disk userConfig depth
    else pure {}
  match findRepoConfig disk start with
  | some repo => s.mergeFile disk repo depth
  | none => pure s

end CommandLine
