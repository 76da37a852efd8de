import CommandLine.Handler
import CommandLine.Presentation

/-!
# Command descriptors and catalogs

A descriptor is the catalog entry of one command: its canonical name, its handler, its
argument schema, a one-line summary, aliases shown in listings and hidden aliases that
match but are never listed, whether the command itself is hidden, the heading it is listed
under, and the capability it needs.

A catalog is the ordered list of every command the front end knows, gated ones included.
An entry of a catalog is normally a descriptor; anything else found there is kept as a
foreign value, which the consistency check reports.

Names are values: a catalog can hold names that are not texts, and the check reports
them. Two names are the same name when they are equal as values.

## Main definitions

* `validName`: the command name grammar, lowercase words of letters and digits joined by
  single hyphens, starting with a letter.
* `Descriptor.problems`: everything malformed about one descriptor.
-/

namespace CommandLine

/-- The capability a command needs: none, one, or a value that is not a capability. -/
inductive Requirement where
  | none
  | needs (c : Capability)
  | other (v : Value)
  deriving Inhabited

namespace Requirement

/-- A requirement as a value: the capability's name, nothing, or the value itself. -/
def toValue : Requirement → Value
  | .none => .none
  | .needs c => .str c.name
  | .other v => v

end Requirement

/-- The catalog entry of one command. -/
structure Descriptor where
  name : Value
  handler : Handler
  args : ArgsKind
  help : Value := .str ""
  aliases : List Value := []
  hiddenAliases : List Value := []
  hidden : Bool := false
  placement : Placement := .category .advanced
  requires : Requirement := .none
  deriving Inhabited

/-- Whether a text is a word of lowercase ASCII letters and digits starting with a letter,
or such words joined by single hyphens. -/
def wordsJoined (cs : List Char) : Bool :=
  let isLower (c : Char) := 'a' ≤ c ∧ c ≤ 'z'
  let isWordChar (c : Char) := isLower c ∨ ('0' ≤ c ∧ c ≤ '9')
  match cs with
  | c :: _ =>
    isLower c &&
      (cs.splitOn '-').all fun w => !w.isEmpty && w.all isWordChar
  | [] => false

/-- The command name grammar: words joined by single hyphens, starting with a letter; a
single trailing line feed is also accepted. -/
def validName (s : String) : Bool :=
  let cs := s.toList
  wordsJoined cs || (cs.getLast? = some '\n' && wordsJoined cs.dropLast)

namespace Descriptor

def allNames (d : Descriptor) : List Value := d.name :: d.aliases ++ d.hiddenAliases

def label (d : Descriptor) : String := d.name.display

def nameText? (d : Descriptor) : Option String := d.name.asString?

/-- The help category a descriptor is listed under, when it is one. -/
def category? (d : Descriptor) : Option HelpCategory :=
  match d.placement with
  | .category c => some c
  | .other _ => none

/-- The capability a descriptor needs; `none` also for a requirement that is not a
capability. -/
def capability? (d : Descriptor) : Option Capability :=
  match d.requires with
  | .needs c => some c
  | _ => none

def invalidName (d : Descriptor) (n : Value) : String :=
  "'" ++ d.label ++ "': invalid command name " ++ n.literal

/-- The problems of a descriptor's names, in order: one for each name that is not a text the
grammar accepts. -/
def nameProblems (d : Descriptor) : List String :=
  d.allNames.filterMap fun n =>
    match n with
    | .str s => if validName s then none else some (d.invalidName n)
    | _ => some (d.invalidName n)

/-- The problems of a descriptor's other fields, in this order: a handler that cannot be
called, a malformed argument schema, a heading that is not a category, a requirement that is
not a capability. -/
def fieldProblems (d : Descriptor) : List String :=
  let pre := "'" ++ d.label ++ "': "
  (if d.handler.callable then [] else [pre ++ "handler is not callable"]) ++
    (if d.args.wellFormed then []
      else [pre ++ "args type must define add_arguments() and from_namespace()"]) ++
    (match d.placement with
      | .category _ => []
      | .other _ => [pre ++ "help category must be a HelpCategory"]) ++
    (match d.requires with
      | .other _ => [pre ++ "requirement must be a Capability or None"]
      | _ => [])

def problems (d : Descriptor) : List String := d.nameProblems ++ d.fieldProblems

/-- A descriptor as a value: name, help, aliases, hidden aliases, whether hidden, the
heading, the requirement, the schema's type name and the handler's dotted name. -/
def toValue (d : Descriptor) : Value :=
  .table [("name", d.name), ("help", d.help), ("aliases", .list d.aliases),
    ("hidden_aliases", .list d.hiddenAliases), ("hidden", .bool d.hidden),
    ("category", d.placement.toValue), ("requires", d.requires.toValue),
    ("args_type", .str d.args.className),
    ("handler", (d.handler.dottedName?.map Value.str).getD .none)]

end Descriptor

/-- An entry of a catalog: a descriptor, or a foreign value. -/
inductive Entry where
  | descriptor (d : Descriptor)
  | foreign (v : Value)
  deriving Inhabited

/-- The ordered collection of every command. -/
structure Catalog where
  entries : List Entry
  deriving Inhabited

namespace Catalog

def size (c : Catalog) : Nat := c.entries.length

def foreignName (v : Value) : Fault := Fault.missingAttribute ("'" ++ v.typeName ++ "' object") "name"

/-- The names of the entries, in order. -/
def names (c : Catalog) : Except Fault (List Value) :=
  c.entries.mapM fun e =>
    match e with
    | .descriptor d => pure d.name
    | .foreign v => throw (foreignName v)

/-- Whether some entry has this canonical name; entries are asked in order and the first
match answers. -/
def contains (c : Catalog) (name : Value) : Except Fault Bool :=
  let rec go : List Entry → Except Fault Bool
    | [] => pure false
    | .descriptor d :: rest => if d.name.equals name then pure true else go rest
    | .foreign v :: _ => throw (foreignName v)
  go c.entries

/-- The first entry with this canonical name. -/
def get? (c : Catalog) (name : Value) : Except Fault (Option Descriptor) :=
  let rec go : List Entry → Except Fault (Option Descriptor)
    | [] => pure none
    | .descriptor d :: rest => if d.name.equals name then pure (some d) else go rest
    | .foreign v :: _ => throw (foreignName v)
  go c.entries

/-- The descriptors of the catalog, when every entry is one. -/
def descriptors? (c : Catalog) : Option (List Descriptor) :=
  c.entries.mapM fun e =>
    match e with
    | .descriptor d => some d
    | .foreign _ => none

end Catalog

end CommandLine
