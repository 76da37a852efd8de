import CommandLine.Catalog.Descriptor

/-!
# The catalog consistency check

A catalog is consistent when every entry is a descriptor, no descriptor has a problem, and
no name occurs twice in the names of all descriptors taken in catalog order (gated
commands included: their names stay reserved).

The check walks the entries in order. A foreign entry is one problem. A descriptor adds its
own problems, then each of its names is looked up among the names seen so far: a new name
is recorded with its owner; a name seen before is an alias listed twice when the owner is
this descriptor and the name is not its canonical one, and a duplicate otherwise.

Names are looked up as keys, so a list or table used as a name is a type error. An owner
recorded as nothing counts as no owner: the name is then recorded again, and the new
record wins.
-/

namespace CommandLine

/-- What the check has seen: every name met so far with the canonical name of its owner,
the latest record first. -/
abbrev Owners := List (Value × Value)

/-- The owner recorded for a name; names that cannot be keys are a type error. -/
def ownerOf (owners : Owners) (name : Value) : Except Fault (Option Value) :=
  if !name.hashable then throw (Fault.unhashable name)
  else pure ((owners.find? (·.1.same name)).map (·.2))

def notDescriptor (v : Value) : String := "not a CommandDescriptor: " ++ v.literal

def aliasListedTwice (d : Descriptor) (name : Value) : String :=
  "'" ++ d.label ++ "': alias " ++ name.literal ++ " listed twice"

/-- The problem of a name used again: the name, the owner recorded for it, and the command
using it again. -/
def duplicateCommandName (name owner : Value) (d : Descriptor) : String :=
  "duplicate command name " ++ name.literal ++ " (used by '" ++ owner.display ++ "' and '" ++
    d.label ++ "')"

/-- The problem a name used again adds, against the owner recorded for it: an alias listed
twice when the owner is this command and the name is not its canonical one, a duplicate
otherwise. -/
def repeatProblem (d : Descriptor) (name owner : Value) : String :=
  if owner.equals d.name && !name.equals d.name then aliasListedTwice d name
  else duplicateCommandName name owner d

/-- The problems one name of a descriptor adds, and the owners after it. -/
def checkName (d : Descriptor) (acc : List String × Owners) (name : Value) :
    Except Fault (List String × Owners) := do
  let (problems, owners) := acc
  match ← ownerOf owners name with
  | none | some .none => pure (problems, (name, d.name) :: owners)
  | some owner => pure (problems ++ [repeatProblem d name owner], owners)

def checkEntry (acc : List String × Owners) : Entry → Except Fault (List String × Owners)
  | .foreign v => pure (acc.1 ++ [notDescriptor v], acc.2)
  | .descriptor d => d.allNames.foldlM (checkName d) (acc.1 ++ d.problems, acc.2)

def Catalog.problems (c : Catalog) : Except Fault (List String) :=
  (·.1) <$> c.entries.foldlM checkEntry ([], [])

/-- The error for an inconsistent catalog. -/
def inconsistentCatalog (problems : List String) : CliError where
  kind := .catalog
  message := "Command catalog is inconsistent"
  context := [("problems", .str ("; ".intercalate problems))]
  suggestions := List.map .str ["Fix the command catalog; this is a bug in the build"]

/-- Checks a catalog: an inconsistent one is a catalog error listing every problem. -/
def Catalog.check (c : Catalog) : Except Fault Unit := do
  let problems ← c.problems
  if problems.isEmpty then pure () else throw (.cli (inconsistentCatalog problems))

end CommandLine
