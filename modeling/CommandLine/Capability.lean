import CommandLine.Fault
import CommandLine.Text.Case
import CommandLine.Text.Blank

/-!
# Capabilities

A capability is an optional feature of a build. A command that needs a capability the
build does not enable is left out of the command line altogether, as if it had never been
written.

The enabled set comes from the `JJ_CLI_FEATURES` variable: unset, it is the standard build
(`git` only); set, it is the comma-separated list of names it holds. Each name is trimmed and
put in lower case, blank names are skipped, and an unknown name is a configuration error.
-/

namespace CommandLine

/-- The optional features, in declaration order. -/
inductive Capability where
  | git
  | bench
  deriving DecidableEq, Repr, Inhabited

namespace Capability

def all : List Capability := [.git, .bench]

def name : Capability → String
  | .git => "git"
  | .bench => "bench"

def ofName? (s : String) : Option Capability := all.find? (·.name == s)

end Capability

def featuresVariable : String := "JJ_CLI_FEATURES"

/-- A set of enabled capabilities, one flag per capability. -/
structure CapabilitySet where
  git : Bool
  bench : Bool
  deriving DecidableEq, Repr, Inhabited

namespace CapabilitySet

def standard : CapabilitySet := ⟨true, false⟩

def full : CapabilitySet := ⟨true, true⟩

def empty : CapabilitySet := ⟨false, false⟩

def contains (s : CapabilitySet) : Capability → Bool
  | .git => s.git
  | .bench => s.bench

def insert (s : CapabilitySet) : Capability → CapabilitySet
  | .git => { s with git := true }
  | .bench => { s with bench := true }

def satisfies (s : CapabilitySet) : Option Capability → Bool
  | none => true
  | some c => s.contains c

/-- The names of the enabled capabilities, sorted. -/
def names (s : CapabilitySet) : List String :=
  (if s.bench then ["bench"] else []) ++ (if s.git then ["git"] else [])

/-- The error for a name that is not a feature. -/
def unknownFeature (name : String) : CliError where
  kind := .config
  message := "Unknown feature '" ++ name ++ "'"
  context := [("variable", .str featuresVariable)]
  suggestions := List.map .str ["Known features: " ++ ", ".intercalate (Capability.all.map (·.name))]

/-- Builds a set from feature names: each is trimmed and put in lower case, blanks are
skipped, and the first unknown name is an error. -/
def ofNames (names : List String) : Except CliError CapabilitySet :=
  names.foldlM (fun acc raw =>
    let name := Text.lower (Text.trimBlank raw)
    if name.isEmpty then pure acc
    else match Capability.ofName? name with
      | some c => pure (acc.insert c)
      | none => throw (unknownFeature name)) empty

/-- The enabled set for a value of the features variable: the standard build when it is
unset, else the names it lists, separated by commas. -/
def ofVariable : Option String → Except CliError CapabilitySet
  | none => pure standard
  | some raw => ofNames (raw.splitOn ",")

end CapabilitySet

end CommandLine
