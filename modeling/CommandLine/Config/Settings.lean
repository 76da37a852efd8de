import CommandLine.Value.Basic

/-!
# Settings

The merged configuration: the color choice and verbosity of the terminal output, and the
level of diagnostic logging. Each setting remembers the file it came from; one that no
file sets comes from the defaults.
-/

namespace CommandLine

/-- The merged configuration, with the file each setting came from. -/
structure Settings where
  color : String := "auto"
  verbose : Bool := false
  level : String := "WARNING"
  /-- The file each setting came from, by setting name (`ui.color`, …), in order of
  first setting. -/
  sources : List (String × String) := []
  deriving Inhabited, Repr

namespace Settings

def sourceOf (s : Settings) (key : String) : String :=
  (s.sources.find? (·.1 == key)).map (·.2) |>.getD "default"

/-- Records the file a setting came from (a later file replaces an earlier one in place). -/
def setSource (s : Settings) (key file : String) : Settings :=
  if s.sources.any (·.1 == key) then
    { s with sources := s.sources.map fun (k, f) => if k == key then (k, file) else (k, f) }
  else { s with sources := s.sources ++ [(key, file)] }

/-- The settings as a value: color, verbosity and level. -/
def toValue (s : Settings) : Value :=
  .table [("color", .str s.color), ("verbose", .bool s.verbose), ("level", .str s.level)]

end Settings

end CommandLine
