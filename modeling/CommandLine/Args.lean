import CommandLine.Value.Basic

/-!
# Argument schemas and decoded arguments

Every command names an argument schema: the options and positionals its part of the
command line accepts, and how a match is decoded into the value its handler receives.

* `raw`: every token after the command, untouched (its parser reads no option at all);
* `none`: nothing;
* `help`: the names of the commands to describe;
* `flag`: one switch, `--flag`.

Two malformed schemas can also appear in a catalog: one that defines neither part of the
protocol, and one that can add its arguments but not decode them.
-/

namespace CommandLine

/-- The argument schema of a command. -/
inductive ArgsKind where
  | raw
  | none
  | help
  | flag
  /-- A schema with neither part of the protocol. -/
  | bad
  /-- A schema that adds arguments (none) but cannot decode them. -/
  | half
  deriving DecidableEq, Repr, Inhabited

namespace ArgsKind

/-- The type name of a schema. -/
def className : ArgsKind → String
  | .raw => "RawArgs"
  | .none => "NoArgs"
  | .help => "HelpArgs"
  | .flag => "FlagArgs"
  | .bad => "BadArgs"
  | .half => "HalfArgs"

def wellFormed : ArgsKind → Bool
  | .bad | .half => false
  | _ => true

end ArgsKind

/-- Decoded arguments, as a handler receives them. A handler called directly may also be
given no arguments at all (`absent`). -/
inductive Args where
  | raw (argv : List Value)
  | none
  | help (commands : List Value)
  | flag (on : Value)
  | absent
  deriving Inhabited

namespace Args

/-- The type name of decoded arguments. -/
def className : Args → String
  | .raw _ => ArgsKind.raw.className
  | .none => ArgsKind.none.className
  | .help _ => ArgsKind.help.className
  | .flag _ => ArgsKind.flag.className
  | .absent => "NoneType"

/-- Decoded arguments as a value: the schema's type name, then its field; absent arguments
are nothing. -/
def toValue (a : Args) : Value :=
  let fields : List (String × Value) := match a with
    | .raw argv => [("argv", .list argv)]
    | .help commands => [("command", .list commands)]
    | .flag on => [("flag", on)]
    | _ => []
  match a with
  | .absent => .none
  | _ => .table (("type", .str a.className) :: fields)

end Args

end CommandLine
