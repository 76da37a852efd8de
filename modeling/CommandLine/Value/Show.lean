import CommandLine.Value.Basic
import CommandLine.Text.Quote

/-!
# The text of a value

Two texts belong to every value. Its *display* is what a message shows when the value is
put into it: a text shows itself, nothing shows as `None`, truth values as `True` and
`False`. Its *literal* is the form that reads back as the value: texts are quoted, dates
and times are written as their constructors. Collections show their items as literals
either way: `[1, 'x']`, `{'k': 'v'}`.

Doubles take the shortest digits that read back (`Decimal.Layout.value`): `1.5`, `1e+20`,
`inf`, `nan`. A whole number of more than `digitLimit` digits has no text: a value that
holds one is not `writable`, and whoever writes it fails instead.
-/

namespace CommandLine

def pad2 (n : Nat) : String := Decimal.padLeft (toString n) 2

def Date.iso (d : Date) : String :=
  Decimal.padLeft (toString d.year) 4 ++ "-" ++ pad2 d.month ++ "-" ++ pad2 d.day

/-- `HH:MM:SS`, then `.ffffff` when there are microseconds. -/
def TimeOfDay.iso (t : TimeOfDay) : String :=
  pad2 t.hour ++ ":" ++ pad2 t.minute ++ ":" ++ pad2 t.second ++
    (if t.micros = 0 then "" else "." ++ Decimal.padLeft (toString t.micros) 6)

/-- An offset from UTC as `+HH:MM` or `-HH:MM`. -/
def offsetText (minutes : Int) : String :=
  (if minutes < 0 then "-" else "+") ++ pad2 (minutes.natAbs / 60) ++ ":" ++
    pad2 (minutes.natAbs % 60)

/-- The literal of an offset from UTC as a time zone: UTC itself, or a zone built from a
signed time difference (a negative difference is a day back plus seconds forward). -/
def offsetLiteral (minutes : Int) : String :=
  if minutes = 0 then "datetime.timezone.utc"
  else
    let seconds := minutes * 60
    let delta :=
      if seconds < 0 then
        "datetime.timedelta(days=-1, seconds=" ++ toString (86400 + seconds) ++ ")"
      else "datetime.timedelta(seconds=" ++ toString seconds ++ ")"
    "datetime.timezone(" ++ delta ++ ")"

/-- The constructor arguments of a time: hour and minute always, then the second when it
or the microseconds are nonzero, then the microseconds when nonzero. -/
def TimeOfDay.fields (t : TimeOfDay) : List Nat :=
  if t.micros ≠ 0 then [t.hour, t.minute, t.second, t.micros]
  else if t.second ≠ 0 then [t.hour, t.minute, t.second]
  else [t.hour, t.minute]

def joinWith (sep : String) : List String → String
  | [] => ""
  | x :: xs => xs.foldl (fun acc y => acc ++ sep ++ y) x

/-- The most decimal digits a whole number may have to be written as text or read from it. -/
def digitLimit : Nat := 4300

def tooLongForText (n : Int) : Bool := n.natAbs ≥ Nat.pow 10 digitLimit

namespace Value

mutual
/-- Whether a value can be written as text: it holds no whole number, at any level, that is
too long for it. -/
def writable : Value → Bool
  | .int n => !tooLongForText n
  | .list items => writableItems items
  | .table entries => writableEntries entries
  | _ => true

def writableItems : List Value → Bool
  | [] => true
  | v :: vs => writable v && writableItems vs

/-- Whether every table value can be written as text. -/
def writableEntries : List (String × Value) → Bool
  | [] => true
  | (_, v) :: rest => writable v && writableEntries rest
end

mutual
/-- The literal form of a value. -/
def literal : Value → String
  | .str s => Text.quote s
  | .list items => "[" ++ joinWith ", " (literalItems items) ++ "]"
  | .table entries => "\x7b" ++ joinWith ", " (literalEntries entries) ++ "\x7d"
  | .date d => "datetime.date(" ++ joinWith ", " ([d.year, d.month, d.day].map toString) ++ ")"
  | .time t => "datetime.time(" ++ joinWith ", " (t.fields.map toString) ++ ")"
  | .stamp d t o =>
    let args := [d.year, d.month, d.day] ++ t.fields
    "datetime.datetime(" ++ joinWith ", " (args.map toString) ++
      (match o with
       | some m => ", tzinfo=" ++ offsetLiteral m
       | Option.none => "") ++ ")"
  | .none => "None"
  | .bool b => if b then "True" else "False"
  | .int n => toString n
  | .float x => Decimal.Layout.value.show x

def literalItems : List Value → List String
  | [] => []
  | v :: vs => literal v :: literalItems vs

/-- The `key: value` literals of table entries. -/
def literalEntries : List (String × Value) → List String
  | [] => []
  | (k, v) :: rest => (Text.quote k ++ ": " ++ literal v) :: literalEntries rest
end

/-- The display text of a value. -/
def display : Value → String
  | .str s => s
  | .date d => d.iso
  | .time t => t.iso
  | .stamp d t o => d.iso ++ " " ++ t.iso ++ (o.map offsetText).getD ""
  | v => v.literal

end Value

end CommandLine
