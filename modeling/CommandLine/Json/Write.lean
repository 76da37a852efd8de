import CommandLine.Value.Show

/-!
# Writing values as JSON text

The writer puts `, ` between items and `: ` between a key and its value, keeps the entries
of a table in their order, and writes doubles in their shortest form (`Decimal.Layout.json`,
so not-a-number is `NaN`). In strings, the quote, the backslash and control characters are
escaped; with `asciiOnly`, so is every character outside printable ASCII, as `\uXXXX`
(characters above the first plane as a surrogate pair).

Calendar values have no JSON form; they are written as the string of their display text.
-/

namespace CommandLine.Json

def unicodeEscape (n : Nat) : String := "\\u" ++ Text.hexPadded n 4

/-- The escaped form of one character inside a JSON string. -/
def escapeChar (asciiOnly : Bool) (c : Char) : String :=
  if c = '"' then "\\\""
  else if c = '\\' then "\\\\"
  else if c = '\n' then "\\n"
  else if c = '\r' then "\\r"
  else if c = '\t' then "\\t"
  else if c = '\x08' then "\\b"
  else if c = '\x0c' then "\\f"
  else if c.toNat < 0x20 then unicodeEscape c.toNat
  else if asciiOnly ∧ c.toNat ≥ 0x7f then
    if c.toNat < 0x10000 then unicodeEscape c.toNat
    else
      let v := c.toNat - 0x10000
      unicodeEscape (0xD800 + v / 0x400) ++ unicodeEscape (0xDC00 + v % 0x400)
  else String.singleton c

def quoteString (asciiOnly : Bool) (s : String) : String :=
  "\"" ++ s.toList.foldl (fun acc c => acc ++ escapeChar asciiOnly c) "" ++ "\""

mutual
/-- The JSON text of a value. -/
def write (asciiOnly : Bool) : Value → String
  | .none => "null"
  | .bool b => if b then "true" else "false"
  | .int n => toString n
  | .float x => Decimal.Layout.json.show x
  | .str s => quoteString asciiOnly s
  | .list items => "[" ++ joinWith ", " (writeItems asciiOnly items) ++ "]"
  | .table entries => "\x7b" ++ joinWith ", " (writeEntries asciiOnly entries) ++ "\x7d"
  | v => quoteString asciiOnly v.display

def writeItems (asciiOnly : Bool) : List Value → List String
  | [] => []
  | v :: vs => write asciiOnly v :: writeItems asciiOnly vs

/-- The `"key": value` texts of table entries. -/
def writeEntries (asciiOnly : Bool) : List (String × Value) → List String
  | [] => []
  | (k, v) :: rest =>
    (quoteString asciiOnly k ++ ": " ++ write asciiOnly v) :: writeEntries asciiOnly rest
end

end CommandLine.Json
