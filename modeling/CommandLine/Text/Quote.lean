import CommandLine.Text.Printable

/-!
# Quoted text

The literal form of a text: the text between quotes, with every character that would not
read back as itself escaped. The quote is the apostrophe, unless the text holds an
apostrophe and no double quote, in which case it is the double quote. Inside, the chosen
quote and the backslash are escaped with a backslash; tab, line feed and carriage return
are written `\t`, `\n`, `\r`; other characters that are not printable are written by their
code point, `\xhh` below 256, `\uhhhh` below 65536 and `\Uhhhhhhhh` above.
-/

namespace CommandLine.Text

/-- Lower-case hexadecimal digits of `n`, padded with zeros to `width`. -/
def hexPadded (n width : Nat) : String :=
  let ds := Nat.toDigits 16 n
  String.ofList (List.replicate (width - ds.length) '0' ++ ds)

/-- The escaped form of one character inside a literal quoted with `quote`. -/
def escapeChar (quote : Char) (c : Char) : String :=
  if c = quote ∨ c = '\\' then "\\" ++ String.singleton c
  else if c = '\t' then "\\t"
  else if c = '\n' then "\\n"
  else if c = '\r' then "\\r"
  else if isPrintable c then String.singleton c
  else if c.toNat < 0x100 then "\\x" ++ hexPadded c.toNat 2
  else if c.toNat < 0x10000 then "\\u" ++ hexPadded c.toNat 4
  else "\\U" ++ hexPadded c.toNat 8

def quoteFor (s : String) : Char :=
  if s.contains '\'' && !s.contains '"' then '"' else '\''

/-- The literal form of a text. -/
def quote (s : String) : String :=
  let q := quoteFor s
  let body := s.toList.foldl (fun acc c => acc ++ escapeChar q c) ""
  String.singleton q ++ body ++ String.singleton q

end CommandLine.Text
