import CommandLine.Fault

/-!
# Templates with named fields

A template is a text in which `%` starts a directive and `%%` stands for `%` itself. A
directive is `%`, an optional key in brackets, flags, a width, a precision, an optional
length letter (`h`, `l` or `L`, ignored) and a conversion letter: `%(prog)s`, `%(prog)-10r`,
`%.3s`.

Filling a template reads its directives from left to right against one argument at a
time. At the start the argument is the table of fields itself; a key in brackets makes
the field of that name the argument. A conversion takes the argument and leaves none, so a
directive without a key that comes after one that took the argument has nothing to read.

Conversions: `s` gives a text as it is, `r` its literal, `a` its literal with every
character outside ASCII written by its code point, and `c` a text of exactly one
character. The table of fields shows as its literal under `s`, `r` and `a`. A precision
cuts what `s`, `r` and `a` give to that many characters; a width pads with spaces on the
left, or on the right with the `-` flag. No argument is a number, so the numeric
conversions and a `*` width or precision always fail.

Failures come in the order the reader meets them: an unclosed key, an unknown key (the
key's literal), a width or precision too large or given by `*`, a template that ends
inside a directive, a directive with no argument left, and last the conversion itself,
where an unknown letter is reported with its code point and its position in the template.

## Termination

Every step of the fill consumes at least one character, so the template's length bounds
the number of steps.
-/

namespace CommandLine.Template

/-- What a directive reads: the table of fields, or the text of one field. -/
inductive Arg where
  | fields (entries : List (String × String))
  | text (s : String)

def Arg.typeName : Arg → String
  | .fields _ => "dict"
  | .text _ => "str"

def Arg.literal : Arg → String
  | .fields es => (Value.table (es.map fun (k, v) => (k, .str v))).literal
  | .text s => Text.quote s

/-- A literal with every character outside ASCII written by its code point: `\xhh` below
256, `\uhhhh` below 65536, `\Uhhhhhhhh` above. -/
def asciiLiteral (s : String) : String :=
  String.join (s.toList.map fun c =>
    if c.toNat < 0x80 then String.singleton c
    else if c.toNat < 0x100 then "\\x" ++ Text.hexPadded c.toNat 2
    else if c.toNat < 0x10000 then "\\u" ++ Text.hexPadded c.toNat 4
    else "\\U" ++ Text.hexPadded c.toNat 8)

/-- A directive once read, up to its conversion letter. -/
structure Directive where
  /-- Whether the `-` flag asks for padding on the right. -/
  leftAlign : Bool
  /-- The least number of characters the conversion fills. -/
  width : Nat
  /-- The most characters `s`, `r` and `a` keep. -/
  precision : Option Nat
  /-- The conversion letter. -/
  conversion : Char
  /-- The position of the conversion letter in the template. -/
  position : Nat

def maxWidth : Nat := 9223372036854775807

def maxPrecision : Nat := 2147483647

def incomplete : Fault := .runtime .value "incomplete format"

def exhausted : Fault := .runtime .type "not enough arguments for format string"

/-- The failure of a `*` width or precision: it reads an argument, which is never a
number. -/
def starFault (arg : Option Arg) : Fault :=
  if arg.isSome then .runtime .type "* wants int" else exhausted

/-- Reads a key up to its closing bracket, nested brackets included: the key and the
characters after the bracket; nothing when the bracket never closes. -/
def readKey (depth : Nat) (acc : List Char) : List Char → Option (List Char × List Char)
  | [] => none
  | c :: rest =>
    if c = ')' then
      if depth = 0 then some (acc.reverse, rest) else readKey (depth - 1) (c :: acc) rest
    else readKey (if c = '(' then depth + 1 else depth) (c :: acc) rest

/-- Reads flags: whether `-` was among them, and the characters after them. -/
def readFlags (left : Bool) : List Char → Bool × List Char
  | c :: rest =>
    if c = '-' then readFlags true rest
    else if c = '+' ∨ c = ' ' ∨ c = '#' ∨ c = '0' then readFlags left rest
    else (left, c :: rest)
  | [] => (left, [])

def readNumber (n : Nat) : List Char → Nat × List Char
  | c :: rest => if c.isDigit then readNumber (10 * n + (c.toNat - 48)) rest else (n, c :: rest)
  | [] => (n, [])

/-- Reads a width: zero when there is none. -/
def readWidth (arg : Option Arg) (cs : List Char) : Except Fault (Nat × List Char) :=
  match cs with
  | '*' :: _ => throw (starFault arg)
  | c :: _ =>
    if c.isDigit then
      let (n, rest) := readNumber 0 cs
      if n > maxWidth then throw (.runtime .value "width too big") else pure (n, rest)
    else pure (0, cs)
  | [] => pure (0, [])

/-- Reads a precision: a point, then digits (none counting as zero). -/
def readPrecision (arg : Option Arg) (cs : List Char) : Except Fault (Option Nat × List Char) :=
  match cs with
  | '.' :: rest =>
    match rest with
    | '*' :: _ => throw (starFault arg)
    | c :: _ =>
      if c.isDigit then
        let (n, rest) := readNumber 0 rest
        if n > maxPrecision then throw (.runtime .value "precision too big") else pure (some n, rest)
      else pure (some 0, rest)
    | [] => pure (some 0, [])
  | _ => pure (none, cs)

def dropLength : List Char → List Char
  | c :: rest => if c = 'h' ∨ c = 'l' ∨ c = 'L' then rest else c :: rest
  | [] => []

/-- Reads a directive after its `%` (which is not followed by another `%`), in a template
of `total` characters: the argument it converts, the directive, and the characters after
it. -/
def readDirective (fields : List (String × String)) (total : Nat) (arg : Option Arg)
    (cs : List Char) : Except Fault (Arg × Directive × List Char) := do
  let (arg, cs) ← match cs with
    | '(' :: rest =>
      match readKey 0 [] rest with
      | none => throw (.runtime .value "incomplete format key")
      | some (key, rest) =>
        let key := String.ofList key
        match fields.lookup key with
        | some v => pure (some (Arg.text v), rest)
        | none => throw (.runtime .key (Text.quote key))
    | _ => pure (arg, cs)
  let (left, cs) := readFlags false cs
  let (width, cs) ← readWidth arg cs
  let (precision, cs) ← readPrecision arg cs
  match dropLength cs with
  | [] => throw incomplete
  | c :: rest =>
    match arg with
    | none => throw exhausted
    | some a => pure (a, ⟨left, width, precision, c, total - rest.length - 1⟩, rest)

/-- The failure of an unknown conversion letter: the letter (a question mark when it is not
printable ASCII), its code point in hexadecimal and its position. -/
def unsupported (c : Char) (position : Nat) : Fault :=
  let shown := if 31 ≤ c.toNat ∧ c.toNat ≤ 126 then c else '?'
  .runtime .value ("unsupported format character '" ++ String.singleton shown ++ "' (0x" ++
    String.ofList (Nat.toDigits 16 c.toNat) ++ ") at index " ++ toString position)

/-- What a conversion makes of its argument, before padding. -/
def convert (a : Arg) (d : Directive) : Except Fault String :=
  let c := d.conversion
  if c = 's' then
    pure (match a with
      | .text s => s
      | .fields _ => a.literal)
  else if c = 'r' then pure a.literal
  else if c = 'a' then pure (asciiLiteral a.literal)
  else if c = 'c' then
    match a with
    | .text s => if s.length = 1 then pure s else throw (.runtime .type "%c requires int or char")
    | .fields _ => throw (.runtime .type "%c requires int or char")
  else if c = 'd' ∨ c = 'i' ∨ c = 'u' then
    throw (.runtime .type ("%" ++ String.singleton c ++ " format: a real number is required, not " ++
      a.typeName))
  else if c = 'o' ∨ c = 'x' ∨ c = 'X' then
    throw (.runtime .type ("%" ++ String.singleton c ++ " format: an integer is required, not " ++
      a.typeName))
  else if c = 'e' ∨ c = 'E' ∨ c = 'f' ∨ c = 'F' ∨ c = 'g' ∨ c = 'G' then
    throw (.runtime .type ("must be real number, not " ++ a.typeName))
  else throw (unsupported c d.position)

/-- A converted text cut to the precision (for `s`, `r` and `a`) and padded to the width. -/
def pad (d : Directive) (s : String) : String :=
  let cs := s.toList
  let cs := match d.precision with
    | some p => if d.conversion = 's' ∨ d.conversion = 'r' ∨ d.conversion = 'a' then cs.take p else cs
    | none => cs
  let fill := List.replicate (d.width - cs.length) ' '
  String.ofList (if d.leftAlign then cs ++ fill else fill ++ cs)

def holds (part : List Char) : List Char → Bool
  | [] => part.isEmpty
  | c :: rest => part.isPrefixOf (c :: rest) || holds part rest

def asksFor (text key : String) : Bool := holds ("%(" ++ key ++ ")").toList text.toList

/-- Fills a template with the given fields. -/
def fill (template : String) (fields : List (String × String)) : Except Fault String :=
  let total := template.length
  let rec go (fuel : Nat) (arg : Option Arg) (cs : List Char) (out : String) :
      Except Fault String :=
    match fuel, cs with
    | 0, _ => pure out
    | _, [] => pure out
    | fuel + 1, '%' :: '%' :: rest => go fuel arg rest (out.push '%')
    | fuel + 1, '%' :: rest => do
      let (a, d, rest) ← readDirective fields total arg rest
      let piece ← convert a d
      go fuel none rest (out ++ pad d piece)
    | fuel + 1, c :: rest => go fuel arg rest (out.push c)
  go (total + 1) (some (.fields fields)) template.toList ""

end CommandLine.Template
