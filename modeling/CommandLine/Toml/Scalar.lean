import CommandLine.Toml.Stack

/-!
# TOML scalars

The lexical layer of the TOML reader: positions in a document and the errors that point at
them, blanks and comments, strings (basic, literal and their multi-line forms), numbers
(integers in four bases, floats, `inf` and `nan`), and the calendar values (offset and
local date-times, dates, times).

A document is read as an array of characters, after every CR LF pair has become a single
line feed. Positions count characters; an error names the line and column of its position,
or the end of the document.

Every reader takes the depth of its own step on the call stack (see `Toml.Stack`) and the
position to start at, and returns the position after what it read, or an error.
-/

namespace CommandLine.Toml

/-- The line and column of a position, or `end of document` past the last character. -/
def coordinates (src : Source) (pos : Nat) : String :=
  if pos ≥ src.size then "end of document"
  else
    let before := (src.extract 0 pos).toList
    let line := before.count '\n' + 1
    let column := (before.reverse.takeWhile (· ≠ '\n')).length + 1
    "line " ++ toString line ++ ", column " ++ toString column

def errorText (src : Source) (message : String) (pos : Nat) : String :=
  message ++ " (at " ++ coordinates src pos ++ ")"

/-! ## Characters -/

def isControl (c : Char) : Bool := c.toNat < 32 || c.toNat = 127

/-- Characters a one-line string or a comment may not hold: controls other than tab. -/
def illegalInLine (c : Char) : Bool := isControl c && c ≠ '\t'

/-- Characters a multi-line string may not hold: controls other than tab and line feed. -/
def illegalInBlock (c : Char) : Bool := isControl c && c ≠ '\t' && c ≠ '\n'

def isBlank (c : Char) : Bool := c = ' ' || c = '\t'

def isBlankOrBreak (c : Char) : Bool := isBlank c || c = '\n'

def isBareKeyChar (c : Char) : Bool := c.isAlphanum || c = '-' || c = '_'

def isDigit (c : Char) : Bool := '0' ≤ c && c ≤ '9'

def isHexDigit (c : Char) : Bool := isDigit c || ('a' ≤ c && c ≤ 'f') || ('A' ≤ c && c ≤ 'F')

def charAt? (src : Source) (pos : Nat) : Option Char := src[pos]?

def startsAt (src : Source) (pos : Nat) (s : String) : Bool :=
  s.toList.zipIdx.all fun (c, i) => src[pos + i]? = some c

def slice (src : Source) (start stop : Nat) : String := String.ofList ((src.extract start stop).toList)

/-- The position of the first character at or after `pos` that fails `p` (or the end). -/
def skipWhile (src : Source) (p : Char → Bool) (pos : Nat) : Nat :=
  if h : pos < src.size then
    if p src[pos] then skipWhile src p (pos + 1) else pos
  else pos
termination_by src.size - pos

/-- The first position at or after `pos` where a text starts. -/
def indexOf? (src : Source) (s : String) (pos : Nat) : Option Nat :=
  if pos < src.size then
    if startsAt src pos s then some pos else indexOf? src s (pos + 1)
  else none
termination_by src.size - pos

/-- The first position at or after `pos` of a character satisfying `p`, before `stop`. -/
def findBefore? (src : Source) (p : Char → Bool) (pos stop : Nat) : Option Nat :=
  if pos < stop then
    match src[pos]? with
    | some c => if p c then some pos else findBefore? src p (pos + 1) stop
    | none => none
  else none
termination_by stop - pos

def skipAt (src : Source) (depth : Nat) (p : Char → Bool) (pos : Nat) : Except TomlError Nat := do
  reach depth .step
  pure (skipWhile src p pos)

/-- The position of the next `expect`, after checking that no character before it is one
of the forbidden ones, in a step at `depth`. Without a next `expect` the end of the
document is used, or it is an error when `required`. The search and the check are runtime
calls. -/
def skipUntil (src : Source) (depth pos : Nat) (expect : String) (forbidden : Char → Bool)
    (required : Bool) : Except TomlError Nat := do
  reach depth .step
  reach (depth + 1) .builtin
  let stop ← match indexOf? src expect pos with
    | some p => pure p
    | none =>
      if required then failShowing src (depth + 1) src.size ("Expected " ++ Text.quote expect)
      else pure src.size
  reach (depth + 1) .builtin
  match findBefore? src forbidden pos stop with
  | some p =>
    failShowing src (depth + 1) p
      ("Found invalid character " ++ Text.quote (String.singleton (src[p]?.getD ' ')))
  | none => pure stop

/-- Skips a comment, if one starts at the position, in a step at `depth`. -/
def skipComment (src : Source) (depth pos : Nat) : Except TomlError Nat := do
  reach depth .step
  let c := charAt? src pos
  compareAt (depth + 1) c
  if c = some '#' then skipUntil src (depth + 1) (pos + 1) "\n" illegalInLine false
  else pure pos

/-- Skips blanks, line feeds and comments (inside arrays), in a step at `depth`. -/
def skipArraySpace (src : Source) (depth pos : Nat) : Except TomlError Nat := do
  reach depth .step
  let rec go (fuel pos : Nat) : Except TomlError Nat :=
    match fuel with
    | 0 => pure pos
    | fuel + 1 => do
      let next ← skipComment src (depth + 1) (← skipAt src (depth + 1) isBlankOrBreak pos)
      if next = pos then pure pos else go fuel next
  go (src.size + 1) pos

/-! ## Strings -/

/-- The escapes of a basic string that stand for one character. -/
def simpleEscape? : Char → Option Char
  | 'b' => some '\x08'
  | 't' => some '\t'
  | 'n' => some '\n'
  | 'f' => some '\x0c'
  | 'r' => some '\r'
  | '"' => some '"'
  | '\\' => some '\\'
  | _ => none

/-- Whether a code point is a Unicode scalar value (not a surrogate, not above U+10FFFF). -/
def isScalar (n : Nat) : Bool := n ≤ 0xD7FF || (0xE000 ≤ n && n ≤ 0x10FFFF)

/-- Reads `length` hexadecimal digits as a character, in a step at `depth`. Checking the
digits, checking the code point (a step whose range test is a comparison of its own) and
making the character are calls one deeper. -/
def readHexChar (src : Source) (depth pos length : Nat) : Except TomlError (Nat × String) := do
  reach depth .step
  let digits := (src.extract pos (pos + length)).toList
  if digits.length ≠ length then failAt src (depth + 1) pos "Invalid hex value"
  else
    reach (depth + 1) .builtin
    if !digits.all isHexDigit then failAt src (depth + 1) pos "Invalid hex value"
    else
      let n := digits.foldl (fun acc c => acc * 16 + (if isDigit c then c.toNat - 48
        else if 'a' ≤ c then c.toNat - 87 else c.toNat - 55)) 0
      enter [(depth + 1, .step), (depth + 2, .comparison)]
      if isScalar n then do
        reach (depth + 1) .builtin
        pure (pos + length, String.singleton (Char.ofNat n))
      else failAt src (depth + 1) (pos + length) "Escaped character is not a Unicode scalar value"

/-- Reads an escape starting at the backslash, in a step at `depth`. In a multi-line string
a backslash before blanks and a line feed (or before the end) removes them and the blanks
and line feeds after them. -/
def readEscape (src : Source) (depth pos : Nat) (multiline : Bool) :
    Except TomlError (Nat × String) := do
  reach depth .step
  let escape := charAt? src (pos + 1)
  let pos := pos + 2
  if multiline && (escape = some ' ' || escape = some '\t' || escape = some '\n') then
    if escape ≠ some '\n' then
      let p ← skipAt src (depth + 1) isBlank pos
      match charAt? src p with
      | none => pure (p, "")
      | some '\n' => pure (← skipAt src (depth + 1) isBlankOrBreak (p + 1), "")
      | some _ => failAt src (depth + 1) p "Unescaped '\\' in a string"
    else pure (← skipAt src (depth + 1) isBlankOrBreak pos, "")
  else match escape with
    | some 'u' => readHexChar src (depth + 1) pos 4
    | some 'U' => readHexChar src (depth + 1) pos 8
    | some c => match simpleEscape? c with
      | some r => pure (pos, String.singleton r)
      | none => failAt src (depth + 1) pos "Unescaped '\\' in a string"
    | none => failAt src (depth + 1) pos "Unescaped '\\' in a string"

/-- Reads the body of a basic string after its opening quote(s), up to and past the
closing quote(s), in a step at `depth`. An escape of a multi-line string goes through one
more step. -/
def readBasicBody (src : Source) (depth pos : Nat) (multiline : Bool) :
    Except TomlError (Nat × String) := do
  reach depth .step
  let illegal := if multiline then illegalInBlock else illegalInLine
  let rec go (fuel pos start : Nat) (acc : String) : Except TomlError (Nat × String) :=
    match fuel with
    | 0 => failAt src (depth + 1) pos "Unterminated string"
    | fuel + 1 =>
      match charAt? src pos with
      | none => failAt src (depth + 1) pos "Unterminated string"
      | some '"' =>
        if !multiline then pure (pos + 1, acc ++ slice src start pos)
        else do
          reach (depth + 1) .builtin
          if startsAt src pos "\"\"\"" then pure (pos + 3, acc ++ slice src start pos)
          else go fuel (pos + 1) start acc
      | some '\\' => do
        let (next, piece) ←
          if multiline then do
            reach (depth + 1) .step
            readEscape src (depth + 2) pos true
          else readEscape src (depth + 1) pos false
        go fuel next next (acc ++ slice src start pos ++ piece)
      | some c =>
        if illegal c then
          failShowing src (depth + 1) pos ("Illegal character " ++ Text.quote (String.singleton c))
        else go fuel (pos + 1) start acc
  go (src.size + 1) pos pos ""

def readQuoted (src : Source) (depth pos : Nat) : Except TomlError (Nat × String) := do
  reach depth .step
  readBasicBody src (depth + 1) (pos + 1) false

/-- Reads a literal string starting at its apostrophe, in a step at `depth`. -/
def readLiteral (src : Source) (depth pos : Nat) : Except TomlError (Nat × String) := do
  reach depth .step
  let start := pos + 1
  let stop ← skipUntil src (depth + 1) start "'" illegalInLine true
  pure (stop + 1, slice src start stop)

/-- Reads a multi-line string starting at its three quotes or apostrophes, in a step at
`depth`. A line feed right after the opening is dropped; one or two quotes right before the
closing belong to the string. -/
def readBlock (src : Source) (depth pos : Nat) (literal : Bool) : Except TomlError (Nat × String) := do
  reach depth .step
  let pos := pos + 3
  reach (depth + 1) .builtin
  let pos := if charAt? src pos = some '\n' then pos + 1 else pos
  let (pos, body) ←
    if literal then do
      let stop ← skipUntil src (depth + 1) pos "'''" illegalInBlock true
      pure (stop + 3, slice src pos stop)
    else readBasicBody src (depth + 1) pos true
  reach (depth + 1) .builtin
  let delim := if literal then '\'' else '"'
  if charAt? src pos ≠ some delim then pure (pos, body)
  else if charAt? src (pos + 1) ≠ some delim then pure (pos + 1, body.push delim)
  else pure (pos + 2, (body.push delim).push delim)

/-! ## Numbers -/

/-- The end of a run of digits with single underscores between them, starting at `pos`
(`none` when no digit is there). -/
def digitRun (src : Source) (digit : Char → Bool) (pos : Nat) : Option Nat :=
  let rec go (fuel pos : Nat) : Nat :=
    match fuel with
    | 0 => pos
    | fuel + 1 =>
      match charAt? src pos, charAt? src (pos + 1) with
      | some c, _ => if digit c then go fuel (pos + 1)
          else if c = '_' then
            match charAt? src (pos + 1) with
            | some d => if digit d then go fuel (pos + 2) else pos
            | none => pos
          else pos
      | none, _ => pos
  match charAt? src pos with
  | some c => if digit c then some (go src.size (pos + 1)) else none
  | none => none

/-- The value of digits in a base (underscores skipped). -/
def digitsIn (base : Nat) (cs : List Char) : Nat :=
  cs.foldl (fun acc c =>
    if c = '_' then acc
    else acc * base + (if isDigit c then c.toNat - 48 else if 'a' ≤ c then c.toNat - 87 else c.toNat - 55)) 0

/-- Reads a number: an integer with a base prefix (`0x`, `0o`, `0b`), or a decimal integer
or float (optional sign, no leading zeros, optional fraction and exponent). Besides its end
and value comes the number of digits of a decimal integer (zero for other numbers), which
decides whether it may be read at all. -/
def readNumber? (src : Source) (pos : Nat) : Option (Nat × Value × Nat) :=
  let prefixed (marker : Char) (base : Nat) (digit : Char → Bool) : Option (Nat × Value × Nat) :=
    if charAt? src pos = some '0' && charAt? src (pos + 1) = some marker then
      (digitRun src digit (pos + 2)).map fun stop =>
        (stop, .int (digitsIn base (src.extract (pos + 2) stop).toList), 0)
    else none
  let isOctal (c : Char) : Bool := '0' ≤ c && c ≤ '7'
  let isBinary (c : Char) : Bool := c = '0' || c = '1'
  match prefixed 'x' 16 isHexDigit <|> prefixed 'b' 2 isBinary <|> prefixed 'o' 8 isOctal with
  | some r => some r
  | none =>
    let (negative, start) := match charAt? src pos with
      | some '+' => (false, pos + 1)
      | some '-' => (true, pos + 1)
      | _ => (false, pos)
    let intEnd? := match charAt? src start with
      | some '0' => some (start + 1)
      | some c => if isDigit c then digitRun src isDigit start else none
      | none => none
    intEnd?.map fun intEnd =>
      let fracEnd := if charAt? src intEnd = some '.' then (digitRun src isDigit (intEnd + 1)).getD intEnd
        else intEnd
      let expEnd :=
        match charAt? src fracEnd with
        | some 'e' | some 'E' =>
          let signEnd := match charAt? src (fracEnd + 1) with
            | some '+' | some '-' => fracEnd + 2
            | _ => fracEnd + 1
          (digitRun src isDigit signEnd).getD fracEnd
        | _ => fracEnd
      let intDigits := (src.extract start intEnd).toList
      if expEnd = intEnd then
        let n : Int := digitsIn 10 intDigits
        (intEnd, .int (if negative then -n else n), (intDigits.filter (· ≠ '_')).length)
      else
        let fracDigits := if fracEnd > intEnd then (src.extract (intEnd + 1) fracEnd).toList else []
        let expChars := if expEnd > fracEnd then (src.extract (fracEnd + 1) expEnd).toList else []
        let (expNegative, expDigits) := match expChars with
          | '-' :: rest => (true, rest)
          | '+' :: rest => (false, rest)
          | rest => (false, rest)
        let e : Int := digitsIn 10 expDigits
        let fracDigits := fracDigits.filter (· ≠ '_')
        let digits := digitsIn 10 (intDigits ++ fracDigits)
        let exponent := (if expNegative then -e else e) - fracDigits.length
        (expEnd, .float (Decimal.toFloat negative ⟨digits, exponent⟩), 0)

/-- Reads `inf` or `nan`, with an optional sign. -/
def readSpecialFloat? (src : Source) (pos : Nat) : Option (Nat × Value) :=
  let inf : Float := 1.0 / 0.0
  let nan : Float := 0.0 / 0.0
  if startsAt src pos "inf" then some (pos + 3, .float inf)
  else if startsAt src pos "nan" then some (pos + 3, .float nan)
  else if startsAt src pos "+inf" then some (pos + 4, .float inf)
  else if startsAt src pos "-inf" then some (pos + 4, .float (-inf))
  else if startsAt src pos "+nan" || startsAt src pos "-nan" then some (pos + 4, .float nan)
  else none

/-! ## Dates and times -/

def fixedDigits? (src : Source) (pos count : Nat) : Option Nat :=
  let cs := (src.extract pos (pos + count)).toList
  if cs.length = count && cs.all isDigit then some (digitsIn 10 cs) else none

def field? (src : Source) (pos max : Nat) : Option Nat :=
  (fixedDigits? src pos 2).filter (· ≤ max)

/-- Reads a time of day `HH:MM:SS`, with an optional fraction of which the first six
digits count. -/
def readTime? (src : Source) (pos : Nat) : Option (Nat × TimeOfDay) := do
  let h ← field? src pos 23
  guard (charAt? src (pos + 2) = some ':')
  let m ← field? src (pos + 3) 59
  guard (charAt? src (pos + 5) = some ':')
  let s ← field? src (pos + 6) 59
  let afterSeconds := pos + 8
  if charAt? src afterSeconds = some '.' && ((charAt? src (afterSeconds + 1)).map isDigit).getD false then
    let stop := skipWhile src isDigit (afterSeconds + 1)
    let digits := (src.extract (afterSeconds + 1) (min stop (afterSeconds + 7))).toList
    let micros := digitsIn 10 (digits ++ List.replicate (6 - digits.length) '0')
    pure (stop, ⟨h, m, s, micros⟩)
  else pure (afterSeconds, ⟨h, m, s, 0⟩)

/-- An offset from UTC as written: `Z` (or `z`), or a sign, hours and minutes. -/
inductive Offset where
  | utc
  | shift (minutes : Int)
  deriving Repr, Inhabited

def Offset.minutes : Offset → Int
  | .utc => 0
  | .shift m => m

/-- Reads an offset from UTC: `Z` or `z`, or a sign, hours and minutes. -/
def readOffset? (src : Source) (pos : Nat) : Option (Nat × Offset) :=
  match charAt? src pos with
  | some 'Z' | some 'z' => some (pos + 1, .utc)
  | some '+' | some '-' => do
    let h ← field? src (pos + 1) 23
    guard (charAt? src (pos + 3) = some ':')
    let m ← field? src (pos + 4) 59
    let minutes : Int := h * 60 + m
    pure (pos + 6, .shift (if charAt? src pos = some '-' then -minutes else minutes))
  | _ => none

def isLeap (y : Nat) : Bool := (y % 4 = 0 && y % 100 ≠ 0) || y % 400 = 0

/-- The number of days of a month. -/
def daysIn (y m : Nat) : Nat :=
  match m with
  | 2 => if isLeap y then 29 else 28
  | 4 | 6 | 9 | 11 => 30
  | _ => 31

/-- Whether a calendar date exists (years 1 to 9999). -/
def dateExists (d : Date) : Bool := 1 ≤ d.year && d.year ≤ 9999 && d.day ≤ daysIn d.year d.month

/-- Reads the shape of a date, `YYYY-MM-DD` (month 01-12, day 01-31), then optionally
`T`, `t` or a space, a time and an offset. The date itself is not checked here. -/
def readDateShape? (src : Source) (pos : Nat) : Option (Nat × Date × Option (TimeOfDay × Option Offset)) := do
  let y ← fixedDigits? src pos 4
  guard (charAt? src (pos + 4) = some '-')
  let m ← (fixedDigits? src (pos + 5) 2).filter fun m => 1 ≤ m && m ≤ 12
  guard (charAt? src (pos + 7) = some '-')
  let d ← (fixedDigits? src (pos + 8) 2).filter fun d => 1 ≤ d && d ≤ 31
  let afterDate := pos + 10
  let date : Date := ⟨y, m, d⟩
  let timed : Option (Nat × TimeOfDay × Option Offset) :=
    match charAt? src afterDate with
    | some 'T' | some 't' | some ' ' =>
      (readTime? src (afterDate + 1)).map fun (p, t) =>
        match readOffset? src p with
        | some (q, o) => (q, t, some o)
        | none => (p, t, none)
    | _ => none
  match timed with
  | some (p, t, o) => pure (p, date, some (t, o))
  | none => pure (afterDate, date, none)

end CommandLine.Toml
