import CommandLine.Value.Basic

/-!
# Reading JSON text into values

JSON text becomes a `Value`: `null`, `true`, `false`, numbers, strings, arrays and
objects (entries kept in the order written). A number with neither a fraction nor an
exponent is a whole number of any size; any other number is the double nearest to it.
`NaN`, `Infinity` and `-Infinity` are read as the doubles they name.

The reader is a recursive descent over the characters. Every call is given fuel, twice the
number of characters plus two, and every nested call either consumes a character or
spends fuel, so reading always ends.
-/

namespace CommandLine.Json

abbrev Step (α : Type) := Except String (α × List Char)

def skipSpace : List Char → List Char
  | c :: rest => if c = ' ' ∨ c = '\t' ∨ c = '\n' ∨ c = '\r' then skipSpace rest else c :: rest
  | [] => []

def spanDigits (cs : List Char) : List Char × List Char :=
  (cs.takeWhile Char.isDigit, cs.dropWhile Char.isDigit)

def digitsValue (ds : List Char) : Nat :=
  ds.foldl (fun acc d => acc * 10 + (d.toNat - '0'.toNat)) 0

/-- The value of one hexadecimal digit. -/
def hexDigit? (ch : Char) : Option Nat :=
  if '0' ≤ ch ∧ ch ≤ '9' then some (ch.toNat - '0'.toNat)
  else if 'a' ≤ ch ∧ ch ≤ 'f' then some (ch.toNat - 'a'.toNat + 10)
  else if 'A' ≤ ch ∧ ch ≤ 'F' then some (ch.toNat - 'A'.toNat + 10)
  else none

/-- The code unit four hexadecimal digits of a `\u` escape spell. -/
def hex4? (a b c d : Char) : Option Nat :=
  match hexDigit? a, hexDigit? b, hexDigit? c, hexDigit? d with
  | some w, some x, some y, some z => some (((w * 16 + x) * 16 + y) * 16 + z)
  | _, _, _, _ => none

/-- The character of a simple (one-letter) escape. -/
def simpleEscape? : Char → Option Char
  | '"' => some '"'
  | '\\' => some '\\'
  | '/' => some '/'
  | 'b' => some '\x08'
  | 'f' => some '\x0c'
  | 'n' => some '\n'
  | 'r' => some '\r'
  | 't' => some '\t'
  | _ => none

/-- Reads the body of a string up to its closing quote, handling escapes; a high surrogate
escape followed by a low one stands for one character. -/
def readStringBody (cs acc : List Char) : Step String :=
  match cs, acc with
  | [], _ => .error "Unterminated string"
  | '"' :: rest, acc => .ok (String.ofList acc.reverse, rest)
  | '\\' :: 'u' :: a :: b :: c :: d :: '\\' :: 'u' :: e :: f :: g :: h :: rest, acc =>
    match hex4? a b c d, hex4? e f g h with
    | some hi, some lo =>
      if 0xD800 ≤ hi ∧ hi < 0xDC00 ∧ 0xDC00 ≤ lo ∧ lo < 0xE000 then
        readStringBody rest (Char.ofNat (0x10000 + (hi - 0xD800) * 0x400 + (lo - 0xDC00)) :: acc)
      else readStringBody ('\\' :: 'u' :: e :: f :: g :: h :: rest) (Char.ofNat hi :: acc)
    | _, _ => .error "Invalid \\uXXXX escape"
  | '\\' :: 'u' :: a :: b :: c :: d :: rest, acc =>
    match hex4? a b c d with
    | some hi => readStringBody rest (Char.ofNat hi :: acc)
    | none => .error "Invalid \\uXXXX escape"
  | '\\' :: e :: rest, acc =>
    match simpleEscape? e with
    | some c => readStringBody rest (c :: acc)
    | none => .error "Invalid \\escape"
  | c :: rest, acc => readStringBody rest (c :: acc)
termination_by cs.length
decreasing_by all_goals simp_all <;> omega

/-- Reads a number: an optional minus, an integer part, then an optional fraction and
exponent. -/
def readNumber (cs : List Char) : Step Value :=
  let (negative, cs) := match cs with
    | '-' :: rest => (true, rest)
    | _ => (false, cs)
  let (intPart, cs) := spanDigits cs
  if intPart.isEmpty then .error "Expecting value"
  else
    let (fracPart, hasFrac, cs) := match cs with
      | '.' :: rest =>
        let (f, r) := spanDigits rest
        (f, true, r)
      | _ => ([], false, cs)
    let (expPart, hasExp, cs) : Int × Bool × List Char := match cs with
      | 'e' :: rest | 'E' :: rest =>
        let (sign, rest) : Int × List Char := match rest with
          | '-' :: r => (-1, r)
          | '+' :: r => (1, r)
          | r => (1, r)
        let (ds, r) := spanDigits rest
        (sign * (digitsValue ds : Int), true, r)
      | _ => (0, false, cs)
    if !hasFrac && !hasExp then
      let n : Int := digitsValue intPart
      .ok (.int (if negative then -n else n), cs)
    else
      let digits := digitsValue (intPart ++ fracPart)
      let exponent := expPart - fracPart.length
      .ok (.float (Decimal.toFloat negative ⟨digits, exponent⟩), cs)

def startsWithWord (cs : List Char) (w : String) : Bool := cs.take w.length == w.toList

mutual
/-- Reads one value after optional whitespace. -/
def readValue (fuel : Nat) (cs : List Char) : Step Value :=
  match fuel with
  | 0 => .error "Input too deeply nested"
  | fuel + 1 =>
    match skipSpace cs with
    | '{' :: rest => readEntries fuel rest []
    | '[' :: rest => readItems fuel rest []
    | '"' :: rest => (readStringBody rest []).map fun (s, r) => (.str s, r)
    | cs =>
      if startsWithWord cs "null" then .ok (.none, cs.drop 4)
      else if startsWithWord cs "true" then .ok (.bool true, cs.drop 4)
      else if startsWithWord cs "false" then .ok (.bool false, cs.drop 5)
      else if startsWithWord cs "NaN" then .ok (.float (0.0 / 0.0), cs.drop 3)
      else if startsWithWord cs "Infinity" then .ok (.float (1.0 / 0.0), cs.drop 8)
      else if startsWithWord cs "-Infinity" then .ok (.float (-1.0 / 0.0), cs.drop 9)
      else readNumber cs

/-- Reads the items of an array after its opening bracket. -/
def readItems (fuel : Nat) (cs : List Char) (acc : List Value) : Step Value :=
  match fuel with
  | 0 => .error "Input too deeply nested"
  | fuel + 1 =>
    match skipSpace cs, acc with
    | ']' :: rest, [] => .ok (.list [], rest)
    | _, _ =>
      match readValue fuel cs with
      | .error e => .error e
      | .ok (v, rest) =>
        match skipSpace rest with
        | ',' :: more => readItems fuel more (v :: acc)
        | ']' :: more => .ok (.list (v :: acc).reverse, more)
        | _ => .error "Expecting ',' delimiter"

/-- Reads the entries of an object after its opening brace. -/
def readEntries (fuel : Nat) (cs : List Char) (acc : List (String × Value)) : Step Value :=
  match fuel with
  | 0 => .error "Input too deeply nested"
  | fuel + 1 =>
    match skipSpace cs, acc with
    | '}' :: rest, [] => .ok (.table [], rest)
    | '"' :: rest, _ =>
      match readStringBody rest [] with
      | .error e => .error e
      | .ok (key, rest) =>
        match skipSpace rest with
        | ':' :: more =>
          match readValue fuel more with
          | .error e => .error e
          | .ok (v, rest) =>
            match skipSpace rest with
            | ',' :: more => readEntries fuel more ((key, v) :: acc)
            | '}' :: more => .ok (.table ((key, v) :: acc).reverse, more)
            | _ => .error "Expecting ',' delimiter"
        | _ => .error "Expecting ':' delimiter"
    | _, _ => .error "Expecting property name enclosed in double quotes"
end

/-- Reads a whole JSON text; only whitespace may follow the value. -/
def read (s : String) : Except String Value :=
  let cs := s.toList
  match readValue (2 * cs.length + 2) cs with
  | .error e => .error e
  | .ok (v, rest) => if (skipSpace rest).isEmpty then .ok v else .error "Extra data"

end CommandLine.Json
