import CommandLine.Toml.Scalar
import CommandLine.Toml.Nest

/-!
# Reading a TOML document

A document is a sequence of statements, one per line: a key/value pair, a table header
`[a.b]`, an array-of-tables header `[[a.b]]`, or nothing; each may be followed by a comment.
Key/value pairs are stored under the current header; dotted keys open tables on the way.

Values are strings, booleans, arrays, inline tables, dates and times, and numbers. The
reader tries them in that order from the first character of the value: a quote, `true`,
`false`, a bracket, a brace, then a date-time, a time, a number, `inf` or `nan`.

## Errors

The first error stops reading; its message ends with the line and column it was found at.
Redefining a key, a table declared twice, writing into an inline table or array, or a
header that runs into a value are errors, as are malformed tokens.

## Nesting

The reader is recursive: a value inside an array or inline table is read by a nested call.
Each reader takes the depth of its own step on the call stack (`Toml.Stack`): a document
that needs a place deeper than the stack has fails as a whole, wherever the deep part is.
An array is a step below the value that holds it, and its items are values one step below
the array; an inline table is a step below its value, each key/value pair a step below the
table, and the pair's value a step below the pair. So each level of arrays takes two places
and each level of inline tables three, and what a scalar needs at the bottom depends on its
kind: a string's escapes, a number's conversion, a comment's search.

## Termination

Value readers are mutually recursive (arrays and inline tables hold values). Each call
takes one unit of fuel; each chain of calls consumes characters as it goes, so fuel four
times the length of the document (plus a margin) is never used up.
-/

namespace CommandLine.Toml

/-- The literal of a key path, as error messages show it: a tuple of quoted parts. -/
def keyLiteral (key : List String) : String :=
  match key with
  | [k] => "(" ++ Text.quote k ++ ",)"
  | _ => "(" ++ ", ".intercalate (key.map Text.quote) ++ ")"

def startsKey (c : Char) : Bool := isBareKeyChar c || c = '"' || c = '\''

/-! ## Keys -/

/-- Reads one part of a key: bare, literal or quoted, in a step at `depth`. -/
def readKeyPart (src : Source) (depth pos : Nat) : Except TomlError (Nat × String) := do
  reach depth .step
  match charAt? src pos with
  | some c =>
    if isBareKeyChar c then do
      let stop ← skipAt src (depth + 1) isBareKeyChar pos
      pure (stop, slice src pos stop)
    else if c = '\'' then readLiteral src (depth + 1) pos
    else if c = '"' then readQuoted src (depth + 1) pos
    else failAt src (depth + 1) pos "Invalid initial character for a key part"
  | none => do
    compareAt (depth + 1) none
    failAt src (depth + 1) pos "Invalid initial character for a key part"

/-- Reads a key: parts joined by dots, with blanks around the dots, in a step at `depth`. -/
def readKey (src : Source) (depth pos : Nat) : Except TomlError (Nat × List String) := do
  reach depth .step
  let (pos, first) ← readKeyPart src (depth + 1) pos
  let rec go (fuel pos : Nat) (acc : List String) : Except TomlError (Nat × List String) :=
    match fuel with
    | 0 => .ok (pos, acc)
    | fuel + 1 => do
      let c := charAt? src pos
      compareAt (depth + 1) c
      if c ≠ some '.' then pure (pos, acc)
      else
        let (next, part) ← readKeyPart src (depth + 1) (← skipAt src (depth + 1) isBlank (pos + 1))
        go fuel (← skipAt src (depth + 1) isBlank next) (acc ++ [part])
  go src.size (← skipAt src (depth + 1) isBlank pos) [first]

/-! ## Values -/

/-- Whether a value is an inline table or an array (which freezes its key). -/
def isCollection : Value → Bool
  | .table _ | .list _ => true
  | _ => false

/-- Reads a scalar that starts with neither a quote, `true`, `false`, a bracket nor a brace,
for the value step at `depth`: a date-time or date, a time, a number, or a special float.
Each shape is tried with a pattern (a runtime call); a date, time or number is then made in
a step of its own, which calls the runtime to build it. An offset written with hours and
minutes is looked up among the zones made before: the lookup compares its key, and the
key's parts, with the key found, each comparison one deeper. A decimal integer with more
digits than `digitLimit` cannot be made. -/
def readBare (src : Source) (depth pos : Nat) : Except TomlError (Nat × Value) := do
  reach (depth + 1) .builtin
  match readDateShape? src pos with
  | some (stop, date, time) =>
    enter [(depth + 1, .step), (depth + 2, .builtin)]
    if let some (_, some (.shift _)) := time then
      enter [(depth + 3, .comparison), (depth + 4, .comparison)]
    if !dateExists date then failAt src (depth + 1) pos "Invalid date or datetime"
    else match time with
      | some (t, offset) => pure (stop, .stamp date t (offset.map Offset.minutes))
      | none => pure (stop, .date date)
  | none =>
    reach (depth + 1) .builtin
    match readTime? src pos with
    | some (stop, t) => do
      enter [(depth + 1, .step), (depth + 2, .builtin)]
      pure (stop, .time t)
    | none =>
      reach (depth + 1) .builtin
      match readNumber? src pos with
      | some (stop, v, digits) => do
        enter [(depth + 1, .step), (depth + 2, .builtin)]
        if digits > digitLimit then .error (.tooManyDigits digits) else pure (stop, v)
      | none =>
        match readSpecialFloat? src pos with
        | some r => pure r
        | none => failAt src (depth + 1) pos "Invalid value"

/-- The error for a key path that runs into a value that is not a table, in an inline table
at `depth`: walking the path is a step, and finding the value in the way builds an error
there before the syntax error is built. -/
def blockedAt (src : Source) (depth pos : Nat) : TomlError :=
  match overflow? [(depth + 2, .builtin)] with
  | some c => .exhausted c
  | none => errorAt src (depth + 1) pos "Cannot overwrite a value"

mutual

/-- Reads a value, in a step at `depth`. -/
def readValue (fuel depth : Nat) (src : Source) (pos : Nat) : Except TomlError (Nat × Value) :=
  match fuel with
  | 0 => failAt src (depth + 1) pos "Invalid value"
  | fuel + 1 => do
    reach depth .step
    let c := charAt? src pos
    compareAt (depth + 1) c
    match c with
    | some '"' =>
      reach (depth + 1) .builtin
      if startsAt src pos "\"\"\"" then (fun (p, s) => (p, Value.str s)) <$> readBlock src (depth + 1) pos false
      else (fun (p, s) => (p, Value.str s)) <$> readQuoted src (depth + 1) pos
    | some '\'' =>
      reach (depth + 1) .builtin
      if startsAt src pos "'''" then (fun (p, s) => (p, Value.str s)) <$> readBlock src (depth + 1) pos true
      else (fun (p, s) => (p, Value.str s)) <$> readLiteral src (depth + 1) pos
    | some '[' => readArray fuel (depth + 1) src pos
    | some '{' => readInlineTable fuel (depth + 1) src pos
    | _ => do
      if c = some 't' then
        reach (depth + 1) .builtin
        if startsAt src pos "true" then return (pos + 4, .bool true)
      if c = some 'f' then
        reach (depth + 1) .builtin
        if startsAt src pos "false" then return (pos + 5, .bool false)
      readBare src depth pos

/-- Reads an array starting at its bracket, in a step at `depth`. -/
def readArray (fuel depth : Nat) (src : Source) (pos : Nat) : Except TomlError (Nat × Value) :=
  match fuel with
  | 0 => failAt src (depth + 1) pos "Unclosed array"
  | fuel + 1 => do
    reach depth .step
    let pos ← skipArraySpace src (depth + 1) (pos + 1)
    reach (depth + 1) .builtin
    if startsAt src pos "]" then pure (pos + 1, .list [])
    else readArrayItems fuel depth src pos []

/-- Reads the items of an array from its first item on, with the items so far, for the
array step at `depth`. -/
def readArrayItems (fuel depth : Nat) (src : Source) (pos : Nat) (acc : List Value) :
    Except TomlError (Nat × Value) :=
  match fuel with
  | 0 => failAt src (depth + 1) pos "Unclosed array"
  | fuel + 1 => do
    let (pos, v) ← readValue fuel (depth + 1) src pos
    let pos ← skipArraySpace src (depth + 1) pos
    match charAt? src pos with
    | some ']' => pure (pos + 1, .list (acc ++ [v]))
    | some ',' => do
      let next ← skipArraySpace src (depth + 1) (pos + 1)
      reach (depth + 1) .builtin
      if startsAt src next "]" then pure (next + 1, .list (acc ++ [v]))
      else readArrayItems fuel depth src next (acc ++ [v])
    | _ => failAt src (depth + 1) pos "Unclosed array"

/-- Reads a key/value pair: a key, `=`, a value, in a step at `depth`. -/
def readKeyValue (fuel depth : Nat) (src : Source) (pos : Nat) :
    Except TomlError (Nat × List String × Value) :=
  match fuel with
  | 0 => failAt src (depth + 1) pos "Invalid value"
  | fuel + 1 => do
    reach depth .step
    let (pos, key) ← readKey src (depth + 1) pos
    let c := charAt? src pos
    compareAt (depth + 1) c
    if c ≠ some '=' then failAt src (depth + 1) pos "Expected '=' after a key in a key/value pair"
    else
      let (pos, v) ← readValue fuel (depth + 1) src (← skipAt src (depth + 1) isBlank (pos + 1))
      pure (pos, key, v)

/-- Reads an inline table starting at its brace, in a step at `depth`. Its table and its
marks are built by steps of their own, each a runtime call that starts a step. -/
def readInlineTable (fuel depth : Nat) (src : Source) (pos : Nat) : Except TomlError (Nat × Value) :=
  match fuel with
  | 0 => failAt src (depth + 1) pos "Unclosed inline table"
  | fuel + 1 => do
    reach depth .step
    enter [(depth + 1, .builtin), (depth + 2, .step), (depth + 1, .builtin), (depth + 2, .step)]
    let pos ← skipAt src (depth + 1) isBlank (pos + 1)
    reach (depth + 1) .builtin
    if startsAt src pos "\x7d" then pure (pos + 1, .table [])
    else readInlineEntries fuel depth src pos [] []

/-- Reads the entries of an inline table from its first entry on, with the table and marks
so far, for the table step at `depth`. Testing the marks and walking to the key's table
are steps; freezing a collection's key is a step that calls the runtime. -/
def readInlineEntries (fuel depth : Nat) (src : Source) (pos : Nat) (table : Table)
    (marks : Marks) : Except TomlError (Nat × Value) :=
  match fuel with
  | 0 => failAt src (depth + 1) pos "Unclosed inline table"
  | fuel + 1 => do
    let (pos, key, v) ← readKeyValue fuel (depth + 1) src pos
    let parent := key.dropLast
    let stem := key.getLastD ""
    reach (depth + 1) .step
    if marks.has .frozen key then
      enter [(depth + 1, .builtin), (depth + 2, .text), (depth + 3, .literal)]
      failAt src (depth + 1) pos ("Cannot mutate immutable namespace " ++ keyLiteral key)
    else
      reach (depth + 1) .step
      let table ← updateNest (blockedAt src depth pos) false (fun nest =>
        if nest.has stem then
          failShowing src (depth + 1) pos ("Duplicate inline table key " ++ Text.quote stem)
        else pure (nest.put stem v)) parent table
      let pos ← skipAt src (depth + 1) isBlank pos
      match charAt? src pos with
      | some '}' => pure (pos + 1, .table table)
      | some ',' => do
        let marks ←
          if isCollection v then do
            enter [(depth + 1, .step), (depth + 2, .builtin)]
            pure (marks.set .frozen true key)
          else pure marks
        readInlineEntries fuel depth src (← skipAt src (depth + 1) isBlank (pos + 1)) table marks
      | _ => failAt src (depth + 1) pos "Unclosed inline table"

end

/-! ## Statements -/

/-- A document under construction: its table, the marks, the marks pending until the next
header, and the current header. -/
structure Builder where
  table : Table := []
  marks : Marks := []
  pending : List (List String × Mark) := []
  header : List String := []

namespace Builder

def finalize (b : Builder) : Builder :=
  { b with marks := b.pending.foldl (fun ms (k, m) => ms.set m false k) b.marks, pending := [] }

/-- Stores a key/value pair under the current header, the statement being a step at
`depth`. -/
def keyValue (b : Builder) (fuel depth : Nat) (src : Source) (pos : Nat) :
    Except TomlError (Nat × Builder) := do
  let (pos, key, v) ← readKeyValue fuel (depth + 1) src pos
  let parent := b.header ++ key.dropLast
  let stem := key.getLastD ""
  let opened := (List.range (key.length - 1)).map fun i => b.header ++ key.take (i + 1)
  let pending ← opened.foldlM (fun (pending : List (List String × Mark)) k =>
    if b.marks.has .explicitNest k then
      failAt src (depth + 1) pos ("Cannot redefine namespace " ++ keyLiteral k)
    else pure (pending ++ [(k, .explicitNest)])) b.pending
  if b.marks.has .frozen parent then
    failAt src (depth + 1) pos ("Cannot mutate immutable namespace " ++ keyLiteral parent)
  else
    let blocked := errorAt src (depth + 1) pos "Cannot overwrite a value"
    let table ← updateNest blocked true (fun nest =>
      if nest.has stem then .error blocked else pure (nest.put stem v)) parent b.table
    let marks := if isCollection v then b.marks.set .frozen true (b.header ++ key) else b.marks
    pure (pos, { b with table := table, marks := marks, pending := pending })

/-- Reads a table header `[key]` and makes it the current header, the header being a step
at `depth`. -/
def tableHeader (b : Builder) (src : Source) (depth pos : Nat) : Except TomlError (Nat × Builder) := do
  let (pos, key) ← readKey src (depth + 1) (← skipAt src (depth + 1) isBlank (pos + 1))
  if b.marks.has .explicitNest key || b.marks.has .frozen key then
    failAt src (depth + 1) pos ("Cannot declare " ++ keyLiteral key ++ " twice")
  else
    let marks := b.marks.set .explicitNest false key
    let table ← updateNest (errorAt src (depth + 1) pos "Cannot overwrite a value") true pure key b.table
    if !startsAt src pos "]" then failAt src (depth + 1) pos "Expected ']' at the end of a table declaration"
    else pure (pos + 1, { b with table := table, marks := marks, header := key })

/-- Reads an array-of-tables header `[[key]]`: appends a table to the array and makes it
the current header, the header being a step at `depth`. -/
def arrayHeader (b : Builder) (src : Source) (depth pos : Nat) : Except TomlError (Nat × Builder) := do
  let (pos, key) ← readKey src (depth + 1) (← skipAt src (depth + 1) isBlank (pos + 2))
  if b.marks.has .frozen key then
    failAt src (depth + 1) pos ("Cannot mutate immutable namespace " ++ keyLiteral key)
  else
    let marks := (b.marks.unsetAll key).set .explicitNest false key
    let blocked := errorAt src (depth + 1) pos "Cannot overwrite a value"
    let stem := key.getLastD ""
    let table ← updateNest blocked true (fun cont =>
      match Value.lookup cont stem with
      | some (.list items) => pure (cont.put stem (.list (items ++ [.table []])))
      | some _ => .error blocked
      | none => pure (cont.put stem (.list [.table []]))) key.dropLast b.table
    if !startsAt src pos "]]" then failAt src (depth + 1) pos "Expected ']]' at the end of an array declaration"
    else pure (pos + 2, { b with table := table, marks := marks, header := key })

end Builder

/-- Reads the statements of a document from a position, the document being read in a step
at `depth`; each statement is a step below it. -/
def readStatements (src : Source) (fuel depth : Nat) : Nat → Nat → Builder → Except TomlError Builder
  | 0, _, b => pure b
  | steps + 1, pos, b => do
    let pos ← skipAt src (depth + 1) isBlank pos
    match charAt? src pos with
    | none => pure b
    | some '\n' => readStatements src fuel depth steps (pos + 1) b
    | some c =>
      let (pos, b) ←
        if startsKey c then do
          let (pos, b) ← b.keyValue fuel (depth + 1) src pos
          pure (← skipAt src (depth + 1) isBlank pos, b)
        else if c = '[' then do
          let b := b.finalize
          let (pos, b) ← if charAt? src (pos + 1) = some '[' then b.arrayHeader src (depth + 1) pos
            else b.tableHeader src (depth + 1) pos
          pure (← skipAt src (depth + 1) isBlank pos, b)
        else if c ≠ '#' then failAt src (depth + 1) pos "Invalid statement"
        else pure (pos, b)
      let pos ← skipComment src (depth + 1) pos
      match charAt? src pos with
      | none => pure b
      | some '\n' => readStatements src fuel depth steps (pos + 1) b
      | some _ => failAt src (depth + 1) pos "Expected newline or end of document after a statement"

/-- Every CR LF pair replaced by a line feed. -/
def joinCrLf : List Char → List Char
  | '\r' :: '\n' :: rest => '\n' :: joinCrLf rest
  | c :: rest => c :: joinCrLf rest
  | [] => []

/-- Why a document could not be read. -/
inductive ReadError where
  /-- The document is malformed: the text of the first error. -/
  | malformed (text : String)
  /-- A call found no place on the call stack. -/
  | exhausted (call : Call)
  /-- A decimal integer has more digits than a whole number may be read from. -/
  | tooManyDigits (count : Nat)
  deriving Repr, Inhabited

/-- Reads a document into a table, in a step at `depth` of the call stack. -/
def read (text : String) (depth : Nat) : Except ReadError Value :=
  let src : Source := (joinCrLf text.toList).toArray
  match readStatements src (4 * src.size + 8) depth (src.size + 1) 0 {} with
  | .ok b => .ok (.table b.table)
  | .error (.invalid message pos) => .error (.malformed (errorText src message pos))
  | .error (.exhausted c) => .error (.exhausted c)
  | .error (.tooManyDigits n) => .error (.tooManyDigits n)

end CommandLine.Toml
