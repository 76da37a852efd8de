import CommandLine.Value.Show

/-!
# The call stack of the TOML reader

The reader runs on a call stack of `stackLimit` places. Every step of the reader takes a
place while it runs, and so does every call it makes into the runtime that the runtime
counts: a text method such as a prefix test, a search or a count; a type called to build a
value (a date, an error); a comparison that the runtime cannot take a shortcut for (one
side is nothing, or the result is not tested at once); writing a value's literal or text
into a message. A place is taken at a known *depth*: one more than the step that makes the
call.

A document that needs a place deeper than the limit fails as a whole, at the first call
(in the order the reader makes them) that finds no place, and the failure says what kind
of call that was. A step lists its calls in order as `(depth, call)` pairs; only the first
that is too deep matters.

## Errors

A syntax error is built by a step of its own, one deeper than the step that finds it. That
step finds the line and column in a step one deeper still, which counts the line feeds
before the position with a runtime call, unless the position is at the end of the document.
-/

namespace CommandLine.Toml

abbrev Source := Array Char

/-- What takes a place on the call stack. -/
inductive Call where
  /-- A step of the reader. -/
  | step
  /-- A call into the runtime: a text method, a type, a pattern. -/
  | builtin
  /-- A comparison the runtime has no shortcut for. -/
  | comparison
  /-- Writing a value's literal into a message. -/
  | literal
  /-- Writing a value's text into a message. -/
  | text
  deriving DecidableEq, Repr, Inhabited

/-- How running out of stack during a call of this kind is reported. -/
def Call.exhaustedMessage : Call → String
  | .step => "maximum recursion depth exceeded"
  | .builtin => "maximum recursion depth exceeded while calling a Python object"
  | .comparison => "maximum recursion depth exceeded in comparison"
  | .literal => "maximum recursion depth exceeded while getting the repr of an object"
  | .text => "maximum recursion depth exceeded while getting the str of an object"

def stackLimit : Nat := 1000

/-- Why reading stopped. -/
inductive TomlError where
  /-- The document is malformed: what is wrong, and the position it was found at. -/
  | invalid (message : String) (pos : Nat)
  /-- A call found no place on the stack. -/
  | exhausted (call : Call)
  /-- A decimal integer has more digits than a whole number may be read from. -/
  | tooManyDigits (count : Nat)
  deriving Repr, Inhabited

/-- The first call of a run, made one after the other, that finds no place. -/
def overflow? (calls : List (Nat × Call)) : Option Call :=
  (calls.find? fun (depth, _) => depth > stackLimit).map (·.2)

/-- Makes calls one after the other, failing at the first that finds no place. -/
def enter (calls : List (Nat × Call)) : Except TomlError Unit :=
  match overflow? calls with
  | some c => .error (.exhausted c)
  | none => pure ()

def reach (depth : Nat) (call : Call) : Except TomlError Unit := enter [(depth, call)]

/-- A comparison of a character that may be missing (at the end of the document): with
nothing on one side it is a call of its own. -/
def compareAt (depth : Nat) (c : Option Char) : Except TomlError Unit :=
  if c.isNone then reach depth .comparison else pure ()

def errorCalls (src : Source) (depth pos : Nat) : List (Nat × Call) :=
  [(depth, .step), (depth + 1, .step)] ++ (if pos < src.size then [(depth + 2, .builtin)] else [])

/-- The error that a step at `depth` builds for a position: the syntax error, unless one of
its calls finds no place. -/
def errorAt (src : Source) (depth pos : Nat) (message : String) : TomlError :=
  match overflow? (errorCalls src depth pos) with
  | some c => .exhausted c
  | none => .invalid message pos

def failAt {α : Type} (src : Source) (depth pos : Nat) (message : String) : Except TomlError α :=
  .error (errorAt src depth pos message)

/-- Fails with an error whose message shows a literal: the literal is written, one deeper
than the step that finds the error, before the error is built. -/
def failShowing {α : Type} (src : Source) (depth pos : Nat) (message : String) :
    Except TomlError α := do
  reach depth .literal
  failAt src depth pos message

end CommandLine.Toml
