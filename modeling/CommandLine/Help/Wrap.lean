import CommandLine.Text.Blank

/-!
# Wrapping help lines

Option help is wrapped to the width of the help column. Runs of ASCII blanks become one
space and the text is trimmed; words are then put on lines greedily. A word longer than a
whole line is cut: its first part fills what is left of the current line, the rest starts
the next one.

Words are the runs between spaces; the help texts wrapped here hold no hyphens, so no word
is split at a hyphen.

## Termination

Wrapping is given fuel: every line takes at least one character of the text, so the
number of lines is at most the length of the text.
-/

namespace CommandLine.Help

/-- Runs of ASCII blanks replaced by one space, and the text trimmed. -/
def normalizeBlanks (s : String) : List Char :=
  let words := (s.toList.splitBy fun a b => Text.isAsciiBlank a == Text.isAsciiBlank b).filter
    fun run => match run with
      | c :: _ => !Text.isAsciiBlank c
      | [] => false
  " ".toList.intercalate words

def chunks (cs : List Char) : List (List Char) :=
  cs.splitBy fun a b => (a = ' ') == (b = ' ')

/-- Fills one line from the chunks: whole chunks while they fit, then, when the next chunk
is longer than a whole line, as much of its start as there is room for (possibly nothing).
Returns the chunks of the line and the chunks left. -/
def fillLine (width : Nat) (cs : List (List Char)) : List (List Char) × List (List Char) :=
  let rec take (used : Nat) (cur : List (List Char)) (cs : List (List Char)) :
      Nat × List (List Char) × List (List Char) :=
    match cs with
    | c :: rest => if used + c.length ≤ width then take (used + c.length) (cur ++ [c]) rest
      else (used, cur, cs)
    | [] => (used, cur, [])
  let (used, line, rest) := take 0 [] cs
  match rest with
  | c :: more =>
    if c.length > width then
      let room := width - used
      (line ++ [c.take room], c.drop room :: more)
    else (line, rest)
  | [] => (line, rest)

/-- Wraps a text to lines of at most `width` characters (`width` at least one). -/
def wrap (text : String) (width : Nat) : List String :=
  let width := max width 1
  let rec go (fuel : Nat) (first : Bool) (cs : List (List Char)) : List String :=
    match fuel with
    | 0 => []
    | fuel + 1 =>
      -- a space at the start of a line other than the first is dropped
      let cs := match cs with
        | c :: rest => if !first && c.all (· = ' ') then rest else cs
        | [] => []
      if cs.isEmpty then []
      else
        let (line, rest) := fillLine width cs
        -- the last chunk of a line is dropped when it is blank (or empty)
        let line := match line.getLast? with
          | some c => if c.all (· = ' ') then line.dropLast else line
          | none => line
        let lines := if line.isEmpty then [] else [String.ofList line.flatten]
        lines ++ go fuel false rest
  let cs := normalizeBlanks text
  go (cs.length + 1) true (chunks cs)

end CommandLine.Help
