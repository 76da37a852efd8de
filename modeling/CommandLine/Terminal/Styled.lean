import CommandLine.Text.Blank

/-!
# Styled text

A styled text is a plain text with spans: ranges of character positions, each carrying a
style definition. Spans may overlap; a later span is applied over an earlier one.

Appending removes the control characters bell, backspace, vertical tab, form feed and
carriage return from the appended piece, and records a span for it when a style is given
(even when nothing of the piece is left, which records an empty span).

`helpText` styles a help page line by line: the `usage:` word, headings, the first word of
each two-space indented entry, and every `<PLACEHOLDER>`.
-/

namespace CommandLine.Terminal

/-- A styled range of character positions, `[start, stop)`. -/
structure Span where
  start : Nat
  stop : Nat
  style : String
  deriving DecidableEq, Repr, Inhabited

/-- A text with styled spans. -/
structure Styled where
  plain : String := ""
  spans : List Span := []
  deriving Inhabited

/-- The control characters that appended text loses. -/
def strippedControl (c : Char) : Bool :=
  c.toNat = 0x07 ∨ c.toNat = 0x08 ∨ c.toNat = 0x0b ∨ c.toNat = 0x0c ∨ c.toNat = 0x0d

/-- A text without the control characters that appended text loses. -/
def sanitize (s : String) : String := String.ofList (s.toList.filter (!strippedControl ·))

namespace Styled

/-- Appends a piece of text, with a span in `style` when the style is not empty and the
piece was not. -/
def append (t : Styled) (piece : String) (style : String := "") : Styled :=
  if piece.isEmpty then t
  else
    let clean := sanitize piece
    let offset := t.plain.length
    { plain := t.plain ++ clean
      spans := if style.isEmpty then t.spans
        else t.spans ++ [⟨offset, offset + clean.length, style⟩] }

/-- An unstyled text (control characters removed). -/
def ofString (s : String) : Styled := ({} : Styled).append s

def labelled (label style rest : String) : Styled := (({} : Styled).append label style).append rest

/-- The positions `[start, stop)` of every match of `<[A-Z_]+>`, left to right and not
overlapping. -/
def placeholderRanges (cs : List Char) : List (Nat × Nat) :=
  let isName (c : Char) : Bool := ('A' ≤ c ∧ c ≤ 'Z') ∨ c = '_'
  let rec go (cs : List Char) (pos : Nat) : List (Nat × Nat) :=
    match cs with
    | [] => []
    | '<' :: rest =>
      let name := rest.takeWhile isName
      let after := rest.drop name.length
      if !name.isEmpty && after.head? = some '>' then
        (pos, pos + name.length + 2) :: go (after.drop 1) (pos + name.length + 2)
      else go rest (pos + 1)
    | _ :: rest => go rest (pos + 1)
  termination_by cs.length
  decreasing_by all_goals (simp only [List.length_drop, List.length_cons]; omega)
  go cs 0

/-- Adds a span in `style` over every `<PLACEHOLDER>`, unless the style is empty. -/
def highlightPlaceholders (t : Styled) (style : String) : Styled :=
  if style.isEmpty then t
  else { t with spans := t.spans ++ (placeholderRanges t.plain.toList).map fun (a, b) => ⟨a, b, style⟩ }

end Styled

/-- Whether a character ends a line when a text is cut into lines: line feed, carriage
return, vertical tab, form feed, the information separators U+001C to U+001E, next line,
and the line and paragraph separators. -/
def isLineBreak (c : Char) : Bool :=
  let n := c.toNat
  n = 0x0a ∨ n = 0x0d ∨ n = 0x0b ∨ n = 0x0c ∨ n = 0x1c ∨ n = 0x1d ∨ n = 0x1e ∨ n = 0x85 ∨
    n = 0x2028 ∨ n = 0x2029

/-- Cuts a text into lines, each keeping its line break (a carriage return followed by a line
feed is one break). A text that does not end with a break has a last line without one. -/
def linesWithBreaks (cs : List Char) : List (List Char) :=
  let rec go (cs : List Char) (cur : List Char) : List (List Char) :=
    match cs with
    | [] => if cur.isEmpty then [] else [cur.reverse]
    | '\r' :: '\n' :: rest => ('\n' :: '\r' :: cur).reverse :: go rest []
    | c :: rest => if isLineBreak c then (c :: cur).reverse :: go rest [] else go rest (c :: cur)
  go cs []

/-- The styles of the parts of a help page. -/
structure HelpStyles where
  header : String
  usage : String
  literal : String
  placeholder : String

/-- Styles one line of a help page and appends it. -/
def helpLine (styles : HelpStyles) (t : Styled) (line : List Char) : Styled :=
  let text := String.ofList line
  let stripped := line.dropWhile (· = ' ')
  let indent := line.length - stripped.length
  if text.startsWith "usage:" then
    (t.append "usage:" styles.usage).append (String.ofList (line.drop 6))
  else if indent = 0 ∧ (Text.trimBlankRight text).endsWith ":" then
    t.append text styles.header
  else if indent = 2 ∧ !(Text.trimBlank (String.ofList stripped)).isEmpty then
    let word := stripped.takeWhile (· ≠ ' ')
    let rest := stripped.drop word.length
    ((t.append (String.ofList (line.take indent))).append (String.ofList word) styles.literal).append
      (String.ofList rest)
  else t.append text

def helpText (text : String) (styles : HelpStyles) : Styled :=
  ((linesWithBreaks text.toList).foldl (helpLine styles) {}).highlightPlaceholders
    styles.placeholder

end CommandLine.Terminal
