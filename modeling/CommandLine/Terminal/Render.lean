import CommandLine.Terminal.Theme
import CommandLine.Terminal.Styled
import CommandLine.Text.Width

/-!
# Writing styled text to a console

A console has a width in cells and either writes escape sequences (a terminal with the
256-color palette) or plain text. Printing a styled text goes line by line, lines being cut
at line feeds only:

1. tabs are expanded to the next multiple of eight cells, and a span that reaches a tab
   grows with the spaces that replace it;
2. a line longer than the console loses trailing whitespace, as much as it is too long but
   no more than it has;
3. the lines are joined again and cut into pieces at every span boundary; each piece is
   written in the stack of styles over it, opened by its own escape sequence and closed
   by a reset. Line feeds are never inside a styled piece.

A console without a single cell of width prints nothing at all, not even the line feed
that ends a print, and resolves no styles.

A style definition that cannot be read gives no escape sequence. Every span's style is
resolved before anything is written, and a style with an `rgb(...)` component that is not a
whole number makes the print fail (`Console.failingComponent?`).
-/

namespace CommandLine.Terminal

/-- An output device: its width in cells, and whether it writes colors. -/
structure Console where
  width : Nat
  colored : Bool
  deriving Inhabited, Repr

/-- The console of a color choice: it writes colors when the choice is `always`, or on a
terminal unless the choice is `never`. -/
def Console.ofChoice (width : Nat) (color : String) (terminal : Bool) : Console :=
  ⟨width, color == "always" || terminal && color != "never"⟩

namespace Styled

/-- The part of a text between two character positions, with the parts of its spans that
are not empty there. -/
def slice (t : Styled) (a b : Nat) : Styled where
  plain := String.ofList ((t.plain.toList.drop a).take (b - a))
  spans := t.spans.filterMap fun s =>
    let lo := max s.start a
    let hi := min s.stop b
    if hi > lo then some ⟨lo - a, hi - a, s.style⟩ else none

/-- Cuts a text at the given positions (increasing, within the text). -/
def divide (t : Styled) (cuts : List Nat) : List Styled :=
  let bounds := 0 :: cuts ++ [t.plain.length]
  (bounds.zip bounds.tail).map fun (a, b) => t.slice a b

/-- Joins texts, moving each text's spans by the length before it. -/
def concat (ts : List Styled) : Styled :=
  ts.foldl (fun acc t =>
    let offset := acc.plain.length
    { plain := acc.plain ++ t.plain
      spans := acc.spans ++ t.spans.map fun s => ⟨s.start + offset, s.stop + offset, s.style⟩ })
    {}

def positionsOf (cs : List Char) (c : Char) : List Nat :=
  (cs.zipIdx.filter fun (d, _) => d = c).map (·.2)

/-- The lines of a text, cut at line feeds (which are dropped). A text without a line feed
is one line with all its spans, empty ones included. -/
def lines (t : Styled) : List Styled :=
  let breaks := positionsOf t.plain.toList '\n'
  if breaks.isEmpty then [t]
  else
    let pieces := t.divide (breaks.flatMap fun p => [p, p + 1])
    pieces.filter (·.plain != "\n")

/-- Adds `n` spaces at the end; spans that reach the end grow with them. -/
def extendStyle (t : Styled) (n : Nat) : Styled :=
  if n = 0 then t
  else
    let len := t.plain.length
    { plain := t.plain ++ String.ofList (List.replicate n ' ')
      spans := t.spans.map fun s => if s.stop ≥ len then { s with stop := s.stop + n } else s }

/-- Replaces each tab by spaces up to the next multiple of `tabSize` cells. -/
def expandTabs (t : Styled) (tabSize : Nat := 8) : Styled :=
  let cs := t.plain.toList
  if !cs.contains '\t' then t
  else
    let parts := t.divide ((positionsOf cs '\t').map (· + 1))
    let step (acc : List Styled × Nat) (part : Styled) : List Styled × Nat :=
      let (done, cell) := acc
      let pcs := part.plain.toList
      if pcs.getLast? = some '\t' then
        let part := { part with plain := String.ofList (pcs.dropLast ++ [' ']) }
        let cell := cell + Text.cellLength part.plain.toList
        let remainder := cell % tabSize
        if remainder = 0 then (done ++ [part], cell)
        else (done ++ [part.extendStyle (tabSize - remainder)], cell + (tabSize - remainder))
      else (done ++ [part], cell + Text.cellLength pcs)
    concat (parts.foldl step ([], 0)).1

/-- Drops the last `n` characters; spans are cut at the new end, and those starting at or
after it are dropped. -/
def cropRight (t : Styled) (n : Nat) : Styled :=
  let keep := t.plain.length - n
  { plain := String.ofList (t.plain.toList.take keep)
    spans := t.spans.filterMap fun s =>
      if s.start < keep then some { s with stop := min s.stop keep } else none }

/-- Shortens a line longer than `width` by its trailing whitespace, as much as it is too
long but no more than it has. -/
def cropTrailingBlank (t : Styled) (width : Nat) : Styled :=
  let len := t.plain.length
  if len ≤ width then t
  else
    let blank := (t.plain.toList.reverse.takeWhile Text.isBlank).length
    if blank = 0 then t else t.cropRight (min blank (len - width))

/-- The pieces of a text between consecutive span boundaries, each with the spans over it
in order. -/
def pieces (t : Styled) : List (String × List String) :=
  let cs := t.plain.toList
  let len := cs.length
  let bounds := ((0 :: len :: t.spans.flatMap fun s => [s.start, s.stop]).filter (· ≤ len))
  let sorted := (bounds.mergeSort (· ≤ ·)).eraseDups
  (sorted.zip sorted.tail).map fun (a, b) =>
    (String.ofList ((cs.drop a).take (b - a)),
      (t.spans.filter fun s => s.start ≤ a ∧ a < s.stop).map (·.style))

end Styled

/-- The escape sequence of a stack of style definitions; definitions that cannot be read
count as the empty style. -/
def stackSequence (styles : List String) : String :=
  (Style.combine (styles.map Style.resolve)).sequence

/-- Writes one piece of text in a stack of styles. -/
def Console.piece (c : Console) (text : String) (styles : List String) : String :=
  if !c.colored || text.isEmpty then text
  else
    let seq := stackSequence styles
    if seq.isEmpty then text else "\x1b[" ++ seq ++ "m" ++ text ++ "\x1b[0m"

/-- A styled text as a console lays it out: cut into lines, each with its tabs expanded and
cropped to the width, then joined again. -/
def Console.layout (c : Console) (t : Styled) : Styled :=
  let lines := t.lines.map fun l => l.expandTabs.cropTrailingBlank c.width
  Styled.concat (lines.intersperse (Styled.ofString "\n"))

/-- The component that makes printing a styled text fail: printing resolves the style of
every span of the laid-out text, written in colors or not, and the first style with an
`rgb(...)` component that is not a whole number stops it. -/
def Console.failingComponent? (c : Console) (t : Styled) : Option String :=
  if c.width = 0 then none
  else (c.layout t).spans.findSome? fun s => Style.failingComponent? s.style

def Console.render (c : Console) (t : Styled) (finish : String := "\n") : String :=
  if c.width = 0 then ""
  else String.join ((c.layout t).pieces.map fun (text, styles) => c.piece text styles) ++ finish

/-- Prints a plain text followed by a line feed; control characters are removed first. -/
def Console.line (c : Console) (s : String) : String := c.render (Styled.ofString s)

end CommandLine.Terminal
