/-!
# Blank characters

Two classes of blank are in use. `isBlank` is the Unicode whitespace of text
processing: the ASCII tab, line feed, vertical tab, form feed, carriage return and space,
the information separators U+001C to U+001F, next line U+0085, no-break space U+00A0,
and the Unicode space and line/paragraph separators. `isAsciiBlank` is the six ASCII
blanks only, used where help text collapses its runs of blanks.
-/

namespace CommandLine.Text

/-- Unicode whitespace (Unicode 14.0, bidirectional classes WS, B, S and category Zs). -/
def isBlank (c : Char) : Bool :=
  let n := c.toNat
  (0x09 ≤ n ∧ n ≤ 0x0d) ∨ (0x1c ≤ n ∧ n ≤ 0x20) ∨ n = 0x85 ∨ n = 0xa0 ∨ n = 0x1680 ∨
    (0x2000 ≤ n ∧ n ≤ 0x200a) ∨ n = 0x2028 ∨ n = 0x2029 ∨ n = 0x202f ∨ n = 0x205f ∨
    n = 0x3000

def isAsciiBlank (c : Char) : Bool :=
  c = ' ' ∨ c = '\t' ∨ c = '\n' ∨ c = '\r' ∨ c.toNat = 0x0b ∨ c.toNat = 0x0c

def trimBlank (s : String) : String :=
  String.ofList ((s.toList.dropWhile isBlank).reverse.dropWhile isBlank).reverse

def trimBlankRight (s : String) : String :=
  String.ofList (s.toList.reverse.dropWhile isBlank).reverse

/-- The words of a text: its maximal runs of characters that are not Unicode whitespace. -/
def splitBlank (s : String) : List String :=
  ((s.toList.splitBy fun a b => isBlank a == isBlank b).filter fun run =>
    match run with
    | c :: _ => !isBlank c
    | [] => false).map String.ofList

def dropSpaces (s : String) : String :=
  String.ofList (s.toList.dropWhile (· = ' '))

end CommandLine.Text
