import CommandLine.Text.Case
import CommandLine.Text.Blank
import CommandLine.Text.Digit
import CommandLine.Terminal.Palette

/-!
# Text styles and their escape sequences

A style is written as words: attribute names (`bold`, `dim`, `italic`, `underline`, …, with
one-letter short forms), `not ATTRIBUTE` to switch one off, a color for the foreground, and
`on COLOR` for the background. Words are read in lower case, except the attribute after
`not`, which must be written in lower case already. Colors are the names of the palette
(`Terminal/Palette`), `default`, `color(N)` for a palette entry, `#rrggbb`, or `rgb(r,g,b)`
(the components in decimal digits of any script). A definition that cannot be read is not
an error where styles are applied: the text is then simply unstyled. An `rgb(...)` color
whose brackets hold only digits, blanks and commas, but a component that is not a whole
number, is an error there (`StyleProblem.notWhole`).

A terminal with the 256-color palette writes a style as one Select Graphic Rendition
sequence: the codes of the attributes that are on, in a fixed order, then the foreground
and the background. True colors are first reduced to the palette: grays (saturation below
0.15) to the gray ramp, other colors to the 6×6×6 cube.

Styles stack: when several apply to one piece of text, each later one overrides the
colors it sets and the attributes it mentions (`Style.combine`).
-/

namespace CommandLine.Terminal

/-- A color as a style names it. -/
inductive Color where
  /-- The terminal's own color. -/
  | default
  /-- One of the sixteen standard colors. -/
  | standard (n : Nat)
  /-- An entry of the 256-color palette above the standard ones. -/
  | palette (n : Nat)
  /-- A true color. -/
  | rgb (r g b : Nat)
  deriving DecidableEq, Repr

/-- The attributes in escape-code order, with their short names. -/
def attributeNames : List (List String) :=
  [["bold", "b"], ["dim", "d"], ["italic", "i"], ["underline", "u"], ["blink"], ["blink2"],
    ["reverse", "r"], ["conceal", "c"], ["strike", "s"], ["underline2", "uu"], ["frame"],
    ["encircle"], ["overline", "o"]]

def attributeCodes : List String :=
  ["1", "2", "3", "4", "5", "6", "7", "8", "9", "21", "51", "52", "53"]

def attributeIndex? (word : String) : Option Nat :=
  attributeNames.findIdx? (·.contains word)

/-- A style: colors and attributes. An attribute is described by two bit masks: `mentioned`
has the attributes the style sets (on or off), `enabled` those it switches on. -/
structure Style where
  color : Option Color := none
  background : Option Color := none
  enabled : Nat := 0
  mentioned : Nat := 0
  deriving DecidableEq, Repr

namespace Style

def null : Style := {}

/-- Applies `b` over `a`: `b`'s colors win where set, and `b`'s mentioned attributes
replace `a`'s. -/
def layer (a b : Style) : Style where
  color := b.color <|> a.color
  background := b.background <|> a.background
  enabled := (a.enabled &&& (a.mentioned ^^^ (a.mentioned &&& b.mentioned))) |||
    (b.enabled &&& b.mentioned)
  mentioned := a.mentioned ||| b.mentioned

/-- Stacks styles, later over earlier. -/
def combine (styles : List Style) : Style := styles.foldl layer null

end Style

def decimal? (s : String) : Option Nat :=
  if !s.isEmpty && s.all Char.isDigit then some s.toNat! else none

/-- The value of a two-digit lower-case hexadecimal number. -/
def hexByte? (cs : List Char) : Option Nat :=
  let digit (c : Char) : Option Nat :=
    if '0' ≤ c ∧ c ≤ '9' then some (c.toNat - '0'.toNat)
    else if 'a' ≤ c ∧ c ≤ 'f' then some (c.toNat - 'a'.toNat + 10)
    else none
  match cs with
  | [a, b] => do pure ((← digit a) * 16 + (← digit b))
  | _ => none

/-- Why a style word could not be used: it is not a style word at all, or it is an
`rgb(...)` color with a component that is not a whole number (kept as written). Text in
an unreadable style is unstyled; a component that is not a whole number is a failure of
whatever applies the style. -/
inductive StyleProblem where
  | unreadable
  | notWhole (component : String)
  deriving DecidableEq, Repr

/-- Whether a character may stand between the brackets of `rgb(...)`: a decimal digit of
any script, a blank or a comma. -/
def rgbChar (c : Char) : Bool := (Text.decimalValue? c).isSome || Text.isBlank c || c == ','

/-- Reads the components of `rgb(...)`: exactly three, each read as a whole number in
turn (blanks around it ignored), then each at most 255. -/
def readRgb (inner : String) : Except StyleProblem Color := do
  match inner.splitOn "," with
  | [r, g, b] =>
    let whole (part : String) : Except StyleProblem Nat :=
      match Text.readDecimal? (Text.trimBlank part) with
      | some n => pure n
      | none => throw (.notWhole part)
    let r ← whole r
    let g ← whole g
    let b ← whole b
    if r ≤ 255 ∧ g ≤ 255 ∧ b ≤ 255 then pure (.rgb r g b) else throw .unreadable
  | _ => throw .unreadable

/-- Reads one color word (already in lower case). -/
def Color.read (word : String) : Except StyleProblem Color :=
  let w := Text.trimBlank word
  if w = "default" then pure .default
  else match paletteNumber? w with
  | some n => pure (if n < 16 then .standard n else .palette n)
  | none =>
    let cs := w.toList
    if cs.head? = some '#' then
      match cs.drop 1 with
      | [a, b, c, d, e, f] =>
        match hexByte? [a, b], hexByte? [c, d], hexByte? [e, f] with
        | some r, some g, some bl => pure (.rgb r g bl)
        | _, _, _ => throw .unreadable
      | _ => throw .unreadable
    else if w.startsWith "color(" ∧ w.endsWith ")" then
      let inner := String.ofList ((cs.drop 6).dropLast)
      match decimal? inner with
      | some n =>
        if inner.length ≤ 3 then
          if n < 16 then pure (.standard n) else if n ≤ 255 then pure (.palette n) else throw .unreadable
        else throw .unreadable
      | none => throw .unreadable
    else if w.startsWith "rgb(" ∧ w.endsWith ")" ∧ w.length > 5 then
      let inner := String.ofList ((cs.drop 4).dropLast)
      if inner.all rgbChar then readRgb inner else throw .unreadable
    else throw .unreadable

/-- Reads a style definition, word by word from the left; the first word that cannot be
used decides the problem. -/
def Style.read (definition : String) : Except StyleProblem Style :=
  let words := Text.splitBlank definition
  if words.isEmpty || Text.trimBlank definition = "none" then pure Style.null
  else
    let rec go (ws : List String) (acc : Style) : Except StyleProblem Style :=
      match ws with
      | [] => pure acc
      | w :: rest =>
        let word := Text.lower w
        if word = "on" ∨ word = "not" ∨ word = "link" then
          match rest with
          | [] => throw .unreadable
          | a :: more =>
            if word = "on" then do
              let col ← Color.read (Text.lower a)
              go more { acc with background := some col }
            else if word = "not" then
              match attributeIndex? a with
              | some i =>
                go more { acc with enabled := acc.enabled &&& (Nat.pow 2 13 - 1 - Nat.pow 2 i),
                                   mentioned := acc.mentioned ||| Nat.pow 2 i }
              | none => throw .unreadable
            else go more acc
        else
          match attributeIndex? word with
          | some i => go rest { acc with enabled := acc.enabled ||| Nat.pow 2 i,
                                         mentioned := acc.mentioned ||| Nat.pow 2 i }
          | none => do
            let col ← Color.read word
            go rest { acc with color := some col }
    go words Style.null

/-! ## Reduction to the 256-color palette -/

/-- Rounds a double to the nearest whole number, ties to even. -/
def roundHalfEven (x : Float) : Int :=
  let f := x.floor
  let d := x - f
  let base : Int := if f < 0 then -((-f).toUInt64.toNat : Int) else (f.toUInt64.toNat : Int)
  if d > 0.5 then base + 1
  else if d < 0.5 then base
  else if base % 2 = 0 then base else base + 1

/-- Lightness and saturation of a color with components in `[0, 1]` (hue left out). -/
def lightnessSaturation (r g b : Float) : Float × Float :=
  let hi := max r (max g b)
  let lo := min r (min g b)
  let sum := hi + lo
  let range := hi - lo
  let l := sum / 2.0
  if lo == hi then (l, 0.0)
  else if l <= 0.5 then (l, range / sum)
  else (l, range / (2.0 - sum))

def cubeStep (x : Nat) : Int :=
  let v : Float := x.toFloat
  roundHalfEven (if x < 95 then v / 95.0 else 1.0 + (v - 95.0) / 40.0)

/-- The palette entry nearest to a true color. -/
def paletteOf (r g b : Nat) : Nat :=
  let (l, s) := lightnessSaturation (r.toFloat / 255.0) (g.toFloat / 255.0) (b.toFloat / 255.0)
  if s < 0.15 then
    let gray := roundHalfEven (l * 25.0)
    if gray = 0 then 16 else if gray = 25 then 231 else (231 + gray).toNat
  else (16 + 36 * cubeStep r + 6 * cubeStep g + cubeStep b).toNat

/-- A color as the 256-color terminal shows it. -/
def Color.reduce : Color → Color
  | .rgb r g b => .palette (paletteOf r g b)
  | c => c

/-- The escape codes of a color, for the foreground or the background. -/
def Color.codes (foreground : Bool) : Color → List String
  | .default => [if foreground then "39" else "49"]
  | .standard n =>
    [toString ((if n < 8 then (if foreground then 30 else 40) else (if foreground then 82 else 92)) + n)]
  | .palette n => [if foreground then "38" else "48", "5", toString n]
  | .rgb r g b => [if foreground then "38" else "48", "2", toString r, toString g, toString b]

/-- The parameter list of the escape sequence of a style on a 256-color terminal; empty
when the style changes nothing. -/
def Style.sequence (s : Style) : String :=
  let on := s.enabled &&& s.mentioned
  let attrs := (attributeCodes.zipIdx.filter fun (_, i) => on.testBit i).map (·.1)
  let fg := (s.color.map fun c => c.reduce.codes true).getD []
  let bg := (s.background.map fun c => c.reduce.codes false).getD []
  ";".intercalate (attrs ++ fg ++ bg)

end CommandLine.Terminal
