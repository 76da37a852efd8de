/-!
# Shortest decimal text of a double, and correctly rounded reading

A finite double is an exact binary number `m · 2^e`. Every real strictly between the
midpoints to its two neighbours rounds back to it, and so do the midpoints themselves when
`m` is even (ties go to the even significand). The shortest decimal text is found by
trying decimal grids of 1, 2, … 17 significant digits: on each grid only the two grid
points around the value can lie in that interval, so the first grid with a hit wins, and
of two hits the nearer one (an exact tie takes the even digit string).

Reading goes the other way: a decimal `digits · 10^exponent` is an exact rational, and
`roundToFloat` rounds it to the nearest double, ties to even, with overflow to infinity and
gradual underflow.

All arithmetic is on `Nat` and `Int`; `Float` appears only through `toBits` and `ofBits`.
-/

namespace CommandLine.Decimal

/-- An exact nonnegative binary number `significand · 2^exponent`. -/
structure Binary where
  significand : Nat
  exponent : Int
  deriving Repr

/-- What a double is: not a number, an infinity, or a finite binary number with a sign. -/
inductive Kind where
  | nan
  | infinite (negative : Bool)
  | finite (negative : Bool) (value : Binary)

/-- The three fields of a double: sign, biased exponent and fraction. -/
def classify (x : Float) : Kind :=
  let bits : Nat := x.toBits.toNat
  let negative := decide (bits / Nat.pow 2 63 = 1)
  let biased : Nat := (bits / Nat.pow 2 52) % 2048
  let fraction : Nat := bits % Nat.pow 2 52
  if biased = 2047 then
    if fraction = 0 then .infinite negative else .nan
  else if biased = 0 then .finite negative ⟨fraction, -1074⟩
  else .finite negative ⟨fraction + Nat.pow 2 52, (biased : Int) - 1075⟩

/-- `n · 2^p2 · 10^p10` as an exact number, for comparisons. -/
structure Exact where
  n : Nat
  p2 : Int
  p10 : Int

/-- Compares two exact numbers by clearing the negative powers on both sides. -/
def Exact.cmp (a b : Exact) : Ordering :=
  let s2 := min a.p2 b.p2
  let s10 := min a.p10 b.p10
  let lhs := a.n * Nat.pow 2 (a.p2 - s2).toNat * Nat.pow 10 (a.p10 - s10).toNat
  let rhs := b.n * Nat.pow 2 (b.p2 - s2).toNat * Nat.pow 10 (b.p10 - s10).toNat
  compare lhs rhs

/-- The number of decimal digits of a positive number (one for zero). -/
def digitCount (n : Nat) : Nat := (Nat.toDigits 10 n).length

/-- `⌊log10 (num / den)⌋` for positive `num` and `den`. The estimate from digit counts is
off by at most one, and is corrected by exact comparisons. -/
def floorLog10 (num den : Nat) : Int :=
  let guess : Int := (digitCount num : Int) - (digitCount den : Int)
  -- `10^k ≤ num/den`
  let atLeast (k : Int) : Bool :=
    if k ≥ 0 then Nat.pow 10 k.toNat * den ≤ num else den ≤ num * Nat.pow 10 (-k).toNat
  if !atLeast guess then guess - 1
  else if atLeast (guess + 1) then guess + 1
  else guess

/-- A decimal digit string with an exponent: `digits · 10^exponent`. -/
structure Scientific where
  digits : Nat
  exponent : Int
  deriving Repr, BEq

/-- Drops trailing zero digits, moving them into the exponent. -/
def Scientific.normalize (s : Scientific) : Scientific :=
  let rec go (d : Nat) (e : Int) (fuel : Nat) : Scientific :=
    match fuel with
    | 0 => ⟨d, e⟩
    | fuel + 1 => if d ≠ 0 ∧ d % 10 = 0 then go (d / 10) (e + 1) fuel else ⟨d, e⟩
  go s.digits s.exponent (digitCount s.digits)

/-- The rounding interval of a positive binary number, scaled by four so that its ends are
whole multiples of `2^(e-2)`: the low end, the value and the high end as multipliers, and
whether the ends belong to it. -/
def roundingInterval (b : Binary) (normalBoundary : Bool) : Nat × Nat × Nat × Bool :=
  let v := 4 * b.significand
  let low := if normalBoundary then v - 1 else v - 2
  (low, v, v + 2, b.significand % 2 = 0)

/-- The shortest digits that read back as the positive binary number `b`; `boundary` tells
that the gap below is half the gap above (a power of two above the least normal). -/
def shortest (b : Binary) (boundary : Bool) : Scientific :=
  let (low, v, high, closed) := roundingInterval b boundary
  let e2 := b.exponent - 2
  let num := v * Nat.pow 2 e2.toNat
  let den := Nat.pow 2 (-e2).toNat
  let top := floorLog10 num den
  let inside (c : Nat) (q : Int) : Bool :=
    let g : Exact := ⟨c, 0, q⟩
    let lo := (Exact.cmp ⟨low, e2, 0⟩ g)
    let hi := (Exact.cmp g ⟨high, e2, 0⟩)
    if closed then lo != .gt && hi != .gt else lo == .lt && hi == .lt
  let candidate (k : Nat) : Option Scientific :=
    let q : Int := top + 1 - k
    -- the largest grid point at or below the value
    let below : Nat :=
      if q ≥ 0 then num / (den * Nat.pow 10 q.toNat) else num * Nat.pow 10 (-q).toNat / den
    let lowHit := inside below q
    let highHit := inside (below + 1) q
    if lowHit && highHit then
      -- the nearer one; an exact tie takes the even digit string
      match Exact.cmp ⟨v - 0, e2, 0⟩ ⟨2 * below + 1, -1, q⟩ with
      | .lt => some ⟨below, q⟩
      | .gt => some ⟨below + 1, q⟩
      | .eq => some (if below % 2 = 0 then ⟨below, q⟩ else ⟨below + 1, q⟩)
    else if lowHit then some ⟨below, q⟩
    else if highHit then some ⟨below + 1, q⟩
    else none
  let found := (List.range 17).findSome? fun i => candidate (i + 1)
  (found.getD ⟨v / 4, b.exponent⟩).normalize

def shortestOf (b : Binary) : Scientific :=
  shortest b (b.significand = Nat.pow 2 52 ∧ b.exponent > -1074)

/-- Rounds the positive rational `num / den` to the nearest double's bits (sign left out):
ties go to the even significand, values past the largest double become infinity, and small
values lose precision gradually below the least normal. -/
def roundToBits (num den : Nat) : Nat :=
  if num = 0 ∨ den = 0 then 0
  else
    -- ⌊log2 (num/den)⌋ from bit lengths, corrected by one comparison
    let guess : Int := (num.log2 : Int) - (den.log2 : Int)
    let lg : Int :=
      let atLeast (k : Int) : Bool :=
        if k ≥ 0 then Nat.pow 2 k.toNat * den ≤ num else den ≤ num * Nat.pow 2 (-k).toNat
      if atLeast guess then guess else guess - 1
    let e : Int := max (lg - 52) (-1074)
    let (n, d) := if e ≥ 0 then (num, den * Nat.pow 2 e.toNat) else (num * Nat.pow 2 (-e).toNat, den)
    let (q, r) := (n / d, n % d)
    let q := if 2 * r > d ∨ (2 * r = d ∧ q % 2 = 1) then q + 1 else q
    let (q, e) := if q = Nat.pow 2 53 then (Nat.pow 2 52, e + 1) else (q, e)
    if e > 971 then 0x7ff0000000000000
    else if q < Nat.pow 2 52 then q
    else (e + 1075).toNat * Nat.pow 2 52 + (q - Nat.pow 2 52)

/-- The double nearest to `± digits · 10^exponent`. -/
def toFloat (negative : Bool) (s : Scientific) : Float :=
  let bits :=
    if s.digits = 0 then 0
    -- far outside the range of doubles: no need to build huge powers
    else if s.exponent > 400 then 0x7ff0000000000000
    else if s.exponent + digitCount s.digits < -400 then 0
    else if s.exponent ≥ 0 then roundToBits (s.digits * Nat.pow 10 s.exponent.toNat) 1
    else roundToBits s.digits (Nat.pow 10 (-s.exponent).toNat)
  Float.ofBits (UInt64.ofNat (if negative then bits + Nat.pow 2 63 else bits))

/-- How the text of a double is laid out (the choices of the writer that prints it). -/
structure Layout where
  /-- Decimal point positions (digits before the point) written positionally: `lo < p ≤ hi`. -/
  positionalLo : Int
  positionalHi : Int
  /-- Least number of exponent digits. -/
  exponentDigits : Nat
  /-- Text of a value that is not a number, and of an infinity (without sign). -/
  nanText : String
  infinityText : String

/-- The layout of value text: positional for points from -3 to 16, at least two exponent
digits with a sign, `nan` and `inf`. -/
def Layout.value : Layout := ⟨-4, 16, 2, "nan", "inf"⟩

def Layout.json : Layout := ⟨-4, 16, 2, "NaN", "Infinity"⟩

def padLeft (s : String) (width : Nat) : String :=
  String.ofList (List.replicate (width - s.length) '0') ++ s

/-- Lays out a digit string whose decimal point stands after `point` digits. -/
def Layout.place (l : Layout) (ds : String) (point : Int) : String :=
  if point ≤ l.positionalLo ∨ point > l.positionalHi then
    let exp := point - 1
    let mant := match ds.toList with
      | [] => "0"
      | [d] => String.singleton d
      | d :: rest => String.singleton d ++ "." ++ String.ofList rest
    let sign := if exp < 0 then "-" else "+"
    mant ++ "e" ++ sign ++ padLeft (toString exp.natAbs) l.exponentDigits
  else if point ≤ 0 then
    "0." ++ String.ofList (List.replicate point.natAbs '0') ++ ds
  else if point.toNat ≥ ds.length then
    ds ++ String.ofList (List.replicate (point.toNat - ds.length) '0') ++ ".0"
  else
    String.ofList (ds.toList.take point.toNat) ++ "." ++ String.ofList (ds.toList.drop point.toNat)

/-- The shortest text of a double that reads back as the same double. -/
def Layout.show (l : Layout) (x : Float) : String :=
  match classify x with
  | .nan => l.nanText
  | .infinite neg => (if neg then "-" else "") ++ l.infinityText
  | .finite neg b =>
    let sign := if neg then "-" else ""
    if b.significand = 0 then sign ++ "0.0"
    else
      let s := shortestOf b
      let ds := toString s.digits
      sign ++ l.place ds (ds.length + s.exponent)

/-- The exact value of a finite double as a rational `num / den` with a sign, for comparing
it with whole numbers. -/
def exactValue? (x : Float) : Option (Bool × Nat × Nat) :=
  match classify x with
  | .finite neg b =>
    if b.exponent ≥ 0 then some (neg, b.significand * Nat.pow 2 b.exponent.toNat, 1)
    else some (neg, b.significand, Nat.pow 2 (-b.exponent).toNat)
  | _ => none

end CommandLine.Decimal
