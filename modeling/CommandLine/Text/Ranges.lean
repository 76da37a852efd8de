/-!
# Code point ranges written as text

A Unicode property table is kept as one string of hexadecimal entries, `start` or
`start-end`, separated by blanks, and read once into a sorted array of closed intervals.
Membership is a binary search over that array.

The tables themselves live beside the property they describe (`Text/Printable`,
`Text/Digit`, `Text/Width`); this module only holds the reader and the search.
-/

namespace CommandLine.Text

/-- A closed interval of code points. -/
structure CodeRange where
  lo : Nat
  hi : Nat
  deriving Inhabited, Repr

/-- The value of one hexadecimal digit. -/
def hexValue? (c : Char) : Option Nat :=
  if '0' ≤ c ∧ c ≤ '9' then some (c.toNat - '0'.toNat)
  else if 'a' ≤ c ∧ c ≤ 'f' then some (c.toNat - 'a'.toNat + 10)
  else if 'A' ≤ c ∧ c ≤ 'F' then some (c.toNat - 'A'.toNat + 10)
  else none

/-- A run of hexadecimal digits as a number; `none` for an empty or malformed run. -/
def readHex (cs : List Char) : Option Nat :=
  if cs.isEmpty then none
  else cs.foldlM (fun acc c => (hexValue? c).map (acc * 16 + ·)) 0

/-- One table entry: `a` is the range `[a, a]`, `a-b` the range `[a, b]`. -/
def CodeRange.ofEntry? (word : List Char) : Option CodeRange :=
  match word.splitOn '-' with
  | [a] => (readHex a).map fun n => ⟨n, n⟩
  | [a, b] =>
    match readHex a, readHex b with
    | some x, some y => some ⟨x, y⟩
    | _, _ => none
  | _ => none

/-- Reads a whole table; entries are separated by blanks and malformed entries are left out. -/
def CodeRange.readTable (s : String) : Array CodeRange :=
  ((s.toList.splitOn ' ').filterMap CodeRange.ofEntry?).toArray

/-- Binary search in `t[lo, hi)`: some range there contains `n`. The ranges are sorted and
disjoint, so the search halves the window at each step. -/
def CodeRange.searchIn (t : Array CodeRange) (n : Nat) (lo hi : Nat) : Bool :=
  if h : lo < hi then
    let mid := (lo + hi) / 2
    let r := t[mid]!
    if n < r.lo then CodeRange.searchIn t n lo mid
    else if r.hi < n then CodeRange.searchIn t n (mid + 1) hi
    else true
  else false
termination_by hi - lo

def CodeRange.member (t : Array CodeRange) (n : Nat) : Bool :=
  CodeRange.searchIn t n 0 t.size

end CommandLine.Text
