/-!
# Similar names

When a command name is not known, the front end suggests the most similar listed name.
Similarity is the ratio `2·M / T`, where `T` is the total length of the two names and `M`
the number of characters in their matching blocks: the longest common block is taken
first (the leftmost in the candidate, then the leftmost in the typed name), and the parts to
its left and to its right are matched the same way, independently.

In a typed name of 200 characters or more, characters that occur more than `n / 100 + 1`
times cannot start a block (they may still extend one).

A candidate qualifies when its ratio is at least 0.6, after two cheaper upper bounds
(lengths alone, then character counts) have also reached 0.6. Of the qualifying candidates
the one with the highest ratio wins, a tie going to the greater name.

## Termination

The matching blocks are found by a recursion that is given fuel: each step splits a range
of the candidate at a block of at least one character, so the number of steps is at most
the candidate's length.
-/

namespace CommandLine.Matching

/-- `2·m / t` as a double; `1` when both names are empty. -/
def ratioOf (m t : Nat) : Float :=
  if t = 0 then 1.0 else 2.0 * m.toFloat / t.toFloat

def similarityCutoff : Float := 0.6

/-- The positions of each character in the typed name, in increasing order, without the
characters that are too frequent to start a block. -/
def positionIndex (b : Array Char) : List (Char × List Nat) :=
  let grouped := (List.range b.size).foldl (fun (acc : List (Char × List Nat)) j =>
    let c := b[j]!
    if acc.any (·.1 = c) then acc.map fun (d, js) => if d = c then (d, js ++ [j]) else (d, js)
    else acc ++ [(c, [j])]) []
  if b.size ≥ 200 then
    let limit := b.size / 100 + 1
    grouped.filter fun (_, js) => js.length ≤ limit
  else grouped

def positionsIn (index : List (Char × List Nat)) (c : Char) : List Nat :=
  ((index.find? (·.1 = c)).map (·.2)).getD []

/-- The longest common block of `a[alo, ahi)` and `b[blo, bhi)`, as `(i, j, k)`: the block
`a[i, i+k) = b[j, j+k)`. Among longest blocks the first found wins (scanning `a` left to
right), then it is extended over equal characters on both sides. -/
def longestBlock (a b : Array Char) (index : List (Char × List Nat)) (alo ahi blo bhi : Nat) :
    Nat × Nat × Nat :=
  -- lengths of the blocks ending at (i - 1, j), for each j
  let step (acc : Nat × Nat × Nat × List (Nat × Nat)) (i : Nat) : Nat × Nat × Nat × List (Nat × Nat) :=
    let (bi, bj, bk, prev) := acc
    let js := (positionsIn index a[i]!).filter (fun j => blo ≤ j) |>.takeWhile (· < bhi)
    js.foldl (fun (acc : Nat × Nat × Nat × List (Nat × Nat)) j =>
      let (bi, bj, bk, cur) := acc
      let k := (((prev.find? (·.1 + 1 = j)).map (·.2)).getD 0) + 1
      let cur := cur ++ [(j, k)]
      if k > bk then (i + 1 - k, j + 1 - k, k, cur) else (bi, bj, bk, cur)) (bi, bj, bk, [])
  let (bi, bj, bk, _) := (List.range' alo (ahi - alo)).foldl step (alo, blo, 0, [])
  -- extend over equal characters on the left, then on the right
  let rec left (i j k fuel : Nat) : Nat × Nat × Nat :=
    match fuel with
    | 0 => (i, j, k)
    | fuel + 1 =>
      if i > alo ∧ j > blo ∧ a[i - 1]! = b[j - 1]! then left (i - 1) (j - 1) (k + 1) fuel
      else (i, j, k)
  let rec right (i j k fuel : Nat) : Nat × Nat × Nat :=
    match fuel with
    | 0 => (i, j, k)
    | fuel + 1 =>
      if i + k < ahi ∧ j + k < bhi ∧ a[i + k]! = b[j + k]! then right i j (k + 1) fuel
      else (i, j, k)
  let (bi, bj, bk) := left bi bj bk (ahi - alo)
  right bi bj bk (ahi - alo)

/-- The number of characters in the matching blocks of `a[alo, ahi)` and `b[blo, bhi)`. -/
def matchedCount (a b : Array Char) (index : List (Char × List Nat)) :
    Nat → Nat → Nat → Nat → Nat → Nat
  | 0, _, _, _, _ => 0
  | fuel + 1, alo, ahi, blo, bhi =>
    let (i, j, k) := longestBlock a b index alo ahi blo bhi
    if k = 0 then 0
    else
      k + (if alo < i ∧ blo < j then matchedCount a b index fuel alo i blo j else 0) +
        (if i + k < ahi ∧ j + k < bhi then matchedCount a b index fuel (i + k) ahi (j + k) bhi else 0)

/-- The similarity ratio of a candidate `a` to a typed name `b`. -/
def ratio (a b : String) : Float :=
  let aa := a.toList.toArray
  let bb := b.toList.toArray
  ratioOf (matchedCount aa bb (positionIndex bb) (aa.size + 1) 0 aa.size 0 bb.size) (aa.size + bb.size)

/-- An upper bound of the ratio from the lengths alone. -/
def lengthBound (a b : String) : Float := ratioOf (min a.length b.length) (a.length + b.length)

/-- An upper bound of the ratio from character counts: the size of the common multiset. -/
def countBound (a b : String) : Float :=
  let bs := b.toList
  let (m, _) := a.toList.foldl (fun (acc : Nat × List (Char × Nat)) c =>
    let (m, used) := acc
    let seen := ((used.find? (·.1 = c)).map (·.2)).getD 0
    let avail := bs.count c
    let used := if used.any (·.1 = c) then used.map fun (d, n) => if d = c then (d, n + 1) else (d, n)
      else used ++ [(c, 1)]
    (if seen < avail then m + 1 else m, used)) (0, [])
  ratioOf m (a.length + b.length)

/-- Whether `(r, x)` is greater than `(s, y)`, ratio first, then name. -/
def betterThan (r : Float) (x : String) (s : Float) (y : String) : Bool :=
  r > s || (r == s && decide (y < x))

/-- The most similar candidate to a typed name, if any reaches the cutoff. -/
def closestMatch (word : String) (candidates : List String) : Option String :=
  let scored := candidates.filterMap fun x =>
    if lengthBound x word >= similarityCutoff && countBound x word >= similarityCutoff then
      let r := ratio x word
      if r >= similarityCutoff then some (r, x) else none
    else none
  (scored.foldl (fun (best : Option (Float × String)) (r, x) =>
    match best with
    | none => some (r, x)
    | some (s, y) => if betterThan r x s y then some (r, x) else best) none).map (·.2)

end CommandLine.Matching
