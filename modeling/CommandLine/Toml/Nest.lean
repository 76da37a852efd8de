import CommandLine.Value.Basic

/-!
# Tables of a TOML document under construction

A document is built statement by statement into a table. Two structures are kept:

* the *table* itself, whose nested tables are reached by key paths. Walking a path creates
  the tables that are missing; through an array of tables the walk goes into its last
  table. A path that runs into any other value cannot be walked.
* the *marks* on key paths. A path is *explicit* once a table header or a dotted key has
  created it, and *frozen* once an inline table or array has been stored at it. A mark set
  recursively holds for every path below too.

Marks for the tables that dotted keys open are *pending* until the next table header, so
that several dotted keys of one section can share a table while later sections cannot
reopen it.
-/

namespace CommandLine.Toml

/-- A mark on a key path. -/
inductive Mark where
  | frozen
  | explicitNest
  deriving DecidableEq, Repr, Inhabited

/-- The marks of one key and the keys below it. -/
inductive MarkNode where
  | node (marks recursive : List Mark) (children : List (String × MarkNode))
  deriving Inhabited

abbrev Marks := List (String × MarkNode)

namespace MarkNode

def marks : MarkNode → List Mark
  | .node m _ _ => m

def recursive : MarkNode → List Mark
  | .node _ r _ => r

def children : MarkNode → Marks
  | .node _ _ c => c

def empty : MarkNode := .node [] [] []

end MarkNode

namespace Marks

def find? (ms : Marks) (k : String) : Option MarkNode := (List.find? (·.1 == k) ms).map (·.2)

/-- Replaces the node of a key (adding the key when it is new). -/
def put (ms : Marks) (k : String) (n : MarkNode) : Marks :=
  if ms.any (·.1 == k) then ms.map fun (k', n') => if k' == k then (k', n) else (k', n')
  else ms ++ [(k, n)]

/-- Sets a mark on a key path, on the key itself or recursively. -/
def set (ms : Marks) (m : Mark) (recursive : Bool) : List String → Marks
  | [] => ms
  | [stem] =>
    let n := (ms.find? stem).getD MarkNode.empty
    ms.put stem (if recursive then .node n.marks (n.recursive ++ [m]) n.children
      else .node (n.marks ++ [m]) n.recursive n.children)
  | k :: rest =>
    let n := (ms.find? k).getD MarkNode.empty
    ms.put k (.node n.marks n.recursive (set n.children m recursive rest))

/-- Removes every mark of a key path and the keys below it. -/
def unsetAll (ms : Marks) : List String → Marks
  | [] => ms
  | [stem] => ms.filter (·.1 != stem)
  | k :: rest =>
    match ms.find? k with
    | some n => ms.put k (.node n.marks n.recursive (unsetAll n.children rest))
    | none => ms

/-- Whether a key path carries a mark, set on it or recursively on a path above it. The
empty path (the document) carries none. -/
def has (ms : Marks) (m : Mark) : List String → Bool
  | [] => false
  | [stem] =>
    match ms.find? stem with
    | some n => n.marks.contains m || n.recursive.contains m
    | none => false
  | k :: rest =>
    match ms.find? k with
    | some n => n.recursive.contains m || has n.children m rest
    | none => false

end Marks

abbrev Table := List (String × Value)

namespace Table

/-- Sets a key (in place when it is there, else at the end). -/
def put (t : Table) (k : String) (v : Value) : Table :=
  if t.any (·.1 == k) then t.map fun (k', v') => if k' == k then (k', v) else (k', v')
  else t ++ [(k, v)]

def has (t : Table) (k : String) : Bool := t.any (·.1 == k)

end Table

/-- Changes the table at a key path, creating the tables that are missing. Through an
array the walk goes into its last table when `throughArrays`; a path that meets any other
value is `blocked`. -/
def updateNest {ε : Type} (blocked : ε) (throughArrays : Bool) (f : Table → Except ε Table) :
    List String → Table → Except ε Table
  | [], t => f t
  | k :: rest, t =>
    match Value.lookup t k with
    | none => do
      let inner ← updateNest blocked throughArrays f rest []
      pure (t.put k (.table inner))
    | some (.table inner) => do
      let inner ← updateNest blocked throughArrays f rest inner
      pure (t.put k (.table inner))
    | some (.list items) =>
      if throughArrays then
        match items.getLast? with
        | some (.table inner) => do
          let inner ← updateNest blocked throughArrays f rest inner
          pure (t.put k (.list (items.dropLast ++ [.table inner])))
        | _ => .error blocked
      else .error blocked
    | some _ => .error blocked

end CommandLine.Toml
