import CommandLine.Objects.Basic

/-!
# Reading the world from its tables

The world is kept as three texts, read once:

* the **strings**: one per line, a backslash written `\\` and a line feed `\n`; everything
  else refers to a string by its line number;
* the **entries**: one line per entry, in order of number, each a list of words separated
  by single blanks: the kind (`M` module, `T` class, `O` other), the type's number, then
  tagged fields;
* the **modules**: one line per module: its name, its entry, and the names of the modules
  importing it loads (a count, then the names).

Numbers are written in base 62 (digits, then small letters, then capitals). A reference
is an entry's number, `~` and a type's number for a value the table does not keep, or `-`
for none. An object is a reference, or `!`, `%` or `^` followed by what it is bound from
and to. An answer is an object, or `$`, a class name, a count and the pieces of a message.
An access rule is a letter, or `k` followed by an answer.

Words that cannot be read give nothing: a field that does not read is dropped with the
rest of its line.

## Names worked out from where an entry is listed

Most entries are listed under their own name in the namespace of the module or class that
defines them, so the table leaves out what that place says. An entry's *home* is the first
place, in order of entries and then of names, that lists it. A handler name written `^` is
the home's dotted name and the name listed there; `o` and an entry names the place
instead; `d` is that of a method descriptor or slot wrapper (`None`, the class, the name);
`b` that of a builtin method bound to a class or instance (`None`, the class, the name at
home). A descriptor written `^` has its home's name and belongs to the home class.
-/

namespace CommandLine.Objects

namespace Decode

abbrev Words := List String

/-- Undoes the escapes of a string line. -/
def unescape (s : String) : String :=
  let rec go : List Char → List Char
    | '\\' :: 'n' :: rest => '\n' :: go rest
    | '\\' :: c :: rest => c :: go rest
    | c :: rest => c :: go rest
    | [] => []
  String.ofList (go s.toList)

def readStrings (text : String) : Array String :=
  ((text.splitOn "\n").map unescape).toArray

/-- The value of a base 62 digit. -/
def digit? (c : Char) : Option Nat :=
  if '0' ≤ c ∧ c ≤ '9' then some (c.toNat - '0'.toNat)
  else if 'a' ≤ c ∧ c ≤ 'z' then some (c.toNat - 'a'.toNat + 10)
  else if 'A' ≤ c ∧ c ≤ 'Z' then some (c.toNat - 'A'.toNat + 36)
  else none

def base62? (w : String) : Option Nat :=
  if w.isEmpty then none
  else w.toList.foldlM (fun n c => (digit? c).map (62 * n + ·)) 0

def num? : Words → Option (Nat × Words)
  | w :: rest => (base62? w).map (·, rest)
  | [] => none

def str? (strings : Array String) : Words → Option (String × Words)
  | w :: rest => (base62? w).bind fun i => strings[i]?.map (·, rest)
  | [] => none

def optStr? (strings : Array String) : Words → Option (Option String × Words)
  | "-" :: rest => some (none, rest)
  | ws => (str? strings ws).map fun (s, rest) => (some s, rest)

/-- Reads a reference that may be absent. -/
def ref? : Words → Option (Option Ref × Words)
  | "-" :: rest => some (none, rest)
  | w :: rest =>
    if w.startsWith "~" then (base62? (w.drop 1).toString).map fun t => (some (.valueOf t), rest)
    else (base62? w).map fun i => (some (.entry i), rest)
  | [] => none

/-- Reads an object; `fuel` bounds its nesting. -/
def obj? : Nat → Words → Option (Obj × Words)
  | 0, _ => none
  | fuel + 1, "!" :: rest => do
    let (f, rest) ← obj? fuel rest
    let (s, rest) ← obj? fuel rest
    pure (.method f s, rest)
  | fuel + 1, "%" :: rest => do
    let (d, rest) ← num? rest
    let (s, rest) ← obj? fuel rest
    pure (.builtinMethod d s, rest)
  | fuel + 1, "^" :: rest => do
    let (d, rest) ← num? rest
    let (s, rest) ← obj? fuel rest
    pure (.slotMethod d s, rest)
  | _ + 1, ws => do
    let (r, rest) ← ref? ws
    let r ← r
    pure (.ref r, rest)

/-- Reads `n` items with a reader. -/
def many? {α : Type} (read : Words → Option (α × Words)) : Nat → Words → Option (List α × Words)
  | 0, ws => some ([], ws)
  | n + 1, ws => do
    let (a, rest) ← read ws
    let (as, rest) ← many? read n rest
    pure (a :: as, rest)

/-- Reads an answer. -/
def answer? (strings : Array String) (fuel : Nat) : Words → Option (Answer × Words)
  | "$" :: rest => do
    let (c, rest) ← str? strings rest
    let (n, rest) ← num? rest
    let (pieces, rest) ← many? (str? strings) n rest
    pure (.raised c pieces, rest)
  | ws => (obj? fuel ws).map fun (o, rest) => (.found o, rest)

/-- Reads an access rule. -/
def access? (strings : Array String) (fuel : Nat) : Words → Option (Access × Words)
  | "i" :: rest => some (.itself, rest)
  | "c" :: rest => some (.typeOfObject, rest)
  | "s" :: rest => some (.boundSelf, rest)
  | "f" :: rest => some (.boundFunc, rest)
  | "o" :: rest => some (.objclass, rest)
  | "b" :: rest => some (.baseOfClass, rest)
  | "x" :: rest => some (.abstractMethods, rest)
  | "n" :: rest => some (.annotations, rest)
  | "d" :: rest => some (.ofDescriptor, rest)
  | "k" :: rest => (answer? strings fuel rest).map fun (a, rest) => (.fixed a, rest)
  | _ => none

/-- The shape a letter names. -/
def shape? : String → Option Shape
  | "f" => some .function
  | "c" => some .classMethod
  | "s" => some .staticMethod
  | "m" => some .methodDescriptor
  | "k" => some .classMethodDescriptor
  | "w" => some .slotWrapper
  | "b" => some .boundMethod
  | _ => none

/-- The hook a letter names. -/
def hook? : String → Option Hook
  | "s" => some .bareName
  | "d" => some .delegate
  | "e" => some .enumeration
  | "a" => some .alias
  | _ => none

/-- Where a handler name comes from. -/
inductive NameSource where
  | given (name : Option String)
  /-- The entry's home. -/
  | home
  /-- A place that lists the entry, under the first name it lists it by. -/
  | listedIn (owner : Nat)
  /-- The entry's own descriptor name and class. -/
  | descriptor
  /-- A builtin method: its home name and the class of the object it is bound to. -/
  | bound

/-- An entry as read, with what is left to work out from where it is listed. -/
structure Line where
  entry : Entry
  handler : NameSource := .given none
  /-- Whether its descriptor name and class are its home's. -/
  descriptorAtHome : Bool := false

/-- Reads a handler name. -/
def handlerName? (strings : Array String) : Words → Option (NameSource × Words)
  | "^" :: rest => some (.home, rest)
  | "d" :: rest => some (.descriptor, rest)
  | "b" :: rest => some (.bound, rest)
  | "o" :: rest => (num? rest).map fun (o, rest) => (.listedIn o, rest)
  | "q" :: rest => do
    let (m, rest) ← str? strings rest
    let (pre, rest) ← optStr? strings rest
    let (last, rest) ← str? strings rest
    let q := match pre with
      | some p => p ++ "." ++ last
      | none => last
    pure (.given (some (m ++ "." ++ q)), rest)
  | "t" :: rest => (str? strings rest).map fun (s, rest) => (.given (some s), rest)
  | "-" :: rest => some (.given none, rest)
  | _ => none

/-- Reads a namespace entry. -/
def attr? (strings : Array String) (ws : Words) : Option ((String × Option Ref) × Words) := do
  let (n, rest) ← str? strings ws
  let (r, rest) ← ref? rest
  pure ((n, r), rest)

/-- Reads a recorded answer for a name. -/
def namedAnswer? (strings : Array String) (fuel : Nat) (ws : Words) :
    Option ((String × Answer) × Words) := do
  let (n, rest) ← str? strings ws
  let (a, rest) ← answer? strings fuel rest
  pure ((n, a), rest)

/-- Reads the fields of a class (`=` for a name errors give as its qualified name). -/
def classFacts? (strings : Array String) (ws : Words) : Option (ClassFacts × Words) := do
  let (errorName?, rest) ← match ws with
    | "=" :: rest => some (none, rest)
    | ws => (str? strings ws).map fun (n, rest) => (some n, rest)
  let (qualName, rest) ← str? strings rest
  let (heap, rest) ← num? rest
  let (base, rest) ← ref? rest
  let (n, rest) ← num? rest
  let (mro, rest) ← many? num? n rest
  pure ({ errorName := errorName?.getD qualName, qualName, heap := heap == 1, base, mro }, rest)

/-- Reads tagged fields into a line; `fuel` bounds their number. -/
def fields (strings : Array String) (nest : Nat) : Nat → Line → Words → Line
  | 0, l, _ => l
  | _ + 1, l, [] => l
  | fuel + 1, l, tag :: ws =>
    let next := fields strings nest fuel
    let e := l.entry
    let set (e : Entry) (rest : Words) : Line := next { l with entry := e } rest
    let setClass (g : ClassFacts → ClassFacts) (rest : Words) : Line :=
      match e.kind with
      | .cls f => set { e with kind := .cls (g f) } rest
      | _ => next l rest
    match tag with
    | "N" =>
      match optStr? strings ws with
      | some (n, rest) => set { e with kind := .module n } rest
      | none => l
    | "P" =>
      match classFacts? strings ws with
      | some (f, rest) => set { e with kind := .cls f } rest
      | none => l
    | "G" =>
      match ws with
      | w :: rest => setClass (fun f => { f with shape := (shape? w).getD .plain }) rest
      | [] => l
    | "H" =>
      match ws with
      | w :: rest => setClass (fun f => { f with hook := (hook? w).getD .none }) rest
      | [] => l
    | "C" =>
      match handlerName? strings ws with
      | some (h, rest) => next { l with entry := { e with callable := true }, handler := h } rest
      | none => l
    | "F" =>
      match ref? ws with
      | some (r, rest) => set { e with func := r } rest
      | none => l
    | "S" =>
      match ref? ws with
      | some (r, rest) => set { e with self := r } rest
      | none => l
    | "A" =>
      match ref? ws with
      | some (r, rest) => set { e with origin := r } rest
      | none => l
    | "D" =>
      match ws with
      | "^" :: rest => next { l with descriptorAtHome := true } rest
      | _ =>
        match str? strings ws with
        | some (n, rest) =>
          match num? rest with
          | some (c, rest) => set { e with descriptor := some (n, c) } rest
          | none => l
        | none => l
    | "Y" =>
      match num? ws with
      | some (t, rest) => set { e with boundType := some t } rest
      | none => l
    | "I" =>
      match access? strings nest ws with
      | some (a, rest) => set { e with onInstance := some a } rest
      | none => l
    | "R" =>
      match access? strings nest ws with
      | some (a, rest) => set { e with onClass := some a } rest
      | none => l
    | "Z" =>
      match access? strings nest ws with
      | some (a, rest) => set { e with onValue := some a } rest
      | none => l
    | "U" =>
      match answer? strings nest ws with
      | some (a, rest) => set { e with otherwise := some a } rest
      | none => l
    | "a" =>
      match num? ws with
      | some (n, rest) =>
        match many? (attr? strings) n rest with
        | some (items, rest) => set { e with attrs := items.filterMap fun (k, r) => r.map (k, ·) } rest
        | none => l
      | none => l
    | "o" =>
      match num? ws with
      | some (n, rest) =>
        match many? (namedAnswer? strings nest) n rest with
        | some (items, rest) => set { e with answers := items } rest
        | none => l
      | none => l
    | _ => l

/-- Reads an entry line. -/
def line (strings : Array String) (text : String) : Line :=
  match text.splitOn " " with
  | kind :: type :: rest =>
    let e : Entry := { type := (base62? type).getD 0, kind := if kind == "M" then .module none else .other }
    fields strings 16 (rest.length + 1) { entry := e } rest
  | _ => { entry := {} }

/-- The home of every entry: the first place, in order, that lists it. -/
def homes (lines : Array Line) : Array (Option (Nat × String)) :=
  (List.range lines.size).foldl (fun acc i =>
    (lines.getD i { entry := {} }).entry.attrs.foldl (fun acc (name, r) =>
      match r with
      | .entry j => if (acc.getD j none).isNone then acc.set! j (some (i, name)) else acc
      | .valueOf _ => acc) acc)
    (Array.replicate lines.size none)

/-- The entries of the lines, with names and descriptors worked out from where they are
listed. -/
def resolve (lines : Array Line) : Array Entry :=
  let homes := homes lines
  let entryAt (i : Nat) : Entry := (lines.getD i { entry := {} }).entry
  let home (i : Nat) : Option (Nat × String) := homes.getD i none
  let descriptor (i : Nat) : Option (String × Nat) :=
    if (lines.getD i { entry := {} }).descriptorAtHome then (home i).map fun (o, n) => (n, o)
    else (entryAt i).descriptor
  let qualName (t : Nat) : String :=
    match (entryAt t).kind with
    | .cls f => f.qualName
    | _ => ""
  -- the dotted name of an entry: a module's name, or a class's handler name
  let rec name : Nat → Nat → Option String
    | 0, _ => none
    | fuel + 1, i =>
      match (lines.getD i { entry := {} }).handler with
      | .given n => n
      | .home => (home i).bind fun (o, n) => (place fuel o).map (· ++ "." ++ n)
      | .listedIn o =>
        ((entryAt o).attrs.find? (·.2 == .entry i)).bind fun (n, _) =>
          (place fuel o).map (· ++ "." ++ n)
      | .descriptor => (descriptor i).map fun (n, c) => "None." ++ qualName c ++ "." ++ n
      | .bound =>
        match home i, (entryAt i).self with
        | some (_, n), some (.entry s) =>
          let q := match (entryAt s).kind with
            | .cls f => f.qualName
            | _ => qualName (entryAt s).type
          some ("None." ++ q ++ "." ++ n)
        | _, _ => none
  , place : Nat → Nat → Option String
    | 0, _ => none
    | fuel + 1, o =>
      match (entryAt o).kind with
      | .module n => n
      | .cls _ => name fuel o
      | .other => none
  (List.range lines.size).toArray.map fun i =>
    let e := entryAt i
    { e with handlerName := name 16 i, descriptor := descriptor i }

/-- Reads a module line. -/
def moduleInfo? (strings : Array String) (text : String) : Option ModuleInfo := do
  let (name, rest) ← str? strings (text.splitOn " ")
  let (e, rest) ← num? rest
  let (n, rest) ← num? rest
  let (loads, _) ← many? (str? strings) n rest
  pure { name, entry := e, loads }

/-- Reads the world from its texts: strings, entries, modules, the modules loaded at the
start, and the numbers of the types lookups make (bound method, builtin method, slot
method, table, class). -/
def world (strings entries modules start known : String) : World :=
  let pool := readStrings strings
  let known := (known.splitOn " ").map fun w => (base62? w).getD 0
  { entries := resolve ((entries.splitOn "\n").map (line pool)).toArray
    modules := (modules.splitOn "\n").filterMap (moduleInfo? pool)
    startLoaded := (start.splitOn " ").filterMap fun w => (base62? w).bind (pool[·]?)
    methodType := known.getD 0 0
    builtinType := known.getD 1 0
    wrapperType := known.getD 2 0
    dictType := known.getD 3 0
    typeType := known.getD 4 0 }

end Decode

end CommandLine.Objects
