import CommandLine.Decimal.Shortest

/-!
# Values

The data that flows through the command front end without a fixed shape: configuration
documents, the context of an error, what a plugin handler returns. A value is nothing, a
truth value, a whole number of any size, a double, a text, a list, a table with text keys
in insertion order, or one of the three calendar values of configuration documents (a
date, a time of day, a date with a time and an optional offset from UTC).

Besides the type, this module holds the rules every use shares: which values count as
true, which can be keys (are hashable) and when two keys are the same key.
-/

namespace CommandLine

/-- A calendar date. -/
structure Date where
  year : Nat
  month : Nat
  day : Nat
  deriving Repr, BEq, DecidableEq

/-- A time of day, to the microsecond. -/
structure TimeOfDay where
  hour : Nat
  minute : Nat
  second : Nat
  micros : Nat
  deriving Repr, BEq, DecidableEq

/-- A dynamic value. -/
inductive Value where
  | none
  | bool (b : Bool)
  | int (n : Int)
  | float (x : Float)
  | str (s : String)
  | list (items : List Value)
  | table (entries : List (String × Value))
  | date (d : Date)
  | time (t : TimeOfDay)
  /-- A date and time; the offset from UTC is in minutes, absent for a local time. -/
  | stamp (d : Date) (t : TimeOfDay) (offset : Option Int)
  deriving Inhabited

namespace Value

/-- The name of a value's kind, as error messages spell it. -/
def typeName : Value → String
  | .none => "NoneType"
  | .bool _ => "bool"
  | .int _ => "int"
  | .float _ => "float"
  | .str _ => "str"
  | .list _ => "list"
  | .table _ => "dict"
  | .date _ => "datetime.date"
  | .time _ => "datetime.time"
  | .stamp .. => "datetime.datetime"

/-- Truth of a value: nothing, false, zero, empty text and empty collections are false;
everything else is true (a double is false only when it equals zero, so not-a-number is
true). -/
def truthy : Value → Bool
  | .none => false
  | .bool b => b
  | .int n => n != 0
  | .float x => !(x == 0.0)
  | .str s => !s.isEmpty
  | .list items => !items.isEmpty
  | .table entries => !entries.isEmpty
  | _ => true

/-- Lists and tables cannot be keys; every other value can. -/
def hashable : Value → Bool
  | .list _ | .table _ => false
  | _ => true

/-- The number a truth value, whole number or double stands for, as an exact signed
rational `(negative, num, den)`; `none` for other values and for non-finite doubles. -/
def numeric? : Value → Option (Bool × Nat × Nat)
  | .bool b => some (false, if b then 1 else 0, 1)
  | .int n => some (n < 0, n.natAbs, 1)
  | .float x => Decimal.exactValue? x
  | _ => Option.none

/-- Whether two signed rationals are equal (zero has both signs). -/
def sameNumber : Bool × Nat × Nat → Bool × Nat × Nat → Bool
  | (s, a, b), (t, c, d) =>
    let l := a * d
    let r := c * b
    l == r && (l == 0 || s == t)

mutual
/-- Equality of values as keys and members: numbers are equal when they stand for the same
number (so `true`, `1` and `1.0` are one key), texts by their characters, and collections
item by item. A key or member is found by identity before equality, and every
not-a-number double read from a document is one and the same object, so such a double is
the same key as another one although the two are not equal. -/
def same : Value → Value → Bool
  | .none, .none => true
  | .str a, .str b => a == b
  | .list as, .list bs => sameItems as bs
  | .table as, .table bs => sameEntries as bs
  | .date a, .date b => a == b
  | .time a, .time b => a == b
  | .stamp d t o, .stamp d' t' o' => d == d' && t == t' && o == o'
  | .float x, .float y => x == y || (x.isNaN && y.isNaN)
  | a, b =>
    match a.numeric?, b.numeric? with
    | some x, some y => sameNumber x y
    | _, _ => false

/-- Item-by-item equality of two lists. -/
def sameItems : List Value → List Value → Bool
  | [], [] => true
  | a :: as, b :: bs => same a b && sameItems as bs
  | _, _ => false

/-- Entry-by-entry equality of two tables, in order. -/
def sameEntries : List (String × Value) → List (String × Value) → Bool
  | [], [] => true
  | (k, a) :: as, (k', b) :: bs => k == k' && same a b && sameEntries as bs
  | _, _ => false
end

/-- Equality of two values compared directly (`==`): as keys, except that a not-a-number
double equals nothing, itself included. -/
def equals : Value → Value → Bool
  | .float x, .float y => x == y
  | a, b => a.same b

/-- Looks a key up in a table's entries; the last entry with that key wins. -/
def lookup (entries : List (String × Value)) (key : String) : Option Value :=
  entries.foldl (fun acc (k, v) => if k == key then some v else acc) Option.none

/-- The entries of a table; any other value has none. -/
def tableEntries : Value → List (String × Value)
  | .table entries => entries
  | _ => []

def asString? : Value → Option String
  | .str s => some s
  | _ => Option.none

def asStrings? : Value → Option (List String)
  | .list items => items.mapM asString?
  | _ => Option.none

end Value

end CommandLine
