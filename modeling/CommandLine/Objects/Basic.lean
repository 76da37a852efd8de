/-!
# The world of objects that entry points reach

An entry point names an object of the running program by a module and a chain of
attribute names. This module holds the shape of that world: a table of *entries*, each an
object with a number, and the facts attribute lookup needs about it.

* Every entry has a type, itself an entry, and a namespace of its own: the names a module
  binds, the members a class defines, the attributes an instance carries.
* A class knows its name as errors report it, its qualified name, its linearised bases
  (itself first) and how its instances answer names nobody defines (its *hook*).
* An entry that binds when looked up through a class (a function, a method descriptor, a
  property) is a *descriptor*; how it binds is its type's *shape*, or an *access rule*
  of its own for the descriptors whose binding is code of their own.
* A few entries answer some names differently from what their namespaces say (a value
  kept in a slot, a property computed per instance); those answers are listed with the
  entry.

Objects a lookup makes are `Obj`s: an entry, some value of a type that the table does not
keep, or one of the three kinds of bound methods.
-/

namespace CommandLine.Objects

/-- A reference from the table: an entry by its number, or some value of a type (given by
the type's number) that the table does not keep. -/
inductive Ref where
  | entry (id : Nat)
  | valueOf (type : Nat)
  deriving DecidableEq, Repr, Inhabited

/-- An object that a lookup yields. -/
inductive Obj where
  /-- An object the table refers to. -/
  | ref (r : Ref)
  /-- A function bound to an object. -/
  | method (func : Obj) (self : Obj)
  /-- A method descriptor of the table bound to an object. -/
  | builtinMethod (descr : Nat) (self : Obj)
  /-- A slot wrapper of the table bound to an object. -/
  | slotMethod (descr : Nat) (self : Obj)
  deriving Repr, Inhabited

/-- Who reports an attribute that is not there. -/
inductive Owner where
  /-- A module, by its name when it has one. -/
  | module (name : Option String)
  /-- A class, by its name as errors report it. -/
  | type (name : String)
  /-- An instance, by its type's name as errors report it. -/
  | inst (typeName : String)
  /-- A hook of the class that reports the name alone. -/
  | bare
  deriving Repr, Inhabited

/-- Why a lookup fails. -/
inductive Failure where
  /-- The attribute is not there. -/
  | missing (owner : Owner) (name : String)
  /-- The lookup raised an error of a class with a message. -/
  | raised (className message : String)
  deriving Repr, Inhabited

def Failure.className : Failure → String
  | .missing .. => "AttributeError"
  | .raised c _ => c

/-- The message of a failure. -/
def Failure.message : Failure → String
  | .missing (.module (some m)) n => "module '" ++ m ++ "' has no attribute '" ++ n ++ "'"
  | .missing (.module none) n => "module has no attribute '" ++ n ++ "'"
  | .missing (.type t) n => "type object '" ++ t ++ "' has no attribute '" ++ n ++ "'"
  | .missing (.inst t) n => "'" ++ t ++ "' object has no attribute '" ++ n ++ "'"
  | .missing .bare n => n
  | .raised _ m => m

abbrev Outcome := Except Failure Obj

/-- An answer the table records: an object, or an error whose message is pieces with the
asked name between them (one piece when the message does not name it). -/
inductive Answer where
  | found (o : Obj)
  | raised (className : String) (pieces : List String)
  deriving Repr, Inhabited

def Answer.outcome (name : String) : Answer → Outcome
  | .found o => .ok o
  | .raised c pieces => .error (.raised c (name.intercalate pieces))

/-- How a descriptor with code of its own answers, relative to the object it is looked up
on. -/
inductive Access where
  /-- The descriptor itself. -/
  | itself
  /-- The type of the object. -/
  | typeOfObject
  /-- The object a bound method is bound to. -/
  | boundSelf
  /-- The function of a bound method, class method or static method. -/
  | boundFunc
  /-- The class a descriptor belongs to. -/
  | objclass
  /-- The first base of a class. -/
  | baseOfClass
  /-- The abstract methods a class records. -/
  | abstractMethods
  /-- The annotations of a class: its own, or a fresh table for a class made by code. -/
  | annotations
  /-- The same name asked of the descriptor a bound method comes from. -/
  | ofDescriptor
  /-- The same answer whatever the object. -/
  | fixed (a : Answer)
  deriving Repr, Inhabited

/-- How a class's instances bind when found through a class. -/
inductive Shape where
  | plain
  | function
  | classMethod
  | staticMethod
  | methodDescriptor
  | classMethodDescriptor
  | slotWrapper
  /-- A bound method, which passes the names its type lacks on to its function. -/
  | boundMethod
  deriving DecidableEq, Repr, Inhabited

/-- How a class's instances answer names their class and namespace lack. -/
inductive Hook where
  | none
  /-- The name alone. -/
  | bareName
  /-- The same name asked of the object's origin, for names that are not special. -/
  | delegate
  /-- For a class whose metaclass has it: the name alone. -/
  | enumeration
  /-- An alias of a generic class: names other than its own go to its origin. -/
  | alias
  deriving DecidableEq, Repr, Inhabited

/-- What a class knows of itself. -/
structure ClassFacts where
  /-- Its name as errors report it. -/
  errorName : String
  qualName : String
  /-- Whether code made it (rather than the runtime's own tables). -/
  heap : Bool
  base : Option Ref
  /-- Itself, then its bases in lookup order. -/
  mro : List Nat
  shape : Shape := .plain
  hook : Hook := .none
  deriving Repr, Inhabited

/-- What an entry is. -/
inductive Kind where
  | module (name : Option String)
  | cls (facts : ClassFacts)
  | other
  deriving Repr, Inhabited

/-- An object of the table. -/
structure Entry where
  kind : Kind := .other
  type : Nat := 0
  /-- Its own namespace. -/
  attrs : List (String × Ref) := []
  callable : Bool := false
  /-- Its defining module and qualified name, joined by a dot, when it can be called. -/
  handlerName : Option String := none
  /-- The function of a bound method, class method or static method. -/
  func : Option Ref := none
  /-- The object a bound method is bound to. -/
  self : Option Ref := none
  /-- The class a generic alias stands for. -/
  origin : Option Ref := none
  /-- A descriptor's name and the class it belongs to. -/
  descriptor : Option (String × Nat) := none
  /-- The type of the builtin method a method descriptor binds to. -/
  boundType : Option Nat := none
  /-- How a descriptor with code of its own answers for an instance of the table. -/
  onInstance : Option Access := none
  /-- … for a class it is found through. -/
  onClass : Option Access := none
  /-- … for a value the table does not keep, or a bound method. -/
  onValue : Option Access := none
  /-- Names it answers differently from what its namespace says. -/
  answers : List (String × Answer) := []
  /-- How it answers names nobody defines, when it has its own way. -/
  otherwise : Option Answer := none
  deriving Repr, Inhabited

/-- A module that can be imported: its name, its entry, and the modules importing it loads
(from the state before discovery), itself apart. -/
structure ModuleInfo where
  name : String
  entry : Nat
  loads : List String
  deriving Repr, Inhabited

/-- The world. -/
structure World where
  entries : Array Entry
  modules : List ModuleInfo
  /-- The modules loaded before discovery starts. -/
  startLoaded : List String
  /-- The types of bound methods, builtin methods and slot methods, of tables, and of
  classes. -/
  methodType : Nat
  builtinType : Nat
  wrapperType : Nat
  dictType : Nat
  typeType : Nat
  deriving Inhabited

namespace World

/-- The entry of a number (an empty one past the end). -/
def entry (w : World) (i : Nat) : Entry := w.entries.getD i {}

/-- The facts of a class entry. -/
def facts? (w : World) (i : Nat) : Option ClassFacts :=
  match (w.entry i).kind with
  | .cls f => some f
  | _ => none

/-- The classes a lookup on instances of a type walks, in order. -/
def mro (w : World) (t : Nat) : List Nat :=
  match w.facts? t with
  | some f => f.mro
  | none => [t]

def findIn (w : World) (t : Nat) (name : String) : Option Ref :=
  (w.mro t).findSome? fun c => (w.entry c).attrs.lookup name

def defines (w : World) (t : Nat) (name : String) : Bool := (w.findIn t name).isSome

def refType (w : World) : Ref → Nat
  | .entry i => (w.entry i).type
  | .valueOf t => t

/-- The type of an object. -/
def typeOf (w : World) : Obj → Nat
  | .ref r => w.refType r
  | .method .. => w.methodType
  | .builtinMethod d _ => (w.entry d).boundType.getD w.builtinType
  | .slotMethod .. => w.wrapperType

def binds (w : World) (i : Nat) : Bool := w.defines (w.entry i).type "__get__"

/-- Whether an entry takes precedence over namespaces: it binds and can be set or deleted. -/
def isDataDescriptor (w : World) (i : Nat) : Bool :=
  let t := (w.entry i).type
  w.binds i && (w.defines t "__set__" || w.defines t "__delete__")

def shapeOf (w : World) (i : Nat) : Shape :=
  ((w.facts? (w.entry i).type).map (·.shape)).getD .plain

def hookOf (w : World) (t : Nat) : Hook :=
  ((w.facts? t).map (·.hook)).getD .none

def errorName (w : World) (t : Nat) : String :=
  ((w.facts? t).map (·.errorName)).getD ""

def qualName (w : World) (t : Nat) : String :=
  ((w.facts? t).map (·.qualName)).getD ""

def moduleNamed? (w : World) (name : String) : Option ModuleInfo :=
  w.modules.find? (·.name == name)

end World

end CommandLine.Objects
