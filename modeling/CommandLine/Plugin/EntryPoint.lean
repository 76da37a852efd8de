import CommandLine.Text.Quote
import CommandLine.Text.Blank
import CommandLine.Text.Word
import CommandLine.Objects.Lookup
import CommandLine.Objects.Import

/-!
# Entry points and what they load

An entry point names a command and the object that handles it, as `module`, `module:attr`
or `module:attr.attr`, optionally followed by `[extras]`; blanks may surround the colon and
end the value. Module and attribute paths are runs of word characters and dots.

Loading imports the module and then asks the object for each attribute in turn, in the
world of objects that `Objects` describes. Importing loads modules, and a module's
submodules are attributes of it only once loaded, so loading keeps the set of loaded
modules from one entry point to the next.

## Errors

* a value that does not have the entry point form: the pattern finds no match, and reading
  its groups is an attribute error on nothing;
* a module path that starts with a dot: a relative import needs a package to start from;
* a module that does not exist: the first missing prefix of its dotted name is named (or
  the module that is not a package, when the parent is a plain module);
* an attribute that is not there, or a lookup that raises (see `Objects.Lookup`).
-/

namespace CommandLine.Plugin

/-! ## Reading an entry point value -/

def isNameChar (c : Char) : Bool := Text.isWordChar c || c = '.'

/-- The parts of an entry point value: the module, and the attribute path if any; `none`
when the value does not have the form. -/
def parseValue? (value : String) : Option (String × Option String) :=
  let cs := value.toList
  let moduleName := cs.takeWhile isNameChar
  if moduleName.isEmpty then none
  else
    let rest := (cs.drop moduleName.length).dropWhile Text.isBlank
    let (attr, rest) : Option (List Char) × List Char :=
      match rest with
      | ':' :: more =>
        let more := more.dropWhile Text.isBlank
        let a := more.takeWhile isNameChar
        if a.isEmpty then (none, rest)
        else (some a, (more.drop a.length).dropWhile Text.isBlank)
      | _ => (none, rest)
    -- what is left: nothing, or extras in brackets on one line, then blanks
    let extrasOk : Bool :=
      match rest with
      | [] => true
      | '[' :: _ =>
        let trimmed := (rest.reverse.dropWhile Text.isBlank).reverse
        trimmed.getLast? = some ']' && !trimmed.contains '\n'
      | _ => false
    if extrasOk then some (String.ofList moduleName, attr.map String.ofList) else none

/-! ## Loading -/

open Objects

/-- Why an entry point does not load. -/
inductive LoadError where
  /-- The value does not have the entry point form. -/
  | malformed
  /-- The module path starts with a dot. -/
  | relativeImport (name : String)
  | importFailed (e : ImportError)
  | lookupFailed (f : Failure)
  deriving Repr, Inhabited

/-- The class name a load error is raised under. -/
def LoadError.className : LoadError → String
  | .malformed => "AttributeError"
  | .relativeImport _ => "TypeError"
  | .importFailed _ => "ModuleNotFoundError"
  | .lookupFailed f => f.className

/-- The message of a load error. -/
def LoadError.message : LoadError → String
  | .malformed => "'NoneType' object has no attribute 'group'"
  | .relativeImport name =>
    "the 'package' argument is required to perform a relative import for " ++ Text.quote name
  | .importFailed (.notFound name) => "No module named " ++ Text.quote name
  | .importFailed (.notPackage name parent) =>
    "No module named " ++ Text.quote name ++ "; " ++ Text.quote parent ++ " is not a package"
  | .lookupFailed f => f.message

/-- Asks an object for each attribute of a path in turn. -/
def followPath (w : World) (loaded : List String) (o : Obj) :
    List String → Except Failure Obj
  | [] => .ok o
  | a :: rest => do
    let o ← w.getAttr loaded World.lookupFuel o a
    followPath w loaded o rest

/-- Loads the object an entry point value names, from a set of loaded modules: the modules
loaded afterwards, and the object or why it does not load. -/
def load (w : World) (loaded : List String) (value : String) :
    List String × Except LoadError Obj :=
  match parseValue? value with
  | none => (loaded, .error .malformed)
  | some (moduleName, attr) =>
    if moduleName.startsWith "." then (loaded, .error (.relativeImport moduleName))
    else
      match w.importModule loaded moduleName with
      | (loaded, .error e) => (loaded, .error (.importFailed e))
      | (loaded, .ok m) =>
        let attrs := ((attr.getD "").splitOn ".").filter (!·.isEmpty)
        match followPath w loaded (.ref (.entry m)) attrs with
        | .ok o => (loaded, .ok o)
        | .error f => (loaded, .error (.lookupFailed f))

end CommandLine.Plugin
