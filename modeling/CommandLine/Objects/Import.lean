import CommandLine.Objects.Basic

/-!
# Importing modules

Importing a dotted name `a.b.c` first imports its parent `a.b` (and so `a`), unless the
name is loaded already. A parent that is not a package (a module without `__path__`)
cannot hold submodules. A module that exists is loaded together with the modules that
loading it loads; they stay loaded even when a later part of the name fails.

## Errors

* `No module named 'a.b'` when the name does not exist;
* `No module named 'a.b'; 'a' is not a package` when its parent is a plain module.

## Termination

Each step imports a strictly shorter name (the part before the last dot).
-/

namespace CommandLine.Objects

/-- Why an import fails. -/
inductive ImportError where
  | notFound (name : String)
  | notPackage (name parent : String)
  deriving Repr, Inhabited

namespace World

def isPackage (w : World) (i : Nat) : Bool := ((w.entry i).attrs.lookup "__path__").isSome

/-- The part of a dotted name before its last dot (empty when there is none). -/
def parentName (name : String) : String :=
  ".".intercalate (name.splitOn ".").dropLast

/-- Imports a module by its dotted name from a set of loaded modules: the modules loaded
afterwards, and the module's entry or why the import failed. -/
def importFrom (w : World) : Nat → List String → String → List String × Except ImportError Nat
  | 0, loaded, name => (loaded, .error (.notFound name))
  | fuel + 1, loaded, name =>
    let found : List String → List String × Except ImportError Nat := fun loaded =>
      match w.moduleNamed? name with
      | some m =>
        let loaded := loaded ++ (m.loads ++ [name]).filter (!loaded.contains ·)
        (loaded, .ok m.entry)
      | none => (loaded, .error (.notFound name))
    if loaded.contains name then
      match w.moduleNamed? name with
      | some m => (loaded, .ok m.entry)
      | none => (loaded, .error (.notFound name))
    else
      let parent := parentName name
      if parent.isEmpty then found loaded
      else
        match w.importFrom fuel loaded parent with
        | (loaded, .error e) => (loaded, .error e)
        | (loaded, .ok p) =>
          if loaded.contains name then found loaded
          else if !w.isPackage p then (loaded, .error (.notPackage name parent))
          else found loaded

def importModule (w : World) (loaded : List String) (name : String) :
    List String × Except ImportError Nat :=
  w.importFrom (name.length + 1) loaded name

end World

end CommandLine.Objects
