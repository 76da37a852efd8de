import CommandLine.Plugin.EntryPoint

/-!
# Discovering command handlers

Handlers are installed as entry points, each naming a command and an object. Discovery
takes the entry points in order of their names (entry points of one name keep their
order) and loads each:

* an entry point that fails to load is skipped with a warning, and its error is recorded
  for the command unless one is recorded already;
* one whose object cannot be called is skipped likewise, recording that it is not callable;
* a second handler for a command that has one is skipped with a warning;
* otherwise the object becomes the command's handler (a debug diagnostic says so).

A command that ends up with a handler keeps no recorded error. Loading an entry point
loads modules, which later entry points see.
-/

namespace CommandLine.Plugin

/-- An installed entry point: the command it serves and the object it names. -/
structure EntryPoint where
  name : String
  value : String
  deriving Inhabited, Repr

/-- The outcome of discovery: the handler of each command, the errors of commands left
without one, and the diagnostics, in order. -/
structure Discovery where
  handlers : List (String × Objects.Obj) := []
  failures : List (String × String) := []
  log : List String := []
  /-- The modules loaded so far. -/
  loaded : List String := []
  deriving Inhabited

def EntryPoint.subject (ep : EntryPoint) : String := "'" ++ ep.name ++ "' from " ++ ep.value

def registryLogger : String := "jj_cli.cli.registry"

namespace Discovery

def note (d : Discovery) (level message : String) : Discovery :=
  { d with log := d.log ++ [level ++ " " ++ registryLogger ++ ": " ++ message] }

/-- Records an error for a command, unless one is recorded already. -/
def fail (d : Discovery) (name error : String) : Discovery :=
  if d.failures.any (·.1 == name) then d else { d with failures := d.failures ++ [(name, error)] }

/-- What loading an entry point came to. -/
inductive Outcome where
  /-- It loaded an object that can be called. -/
  | handler (o : Objects.Obj)
  /-- It loaded an object that cannot be called. -/
  | notCallable
  /-- Loading raised an error of a class with a message. -/
  | failed (className message : String)
  deriving Inhabited

/-- Takes an entry point's outcome into account. -/
def record (d : Discovery) (ep : EntryPoint) : Outcome → Discovery
  | .failed className message =>
    (d.note "WARNING" ("Cannot load handler for " ++ ep.subject ++ ": " ++ message)).fail ep.name
      (className ++ ": " ++ message)
  | .notCallable =>
    (d.note "WARNING" ("Handler for " ++ ep.subject ++ " is not callable")).fail ep.name
      (ep.value ++ " is not callable")
  | .handler o =>
    if d.handlers.any (·.1 == ep.name) then
      d.note "WARNING" ("Ignoring second handler for " ++ ep.subject)
    else
      { d with handlers := d.handlers ++ [(ep.name, o)] }.note "DEBUG" ("Loaded handler for " ++ ep.subject)

/-- Loads one entry point, from the modules loaded so far, and takes it into account. -/
def add (w : Objects.World) (d : Discovery) (ep : EntryPoint) : Discovery :=
  let (loaded, r) := load w d.loaded ep.value
  let outcome : Outcome := match r with
    | .error f => .failed f.className f.message
    | .ok o => if w.isCallable o then .handler o else .notCallable
  { d.record ep outcome with loaded }

def handlerNames (w : Objects.World) (d : Discovery) : List (String × String) :=
  d.handlers.map fun (n, o) => (n, w.handlerName o)

end Discovery

/-- Discovers the handlers of a list of entry points in a world. -/
def discover (w : Objects.World) (eps : List EntryPoint) : Discovery :=
  let sorted := eps.mergeSort fun a b => decide (a.name ≤ b.name)
  let d := sorted.foldl (Discovery.add w) { loaded := w.startLoaded }
  { d with failures := d.failures.filter fun (name, _) => !d.handlers.any (·.1 == name) }

end CommandLine.Plugin
