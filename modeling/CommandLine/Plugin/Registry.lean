import CommandLine.Plugin.Discovery
import CommandLine.Fault

/-!
# The registry of discovered handlers

Discovery runs in a process that keeps the handlers and the load failures of its last run
(`Registry`). A run loads the entry points with a loader: from the modules loaded so far, an
entry point loads to an object or raises an error, which discovery catches and records; or
loading raises something that is not an error (a request to exit, an interrupt), which
discovery lets through. The registry is replaced, both maps at once, only once every load has
finished: a run that a fault stops leaves it as it was.

In the world of objects every load finishes (`worldLoader`).
-/

namespace CommandLine.Plugin

open Objects

/-- What an entry point loads to: an object, or the class name and message of the error it
raised. -/
abbrev Loaded := Except (String × String) Obj

/-- Loads an entry point from the modules loaded so far: the modules loaded after and what the
entry point loaded to, or a fault that discovery does not catch. -/
abbrev Loader := List String → EntryPoint → Except Fault (List String × Loaded)

namespace Discovery

/-- What discovery makes of a load, given which objects can be called. -/
def Outcome.of (callable : Obj → Bool) : Loaded → Outcome
  | .error (className, message) => .failed className message
  | .ok o => if callable o then .handler o else .notCallable

/-- Loads one entry point with a loader and takes it into account; a fault stops discovery. -/
def addWith (ld : Loader) (callable : Obj → Bool) (d : Discovery) (ep : EntryPoint) :
    Except Fault Discovery := do
  let (loaded, r) ← ld d.loaded ep
  pure { d.record ep (Outcome.of callable r) with loaded }

end Discovery

/-- The entry points in the order discovery takes them: by name, and entry points of one name
in their own order. -/
def byName (eps : List EntryPoint) : List EntryPoint :=
  eps.mergeSort fun a b => decide (a.name ≤ b.name)

/-- Discovers the handlers of a list of entry points with a loader, from the modules loaded
before. -/
def discoverWith (ld : Loader) (callable : Obj → Bool) (start : List String)
    (eps : List EntryPoint) : Except Fault Discovery := do
  let d ← (byName eps).foldlM (Discovery.addWith ld callable) { loaded := start }
  pure { d with failures := d.failures.filter fun (name, _) => !d.handlers.any (·.1 == name) }

/-- The world's loader: loading an entry point raises nothing but errors. -/
def worldLoader (w : World) : Loader := fun loaded ep =>
  let (loaded, r) := load w loaded ep.value
  .ok (loaded, r.mapError fun e => (e.className, e.message))

/-- The handlers and the load failures of the last discovery. -/
structure Registry where
  handlers : List (String × Obj) := []
  failures : List (String × String) := []
  deriving Inhabited

/-- Discovers handlers and keeps them: when every load finishes, the registry becomes the
discovery's handlers and failures and the handlers are returned; a fault propagates and leaves
the registry as it was. -/
def discoverHandlers (ld : Loader) (callable : Obj → Bool) (start : List String)
    (eps : List EntryPoint) : ExceptT Fault (StateM Registry) (List (String × Obj)) :=
  match discoverWith ld callable start eps with
  | .error f => throw f
  | .ok d => do
    set ({ handlers := d.handlers, failures := d.failures } : Registry)
    pure d.handlers

end CommandLine.Plugin
