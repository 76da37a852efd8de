import CommandLine.Run

/-!
# The command line

Runs the front end on the process's arguments and exits with the status of the run.

A run reads the disk through a `Disk`, so the paths it may look at are read first: the user
file under the home directory, and, for the working directory and each directory above it,
the repository file and the two repository markers. The terminal width comes from
`COLUMNS` (80 when unset or not a number), the enabled features from `JJ_CLI_FEATURES`.
No handlers are installed: every command other than the built-in ones reports that its
handler is missing.

Configuration warnings are written first: loading the configuration is the first step that
can warn, and every step before it that writes anything ends the run.
-/

namespace CommandLine.Shell

/-- What is at a path. -/
inductive Probe where
  /-- A regular file, with its bytes. -/
  | file (bytes : List UInt8)
  /-- Something that is not a readable file (a directory). -/
  | other
  /-- Nothing. -/
  | absent

/-- Looks at a path: a file is read whole; a path that opens but cannot be read (a
directory) is only noted. -/
def probe (path : DiskPath) : IO Probe := do
  match ← (IO.FS.readBinFile path.text).toBaseIO with
  | .ok bytes => pure (.file bytes.toList)
  | .error _ =>
    match ← (IO.FS.Handle.mk path.text .read).toBaseIO with
    | .ok _ => pure .other
    | .error _ => pure .absent

/-- A disk holding what the given paths hold. -/
def snapshot (paths : List DiskPath) : IO Disk := do
  let mut files : List (DiskPath × FileBody) := []
  let mut dirs : List DiskPath := []
  for p in paths do
    match ← probe p with
    | .file bytes => files := files ++ [(p, .bytes bytes)]
    | .other => dirs := dirs ++ [p]
    | .absent => pure ()
  pure (Disk.ofEntries files dirs)

def ancestors (dir : DiskPath) : List DiskPath :=
  (List.range (dir.length + 1)).map fun i => dir.take (dir.length - i)

def watchedPaths (cwd userConfig : DiskPath) : List DiskPath :=
  userConfig :: (ancestors cwd).flatMap fun d => (repoConfigName :: repoMarkers).map (d ++ [·])

/-- The terminal width a `COLUMNS` value gives: a run of ASCII digits only. -/
def columnsOf? (s : String) : Option Nat :=
  if !s.isEmpty && s.all Char.isDigit then some (s.foldl (fun n c => 10 * n + (c.toNat - 48)) 0)
  else none

/-- The process status for an exit value: a whole number modulo 256, a truth value as 1 or
0, nothing as 0. -/
def statusOf (code : Value) : Option UInt32 :=
  match code with
  | .int n => some (n % 256).toNat.toUInt32
  | .bool b => some (if b then 1 else 0)
  | .none => some 0
  | _ => none

/-- Runs an invocation, writing its output in order, and gives the process status. -/
def execute (inv : Invocation) : IO UInt32 := do
  let (r, o) := (inv.run.run).run {}
  let out ← IO.getStdout
  let err ← IO.getStderr
  for w in o.warnings do
    err.putStrLn ("UserWarning: " ++ w)
  for (c, text) in o.writes do
    match c with
    | .out => out.putStr text
    | .err => err.putStr text
  out.flush
  match r with
  | .ok code => pure ((statusOf code).getD 0)
  | .error (.exit code) =>
    match statusOf code with
    | some s => pure s
    | none =>
      err.putStrLn code.display
      pure 1
  | .error .interrupt =>
    err.putStr (Fault.traceback .interrupt)
    pure 130
  | .error f =>
    err.putStr f.traceback
    pure 1

end CommandLine.Shell

open CommandLine in
/-- Runs the command line on the process's arguments. -/
def main (args : List String) : IO UInt32 := do
  let cwd := DiskPath.normalize ((← IO.currentDir).toString.splitOn "/")
  let home := (← IO.getEnv "HOME").getD "/"
  let userConfig := DiskPath.resolve [] home ++ [".config", "jj-cli", "config.toml"]
  let columns := ((← IO.getEnv "COLUMNS").bind Shell.columnsOf?).getD 80
  let disk ← Shell.snapshot (Shell.watchedPaths cwd userConfig)
  Shell.execute
    { argv := args, features := ← IO.getEnv featuresVariable, disk := disk, cwd := cwd
      userConfig := userConfig, columns := columns }
