import CommandLine.Value.Basic

/-!
# What configuration loading sees of the disk

Configuration files are found by looking at a few paths: whether a regular file is at a
path (and what it holds), and whether anything at all is there. A `Disk` answers exactly
these two questions, so loading is a pure function of it.

Paths are absolute, as lists of components. Resolving a relative path against a
directory drops `.` and empty components and lets `..` remove the component before it (the
root has no parent), the way a path without symbolic links resolves.
-/

namespace CommandLine

abbrev DiskPath := List String

namespace DiskPath

/-- The text of a path: a slash before each component (the root is a slash alone). -/
def text (p : DiskPath) : String :=
  if p.isEmpty then "/" else String.join (p.map ("/" ++ ·))

/-- The components after resolving `.`, empty components and `..`. -/
def normalize (parts : List String) : DiskPath :=
  (parts.foldl (fun (acc : List String) part =>
    if part.isEmpty || part == "." then acc
    else if part == ".." then acc.drop 1
    else part :: acc) []).reverse

/-- A path given as text, resolved against a directory (a text starting with a slash is
absolute already). -/
def resolve (base : DiskPath) (relative : String) : DiskPath :=
  if relative.startsWith "/" then normalize (relative.splitOn "/")
  else normalize (base ++ relative.splitOn "/")

/-- The directory holding a path (the root holds itself). -/
def parent (p : DiskPath) : DiskPath := p.dropLast

end DiskPath

/-- The contents of a file: text, or bytes that may not be UTF-8. -/
inductive FileBody where
  | text (s : String)
  | bytes (b : List UInt8)
  deriving Inhabited

/-- The view of the disk that configuration loading needs. -/
structure Disk where
  /-- The contents of the regular file at a path, if there is one. -/
  file? : DiskPath → Option FileBody
  /-- Whether anything (a file or a directory) is at a path. -/
  present : DiskPath → Bool

/-- A disk holding the given files and directories (and every directory above them). -/
def Disk.ofEntries (files : List (DiskPath × FileBody)) (dirs : List DiskPath) : Disk where
  file? p := (files.find? (·.1 == p)).map (·.2)
  present p :=
    files.any (fun (f, _) => p.isPrefixOf f) || dirs.any (fun d => p.isPrefixOf d)

end CommandLine
