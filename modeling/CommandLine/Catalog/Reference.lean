import CommandLine.Catalog.Descriptor

/-!
# The reference catalog

Every top-level command of the version control system, with its summary, heading, aliases
and required feature, in alphabetical order. `help` and `version` are built in; every other
command runs the handler an installed package provides for it, or, when none does, a
stand-in that fails and says why.
-/

namespace CommandLine

/-- The catalog facts of one reference command. -/
structure ReferenceCommand where
  name : String
  summary : String
  category : HelpCategory
  aliases : List String := []
  hiddenAliases : List String := []
  hidden : Bool := false
  requires : Option Capability := none

/-- The reference commands, in alphabetical order (the built-in ones apart). -/
def referenceCommands : List ReferenceCommand := [
  { name := "abandon"
    summary := "Abandon a revision"
    category := .editing },
  { name := "absorb"
    summary := "Move changes from a revision into the stack of mutable revisions"
    category := .rewriting },
  { name := "bench"
    summary := "Commands for benchmarking internal operations"
    category := .development
    requires := some .bench },
  { name := "bisect"
    summary := "Find a bad revision by bisection"
    category := .advanced },
  { name := "bookmark"
    summary := "Manage bookmarks"
    category := .references },
  { name := "commit"
    summary := "Update the description and create a new change on top"
    category := .common },
  { name := "config"
    summary := "Manage config options"
    category := .configurationHelp },
  { name := "debug"
    summary := "Low-level commands not intended for users"
    category := .configurationHelp },
  { name := "describe"
    summary := "Update the change description or other metadata"
    category := .editing },
  { name := "diff"
    summary := "Compare file contents between two revisions"
    category := .common },
  { name := "diffedit"
    summary := "Touch up the content changes in a revision with a diff editor"
    category := .rewriting },
  { name := "duplicate"
    summary := "Create new changes with the same content as existing ones"
    category := .editing },
  { name := "edit"
    summary := "Set the specified revision as the working-copy revision"
    category := .editing },
  { name := "evolog"
    summary := "Show how a change has evolved over time"
    category := .review
    aliases := ["evolution-log"]
    hiddenAliases := ["obslog"] },
  { name := "file"
    summary := "File operations"
    category := .fileOperations },
  { name := "fix"
    summary := "Update files with formatting fixes or other changes"
    category := .advanced },
  { name := "gerrit"
    summary := "Interact with Gerrit Code Review"
    category := .gitIntegration
    requires := some .git },
  { name := "git"
    summary := "Commands for working with Git remotes and the underlying Git repo"
    category := .gitIntegration
    requires := some .git },
  { name := "interdiff"
    summary := "Compare the changes of two commits"
    category := .review },
  { name := "log"
    summary := "Show revision history"
    category := .common },
  { name := "metaedit"
    summary := "Modify the metadata of a revision without changing its content"
    category := .editing },
  { name := "new"
    summary := "Create a new, empty change and edit it in the working copy"
    category := .editing },
  { name := "next"
    summary := "Move the working-copy commit to the child revision"
    category := .workingCopy },
  { name := "operation"
    summary := "Commands for working with the operation log"
    category := .operationLog
    aliases := ["op"] },
  { name := "parallelize"
    summary := "Parallelize revisions by making them siblings"
    category := .rewriting },
  { name := "prev"
    summary := "Change the working copy revision relative to the parent revision"
    category := .workingCopy },
  { name := "rebase"
    summary := "Move revisions to different parent(s)"
    category := .rewriting },
  { name := "redo"
    summary := "Redo the most recently undone operation"
    category := .operationLog },
  { name := "resolve"
    summary := "Resolve conflicted files with an external merge tool"
    category := .fileOperations },
  { name := "restore"
    summary := "Restore paths from another revision"
    category := .editing },
  { name := "revert"
    summary := "Apply the reverse of the given revision(s)"
    category := .editing },
  { name := "root"
    summary := "Show the current workspace root directory"
    category := .workspace },
  { name := "run"
    summary := "Run a command across a set of revisions"
    category := .advanced
    hidden := true },
  { name := "show"
    summary := "Show commit description and changes in a revision"
    category := .common },
  { name := "sign"
    summary := "Cryptographically sign a revision"
    category := .advanced },
  { name := "simplify-parents"
    summary := "Simplify parent edges for the specified revision(s)"
    category := .rewriting },
  { name := "sparse"
    summary := "Manage which paths from the working-copy commit are present in the working copy"
    category := .fileOperations },
  { name := "split"
    summary := "Split a revision in two"
    category := .rewriting },
  { name := "squash"
    summary := "Move changes from a revision into another revision"
    category := .rewriting },
  { name := "status"
    summary := "Show high-level repo status"
    category := .common },
  { name := "tag"
    summary := "Manage tags"
    category := .references },
  { name := "undo"
    summary := "Undo the last operation"
    category := .operationLog },
  { name := "unsign"
    summary := "Drop a cryptographic signature"
    category := .advanced },
  { name := "util"
    summary := "Infrequently used commands such as for generating shell completions"
    category := .configurationHelp },
  { name := "workspace"
    summary := "Commands for working with workspaces"
    category := .workspace }

]

/-- The descriptor of a reference command with a given handler. -/
def ReferenceCommand.descriptor (r : ReferenceCommand) (handler : Handler) : Descriptor where
  name := .str r.name
  handler := handler
  args := .raw
  help := .str r.summary
  aliases := r.aliases.map .str
  hiddenAliases := r.hiddenAliases.map .str
  hidden := r.hidden
  placement := .category r.category
  requires := match r.requires with
    | some c => .needs c
    | none => .none

/-- The built-in `help` command. -/
def helpDescriptor : Descriptor where
  name := .str "help"
  handler := .help
  args := .help
  help := .str "Print this message or the help of the given subcommand(s)"
  placement := .category .configurationHelp

/-- The built-in `version` command. -/
def versionDescriptor : Descriptor where
  name := .str "version"
  handler := .version
  args := .none
  help := .str "Display version information"
  placement := .category .configurationHelp

/-- The handler a reference command runs: the one `handlers` gives it, when that is true as a
condition, or else the stand-in that reports the load failure `failures` records for it, if
any. -/
def referenceHandler (handlers : String → Option Handler) (failures : String → Option Value)
    (name : String) : Handler :=
  ((handlers name).filter Handler.truthy).getD (.missing name defaultProgram (failures name))

section ReferenceHandler

variable {handlers : String → Option Handler} {failures : String → Option Value} {name : String}

theorem referenceHandler_of_truthy {h : Handler} (hh : handlers name = some h)
    (ht : h.truthy = true) : referenceHandler handlers failures name = h := by
  simp [referenceHandler, hh, Option.filter, ht]

theorem referenceHandler_of_falsy {h : Handler} (hh : handlers name = some h)
    (ht : h.truthy = false) :
    referenceHandler handlers failures name = .missing name defaultProgram (failures name) := by
  simp [referenceHandler, hh, Option.filter, ht]

theorem referenceHandler_of_none (hh : handlers name = none) :
    referenceHandler handlers failures name = .missing name defaultProgram (failures name) := by
  simp [referenceHandler, hh]

/-- A reference command runs the handler installed for it or the stand-in for a missing one. -/
theorem referenceHandler_installed_or_missing :
    handlers name = some (referenceHandler handlers failures name) ∨
      referenceHandler handlers failures name = .missing name defaultProgram (failures name) := by
  cases hh : handlers name with
  | none => exact .inr (referenceHandler_of_none hh)
  | some h =>
    cases ht : h.truthy
    · exact .inr (referenceHandler_of_falsy hh ht)
    · exact .inl (by rw [referenceHandler_of_truthy hh ht])

theorem referenceHandler_congr {handlers' : String → Option Handler}
    (hh : handlers' name = handlers name) :
    referenceHandler handlers' failures name = referenceHandler handlers failures name := by
  simp [referenceHandler, hh]

end ReferenceHandler

/-- The reference catalog, sorted by name, each reference command with its handler. -/
def referenceCatalog (handlers : String → Option Handler) (failures : String → Option Value) :
    Catalog :=
  let refs := referenceCommands.map fun r => r.descriptor (referenceHandler handlers failures r.name)
  let all := refs ++ [helpDescriptor, versionDescriptor]
  let key (d : Descriptor) : String := (d.nameText?).getD ""
  ⟨(all.mergeSort fun a b => decide (key a ≤ key b)).map .descriptor⟩

end CommandLine
