import CommandLine.Fault

/-!
# Presentation: help categories and styles

Help categories group the commands of the help listing under headings. They never change
which names match or how a command runs. The categories are listed in a chosen order:
the categories of that order first (a repeated one keeps its first place), then the
others in declaration order.

A catalog entry may carry a value that is not a category where a category is expected; it
is kept as it is and never matches a heading.
-/

namespace CommandLine

/-- The headings of the help listing, in declaration order. -/
inductive HelpCategory where
  | common
  | editing
  | rewriting
  | workingCopy
  | fileOperations
  | review
  | references
  | operationLog
  | workspace
  | advanced
  | configurationHelp
  | gitIntegration
  | development
  deriving DecidableEq, Repr, Inhabited

namespace HelpCategory

def all : List HelpCategory :=
  [.common, .editing, .rewriting, .workingCopy, .fileOperations, .review, .references,
    .operationLog, .workspace, .advanced, .configurationHelp, .gitIntegration, .development]

/-- The heading of a category. -/
def heading : HelpCategory → String
  | .common => "Common Commands"
  | .editing => "Editing Changes"
  | .rewriting => "Rewriting Changes"
  | .workingCopy => "Working Copy"
  | .fileOperations => "File Operations"
  | .review => "Review Commands"
  | .references => "References (Bookmarks & Tags)"
  | .operationLog => "Operation Log"
  | .workspace => "Workspace"
  | .advanced => "Advanced"
  | .configurationHelp => "Configuration & Help"
  | .gitIntegration => "Git Integration"
  | .development => "Development"

/-- The member name of a category. -/
def memberName : HelpCategory → String
  | .common => "COMMON"
  | .editing => "EDITING"
  | .rewriting => "REWRITING"
  | .workingCopy => "WORKING_COPY"
  | .fileOperations => "FILE_OPERATIONS"
  | .review => "REVIEW"
  | .references => "REFERENCES"
  | .operationLog => "OPERATION_LOG"
  | .workspace => "WORKSPACE"
  | .advanced => "ADVANCED"
  | .configurationHelp => "CONFIGURATION_HELP"
  | .gitIntegration => "GIT_INTEGRATION"
  | .development => "DEVELOPMENT"

def ofMemberName? (s : String) : Option HelpCategory := all.find? (·.memberName == s)

end HelpCategory

/-- Where a catalog entry asks to be listed: under a category, or under a value that is not
one (which no listing shows). -/
inductive Placement where
  | category (c : HelpCategory)
  | other (v : Value)
  deriving Inhabited

namespace Placement

/-- Equality of placements as keys: categories by identity, other values as values. -/
def same : Placement → Placement → Bool
  | .category a, .category b => a == b
  | .other a, .other b => a.same b
  | _, _ => false

/-- Whether a text is one every reader shares: the empty text, or one character below
U+0100. -/
def sharedText (x : String) : Bool :=
  match x.toList with
  | [] => true
  | [c] => c.toNat < 256
  | _ => false

/-- Whether two values, read separately, are one and the same object: only the values every
reader shares are, namely nothing, the truth values, the whole numbers from -5 to 256 and
the shared texts. -/
def sharedValue : Value → Value → Bool
  | .none, .none => true
  | .bool x, .bool y => x == y
  | .int x, .int y => x == y && decide (-5 ≤ x) && decide (x ≤ 256)
  | .str x, .str y => x == y && sharedText x
  | _, _ => false

/-- Whether two placements, read separately, are one and the same object: a category is
itself, another value only when it is shared (`sharedValue`). Listings collect a
placement's commands by this test. -/
def identical : Placement → Placement → Bool
  | .category a, .category b => a == b
  | .other a, .other b => sharedValue a b
  | _, _ => false

/-- The heading of a placement; a value that is not a category has none. -/
def heading : Placement → Except Fault String
  | .category c => pure c.heading
  | .other v => throw (Fault.missingAttribute ("'" ++ v.typeName ++ "' object") "heading")

/-- A placement as a value: its heading, or the value itself. -/
def toValue : Placement → Value
  | .category c => .str c.heading
  | .other v => v

end Placement

/-- The style definitions of the parts of help and messages. -/
structure Styles where
  header : String := "bold yellow"
  usage : String := "bold yellow"
  literal : String := "bold green"
  placeholder : String := "green"
  warning : String := "bold yellow"
  error : String := "bold red"
  hint : String := "bold cyan"
  deriving Inhabited, Repr

/-- How help is laid out: styles, the order of categories, and the program name. -/
structure Presentation where
  styles : Styles := {}
  categoryOrder : List Placement := HelpCategory.all.map .category
  program : String := "jj"
  deriving Inhabited

namespace Presentation

/-- Drops repeated placements, keeping the first; a list or table cannot be a key. -/
def dedupe (ps : List Placement) : Except Fault (List Placement) :=
  ps.foldlM (fun acc p =>
    match p with
    | .other v => if !v.hashable then throw (Fault.unhashable v)
        else pure (if acc.any (·.same p) then acc else acc ++ [p])
    | _ => pure (if acc.any (·.same p) then acc else acc ++ [p])) []

/-- The order categories are listed in: the chosen order without repeats, then the
categories it leaves out, in declaration order. -/
def orderedCategories (p : Presentation) : Except Fault (List Placement) := do
  let firsts ← dedupe p.categoryOrder
  let rest := (HelpCategory.all.filter fun c => !firsts.any (·.same (.category c))).map .category
  pure (firsts ++ rest)

end Presentation

end CommandLine
