import Mathlib
import CommandLine.Proofs.ColorScope
import CommandLine.Proofs.Similarity

/-!
# Grammars that match alike

What a grammar's help page shows (its description, closing text, listing sections and styles)
never changes what a scan of a line does, and neither does the order of the names a mistyped
command is compared with, since the closest of them does not depend on their order
(`closestMatch_congr`). Two grammars that differ only there are `Grammar.Restyled`.

Reading the strings of a line with either gives the same kinds, and refusing a line gives the
same usage error. So every step of a scan runs alike on the two grammars: to the same result
in the same state, except that a help option prints each grammar's own page (`ScanM.Alike`).
The step lemmas compose through binds and folds into the whole parse, as the steps of
`Grammar.parseKnown_keeps` do, and the command positional hands the rest of the line to
subcommands that run alike too.

So two grammars that match alike parse every line alike (`Grammar.parse_alike`).
-/

namespace CommandLine.Matching

open ScanM

/-- Two grammars that match alike: they differ at most in what only their help page shows
(description, closing text, listing sections, styles) and in the order of the names a mistyped
command is compared with. -/
structure Grammar.Restyled (g₁ g₂ : Grammar) : Prop where
  prog : g₁.prog = g₂.prog
  usage : g₁.usage = g₂.usage
  prefixChars : g₁.prefixChars = g₂.prefixChars
  allowAbbrev : g₁.allowAbbrev = g₂.allowAbbrev
  options : g₁.options = g₂.options
  positionals : g₁.positionals = g₂.positionals
  defaults : g₁.defaults = g₂.defaults
  commandNames : g₁.commandNames = g₂.commandNames
  listed : ∀ x, x ∈ g₁.listedNames ↔ x ∈ g₂.listedNames

/-- Two runs of a scan that end alike: in the same way and the same state, except that each may
print the help page of its own grammar, the two grammars matching alike, in the same color on
the same output. -/
def RunsAlike {α : Type} (columns : Int) (r₁ r₂ : Except Halt α × ScanState) : Prop :=
  r₁ = r₂ ∨ ∃ (g₁ g₂ : Grammar) (color : String) (terminal : Bool) (σ : ScanState), g₁.Restyled g₂ ∧
    r₁ = (.error (g₁.helpHalt columns color terminal), σ) ∧
      r₂ = (.error (g₂.helpHalt columns color terminal), σ)

/-- Two steps that run alike from every state. -/
def ScanM.Alike {α : Type} (columns : Int) (x₁ x₂ : ScanM α) : Prop :=
  ∀ σ, RunsAlike columns (x₁.run.run σ) (x₂.run.run σ)

namespace ScanM

variable {α β γ : Type} {columns : Int}

theorem alike_of_eq {x₁ x₂ : ScanM α} (h : x₁ = x₂) : Alike columns x₁ x₂ :=
  fun _ => Or.inl (by rw [h])

/-- Steps that run alike, followed by steps that run alike on each result, run alike: a help
page printed by the first steps ends both runs. -/
theorem Alike.bind {x₁ x₂ : ScanM α} {f₁ f₂ : α → ScanM β} (hx : Alike columns x₁ x₂)
    (hf : ∀ a, Alike columns (f₁ a) (f₂ a)) : Alike columns (x₁ >>= f₁) (x₂ >>= f₂) := by
  intro σ
  rw [run_bind, run_bind]
  rcases hx σ with h | ⟨g₁, g₂, color, terminal, σ', hg, h₁, h₂⟩
  · rw [h]
    rcases x₂.run.run σ with ⟨_ | a, σ'⟩
    · exact Or.inl rfl
    · exact hf a σ'
  · rw [h₁, h₂]
    exact Or.inr ⟨g₁, g₂, color, terminal, σ', hg, rfl, rfl⟩

theorem alike_foldlM {l : List γ} {f₁ f₂ : β → γ → ScanM β}
    (hstep : ∀ b c, Alike columns (f₁ b c) (f₂ b c)) (b : β) :
    Alike columns (l.foldlM f₁ b) (l.foldlM f₂ b) := by
  induction l generalizing b with
  | nil => exact alike_of_eq rfl
  | cons c l ih =>
    simp only [List.foldlM_cons]
    exact (hstep b c).bind ih

end ScanM

/-! ## What grammars that match alike share -/

namespace Grammar.Restyled

variable {g₁ g₂ : Grammar} (h : g₁.Restyled g₂)
include h

theorem isPrefix (c : Char) : g₁.isPrefix c = g₂.isPrefix c := by
  simp [Grammar.isPrefix, h.prefixChars]

theorem optionTable : g₁.optionTable = g₂.optionTable := by
  simp [Grammar.optionTable, h.options]

theorem optionFor? (s : String) : g₁.optionFor? s = g₂.optionFor? s := by
  simp [Grammar.optionFor?, h.optionTable]

theorem optionReadings (arg : String) : g₁.optionReadings arg = g₂.optionReadings arg := by
  simp only [Grammar.optionReadings, h.isPrefix, h.allowAbbrev, h.optionTable]

theorem initialNamespace : g₁.initialNamespace = g₂.initialNamespace := by
  simp [Grammar.initialNamespace, h.options, h.positionals, h.defaults]

theorem formatUsage (columns : Int) : g₁.formatUsage columns = g₂.formatUsage columns := by
  simp only [Grammar.formatUsage, Grammar.usageBody, h.usage, h.prog, h.options, h.positionals]

/-- Grammars that match alike refuse a line with the same usage error: the same usage line,
and the same similar name, since the closest name does not depend on the order of the names. -/
theorem usageError (columns : Int) (message : String) :
    g₁.usageError columns message = g₂.usageError columns message := by
  simp only [Grammar.usageError, h.formatUsage, h.prog, closestMatch_congr h.listed]

theorem fail {α : Type} (columns : Int) (message : String) :
    (g₁.fail columns message : ScanM α) = g₂.fail columns message := by
  simp only [Grammar.fail, h.usageError]

end Grammar.Restyled

/-! ## The steps of a scan run alike -/

namespace Grammar

variable {g₁ g₂ : Grammar} (h : g₁.Restyled g₂) {columns : Int}
include h

theorem readOption_restyled (arg : String) :
    g₁.readOption columns arg = g₂.readOption columns arg := by
  simp only [readOption, h.isPrefix, h.optionFor?, h.optionReadings, h.fail]

theorem kinds_restyled (argv : List String) : g₁.kinds columns argv = g₂.kinds columns argv := by
  induction argv with
  | nil => rfl
  | cons a rest ih =>
    by_cases ha : a = "--"
    · subst ha
      rw [kinds.eq_2, kinds.eq_2]
    · rw [kinds.eq_3 _ _ _ _ ha, kinds.eq_3 _ _ _ _ ha, readOption_restyled h, ih]

theorem readCluster_loop_restyled (kinds : List Kind) (args : Array String) (start : Nat) :
    ∀ (fuel : Nat) (o : OptionSpec) (optString : String) (explicit : Option String)
      (acc : List (OptionSpec × List String)),
    readCluster.loop g₁ columns kinds args start fuel o optString explicit acc =
      readCluster.loop g₂ columns kinds args start fuel o optString explicit acc
  | 0, _, _, _, _ => rfl
  | fuel + 1, o, optString, explicit, acc => by
    unfold readCluster.loop
    simp only [h.isPrefix, h.optionFor?, h.fail, readCluster_loop_restyled kinds args start fuel]

theorem takeOption_alike (o : OptionSpec) (args : List String) (ns : Namespace) :
    Alike columns (g₁.takeOption columns o args ns) (g₂.takeOption columns o args ns) := by
  unfold takeOption
  cases o.effect with
  | help =>
    -- each grammar prints its own page, in the color chosen so far
    intro σ
    dsimp only
    rw [printHelp_run, printHelp_run]
    exact Or.inr ⟨g₁, g₂, _, _, σ, h, rfl, rfl⟩
  | version text => exact alike_of_eq (by rw [h.prog])
  | flag d => exact alike_of_eq rfl
  | choice d cs => exact alike_of_eq (by simp only [h.fail])

variable {sub₁ sub₂ : Subcommand}
  (hsub : ∀ name rest, Alike columns (sub₁ name rest) (sub₂ name rest))
include hsub

theorem takePositional_alike (p : PositionalSpec) (args : List String) (st : Scan) :
    Alike columns (g₁.takePositional columns sub₁ p args st)
      (g₂.takePositional columns sub₂ p args st) := by
  unfold takePositional
  cases p.arity with
  | command =>
    dsimp only
    rw [h.commandNames, h.fail]
    split
    · exact alike_of_eq rfl |>.bind fun _ => (hsub _ _).bind fun _ => alike_of_eq rfl
    · exact (hsub _ _).bind fun _ => alike_of_eq rfl
  | rest | any | one => exact alike_of_eq rfl

theorem consumePositionals_alike (args : Array String) (pattern : List Char) (start : Nat)
    (st : Scan) :
    Alike columns (g₁.consumePositionals columns sub₁ args pattern start st)
      (g₂.consumePositionals columns sub₂ args pattern start st) := by
  unfold consumePositionals
  dsimp only
  refine (alike_foldlM (fun acc pn => ?_) _).bind fun r => alike_of_eq rfl
  exact (takePositional_alike h hsub _ _ _).bind fun _ => alike_of_eq rfl

omit hsub in
theorem consumeOptional_alike (kinds : List Kind) (args : Array String) (start : Nat) (st : Scan) :
    Alike columns (g₁.consumeOptional columns kinds args start st)
      (g₂.consumeOptional columns kinds args start st) := by
  unfold consumeOptional readCluster
  split
  · split
    · exact alike_of_eq rfl
    · rw [readCluster_loop_restyled h]
      refine alike_of_eq rfl |>.bind fun r => ?_
      exact (alike_foldlM (fun ns a => takeOption_alike h _ _ _) _).bind fun _ => alike_of_eq rfl
  · exact alike_of_eq rfl

theorem positionalsBefore_alike (args : Array String) (pattern : List Char) (start next : Nat)
    (st : Scan) :
    Alike columns (g₁.positionalsBefore columns sub₁ args pattern start next st)
      (g₂.positionalsBefore columns sub₂ args pattern start next st) := by
  unfold positionalsBefore
  split
  · exact (consumePositionals_alike h hsub _ _ _ _).bind fun _ => alike_of_eq rfl
  · exact alike_of_eq rfl

/-- The scan loops of two grammars that match alike run alike: by induction on the fuel, each
round being positionals, then possibly an option. -/
theorem scanLoop_alike (kinds : List Kind) (args : Array String) (pattern : List Char) :
    ∀ (fuel start : Nat) (st : Scan),
    Alike columns (g₁.scanLoop columns sub₁ kinds args pattern fuel start st)
      (g₂.scanLoop columns sub₂ kinds args pattern fuel start st)
  | 0, _, _ => alike_of_eq rfl
  | fuel + 1, start, st => by
    rw [scanLoop.eq_2, scanLoop.eq_2]
    cases optionPositions kinds start with
    | nil => exact alike_of_eq rfl
    | cons next _ =>
      refine (positionalsBefore_alike h hsub args pattern start next st).bind fun r => ?_
      obtain ⟨start', st', advanced⟩ := r
      cases advanced with
      | true => exact scanLoop_alike kinds args pattern fuel _ _
      | false =>
        exact (consumeOptional_alike h kinds args next _).bind fun _ =>
          scanLoop_alike kinds args pattern fuel _ _

theorem parseKnown_alike (argv : List String) :
    Alike columns (g₁.parseKnown columns sub₁ argv) (g₂.parseKnown columns sub₂ argv) := by
  unfold parseKnown
  rw [kinds_restyled h, h.initialNamespace, h.positionals]
  refine alike_of_eq rfl |>.bind fun kinds => ?_
  exact (scanLoop_alike h hsub _ _ _ _ _ _).bind fun _ =>
    (consumePositionals_alike h hsub _ _ _ _).bind fun _ => alike_of_eq rfl

/-- Two grammars that match alike parse every line alike, when their command positionals hand
the rest of the line to subcommands that run alike. -/
theorem parse_alike (argv : List String) :
    Alike columns (g₁.parse columns sub₁ argv) (g₂.parse columns sub₂ argv) := by
  unfold parse
  refine (parseKnown_alike h hsub argv).bind fun r => ?_
  obtain ⟨ns, extras⟩ := r
  exact alike_of_eq (by simp only [h.fail])

end Grammar

end CommandLine.Matching
