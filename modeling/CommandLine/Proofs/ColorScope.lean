import CommandLine.Proofs.Routing

/-!
# The color of a help page

A help page printed while a line is matched is rendered in the color chosen on that line: the
scan state remembers the value of the last `--color` option read, and printing help reads it
(`Grammar.printHelp_run`). Every match starts from a state with no color chosen, so the color
comes from the line alone, never from a line matched before on the same schema.

At the top level the global options are read one by one, so a help option right after them
prints the top-level help in their last color (`topGrammar_parse_help`). After a command name
every string belongs to the command's grammar, and no option of a command's grammar chooses a
color (`Descriptor.grammar_helpOrFlags`). So the command's scan leaves the state as it found
it and stops only by refusing the line or by printing the command's help in the state's color:
the scan is `Steady`. Steadiness is shown as the scan is built, one lemma per step, each step's
guarantee composing through binds and folds, as `Grammar.parseKnown_keeps` does for the
namespace.

`Schema.ScopesColors` says how a schema's matches use the color of their line, and
`help_colored_by_own_line` that every built schema's matches do.
-/

namespace CommandLine.Matching

open ScanM

/-! ## Steady steps -/

/-- A step that leaves the scan state as it found it, and stops, if it stops, only with a halt
that `H` allows in that state. -/
def ScanM.Steady {α : Type} (H : ScanState → Halt → Prop) (x : ScanM α) : Prop :=
  ∀ σ, (x.run.run σ).2 = σ ∧ ∀ e, (x.run.run σ).1 = .error e → H σ e

namespace ScanM

variable {α β γ : Type} {H H' : ScanState → Halt → Prop}

theorem steady_pure (a : α) : (pure a : ScanM α).Steady H :=
  fun _ => ⟨rfl, fun _ he => by cases he⟩

theorem steady_throw {e : Halt} (h : ∀ σ, H σ e) : (throw e : ScanM α).Steady H :=
  fun σ => ⟨rfl, fun _ he => by cases he; exact h σ⟩

theorem Steady.mono {x : ScanM α} (hx : x.Steady H) (h : ∀ σ e, H σ e → H' σ e) :
    x.Steady H' :=
  fun σ => ⟨(hx σ).1, fun e he => h σ e ((hx σ).2 e he)⟩

/-- A steady first step whose every result satisfying `Q` is followed by a steady step makes a
steady bind, when every successful run of the first step gives such a result. -/
theorem Steady.bind_ensures {x : ScanM α} {f : α → ScanM β} {Q : α → Prop} (hx : x.Steady H)
    (hQ : x.Ensures Q) (hf : ∀ a, Q a → (f a).Steady H) : (x >>= f).Steady H := by
  intro σ
  obtain ⟨hstate, hhalt⟩ := hx σ
  rw [run_bind]
  cases hrun : x.run.run σ with
  | mk r σ' =>
    rw [hrun] at hstate hhalt
    dsimp only at hstate hhalt
    subst hstate
    cases r with
    | error e => exact ⟨rfl, fun e' he => by cases he; exact hhalt e rfl⟩
    | ok a => exact hf a (hQ _ a _ hrun) _

theorem Steady.bind {x : ScanM α} {f : α → ScanM β} (hx : x.Steady H)
    (hf : ∀ a, (f a).Steady H) : (x >>= f).Steady H :=
  hx.bind_ensures (Q := fun _ => True) (fun _ _ _ _ => trivial) fun a _ => hf a

/-- A fold whose every step is steady is steady. -/
theorem steady_foldlM {l : List γ} {f : β → γ → ScanM β} (hstep : ∀ b, ∀ c ∈ l, (f b c).Steady H)
    (b : β) : (l.foldlM f b).Steady H := by
  induction l generalizing b with
  | nil => exact steady_pure b
  | cons c l ih =>
    rw [List.foldlM_cons]
    exact (hstep b c List.mem_cons_self).bind fun b' =>
      ih (fun b'' c' hc' => hstep b'' c' (List.mem_cons_of_mem c hc')) b'

end ScanM

/-! ## Printing help -/

namespace Grammar

variable {g : Grammar} {columns : Int}

theorem printHelp_run {α : Type} (σ : ScanState) :
    (g.printHelp columns : ScanM α).run.run σ =
      (.error (g.helpHalt columns (σ.color.getD "auto") σ.terminal), σ) := rfl

/-- How a scan of a grammar may stop, from a state: by refusing the line, or by printing the
grammar's help in the state's color. -/
def Halts (g : Grammar) (columns : Int) (σ : ScanState) (e : Halt) : Prop :=
  (∃ message, e = .usage (g.usageError columns message)) ∨
    e = g.helpHalt columns (σ.color.getD "auto") σ.terminal

/-- Every option of the grammar prints its help or sets a flag: none chooses a color or prints
a version. -/
def HelpOrFlags (g : Grammar) : Prop :=
  ∀ o ∈ g.options, o.effect = .help ∨ ∃ d, o.effect = .flag d

theorem steady_fail {α : Type} (message : String) :
    (g.fail columns message : ScanM α).Steady (g.Halts columns) :=
  steady_throw fun _ => .inl ⟨message, rfl⟩

theorem steady_printHelp {α : Type} : (g.printHelp columns : ScanM α).Steady (g.Halts columns) :=
  fun σ => ⟨rfl, fun e he => by
    rw [printHelp_run] at he
    cases he
    exact .inr rfl⟩

/-- At a help option, the scan prints the grammar's help in the color chosen so far. -/
theorem consumeOptional_help {K : List Kind} {p : Nat} {s : String} {K' : List Kind}
    (hK : K.drop p = .option ⟨some helpOption, s, none⟩ :: K') (args : Array String) (st : Scan)
    (σ : ScanState) :
    (g.consumeOptional columns K args p st).run.run σ =
      (.error (g.helpHalt columns (σ.color.getD "auto") σ.terminal), σ) := by
  -- the help option takes no argument, so it is read alone
  have hread : (g.readCluster columns K args p helpOption s none).Yields
      ([(helpOption, [])], p + 1) := fun _ => rfl
  unfold consumeOptional
  simp only [hK]
  rw [hread.run_bind]
  exact run_bind_error (printHelp_run σ) _

/-- A grammar marking options with a dash and having the help option first reads a help
option string as the help option. -/
theorem readOption_help (hpre : g.prefixChars = ['-']) (hopt : ∃ more, g.options = helpOption :: more)
    {h : String} (hh : h = "-h" ∨ h = "--help") :
    (g.readOption columns h).Yields (some ⟨some helpOption, h, none⟩) := by
  obtain ⟨more, hmore⟩ := hopt
  intro σ
  rcases hh with rfl | rfl <;>
    simp [readOption, isPrefix, optionFor?, optionTable, hpre, hmore, helpOption] <;> rfl

/-! ## The steps of a scan keep the state -/

theorem readOption_steady (arg : String) :
    (g.readOption columns arg).Steady (g.Halts columns) := by
  rcases readOption_cases arg with ⟨r, -, heq⟩ | ⟨-, message, -, -, heq⟩
  · rw [heq]
    exact steady_pure r
  · rw [heq]
    exact steady_fail message

theorem kinds_steady : ∀ argv, (g.kinds columns argv).Steady (g.Halts columns)
  | [] => steady_pure _
  | a :: rest => by
    unfold kinds
    split
    · next h => cases h
    · exact steady_pure _
    · next a' rest' _ h =>
      cases h
      exact (readOption_steady a).bind fun _ =>
        (kinds_steady rest).bind fun _ => steady_pure _

theorem readCluster_loop_steady (kinds : List Kind) (args : Array String) (start : Nat)
    (fuel : Nat) (o : OptionSpec) (optString : String) (explicit : Option String)
    (acc : List (OptionSpec × List String)) :
    (readCluster.loop g columns kinds args start fuel o optString explicit acc).Steady
      (g.Halts columns) := by
  rcases readCluster_loop_cases kinds args start fuel o optString explicit acc with
    ⟨_, _, -, heq⟩ | ⟨message, heq⟩ <;> rw [heq]
  · exact steady_pure _
  · exact steady_fail message

/-- An option of a grammar whose options only print help or set flags never changes the
state. -/
theorem takeOption_steady (hg : g.HelpOrFlags) {o : OptionSpec} (ho : o ∈ g.options)
    (args : List String) (ns : Namespace) :
    (g.takeOption columns o args ns).Steady (g.Halts columns) := by
  unfold takeOption
  rcases hg o ho with heff | ⟨d, heff⟩
  · simp only [heff]
    exact steady_printHelp
  · simp only [heff]
    exact steady_pure _

theorem takePositional_steady {sub : Subcommand}
    (hsub : ∀ name rest, (sub name rest).Steady (g.Halts columns)) (p : PositionalSpec)
    (args : List String) (st : Scan) :
    (g.takePositional columns sub p args st).Steady (g.Halts columns) := by
  unfold takePositional
  split
  · dsimp only
    split
    · exact (steady_fail _).bind fun _ => (hsub _ _).bind fun _ => steady_pure _
    · exact (hsub _ _).bind fun _ => steady_pure _
  · exact steady_pure _
  · exact steady_pure _
  · exact steady_pure _

section Scan

variable {sub : Subcommand} (hsub : ∀ name rest, (sub name rest).Steady (g.Halts columns))
include hsub

theorem consumePositionals_steady (args : Array String) (pattern : List Char) (start : Nat)
    (st : Scan) :
    (g.consumePositionals columns sub args pattern start st).Steady (g.Halts columns) := by
  unfold consumePositionals
  dsimp only
  refine (steady_foldlM (fun acc pn _ => ?_) _).bind fun r => ?_
  · exact (takePositional_steady hsub _ _ _).bind fun _ => steady_pure _
  · obtain ⟨stop, st'⟩ := r
    exact steady_pure _

omit hsub in
theorem consumeOptional_steady (hg : g.HelpOrFlags) {kinds : List Kind}
    (hkinds : g.OwnsKinds kinds) (args : Array String) (start : Nat) (st : Scan) :
    (g.consumeOptional columns kinds args start st).Steady (g.Halts columns) := by
  unfold consumeOptional
  split
  · next m rest hdrop =>
    split
    · exact steady_pure _
    · next o ho =>
      have hmem : o ∈ g.options :=
        hkinds m (List.mem_of_mem_drop (hdrop ▸ List.mem_cons_self)) o ho
      -- the options glued to it are the grammar's too
      refine (readCluster_loop_steady kinds args start _ o _ _ []).bind_ensures
        (readCluster_loop_ensures kinds args start _ o _ _ [] hmem (by simp)) fun r hr => ?_
      obtain ⟨actions, stop⟩ := r
      refine (steady_foldlM (fun ns a ha => ?_) _).bind fun _ => steady_pure _
      exact takeOption_steady hg (hr a ha) _ _
  · exact steady_pure _

theorem positionalsBefore_steady (args : Array String) (pattern : List Char) (start next : Nat)
    (st : Scan) :
    (g.positionalsBefore columns sub args pattern start next st).Steady (g.Halts columns) := by
  unfold positionalsBefore
  split
  · refine (consumePositionals_steady hsub args pattern start st).bind fun r => ?_
    obtain ⟨stop, st'⟩ := r
    exact steady_pure _
  · exact steady_pure _

/-- The scan loop of a grammar whose options only print help or set flags is steady: by
induction on the fuel, each round being positionals, then possibly an option. -/
theorem scanLoop_steady (hg : g.HelpOrFlags) {kinds : List Kind} (hkinds : g.OwnsKinds kinds)
    (args : Array String) (pattern : List Char) :
    ∀ (fuel start : Nat) (st : Scan),
    (g.scanLoop columns sub kinds args pattern fuel start st).Steady (g.Halts columns)
  | 0, _, _ => steady_pure _
  | fuel + 1, start, st => by
    unfold scanLoop
    split
    · exact steady_pure _
    · next next _ _ =>
      refine (positionalsBefore_steady hsub args pattern start next st).bind fun r => ?_
      obtain ⟨start', st', advanced⟩ := r
      dsimp only
      split
      · exact scanLoop_steady hg hkinds args pattern fuel _ _
      · exact (consumeOptional_steady hg hkinds args next _).bind fun r' =>
          scanLoop_steady hg hkinds args pattern fuel _ _

/-- The whole scan of a grammar whose options only print help or set flags leaves the state
as it found it, and stops only by refusing the line or printing the grammar's help in the
state's color. -/
theorem parseKnown_steady (hg : g.HelpOrFlags) (argv : List String) :
    (g.parseKnown columns sub argv).Steady (g.Halts columns) := by
  unfold parseKnown
  refine (kinds_steady argv).bind_ensures (kinds_ensures argv) fun kinds hkinds => ?_
  refine (scanLoop_steady hsub hg hkinds _ _ _ _ _).bind fun r => ?_
  exact (consumePositionals_steady hsub _ _ _ _).bind fun _ => steady_pure _

end Scan

theorem noSubcommand_steady (name : String) (rest : List String) :
    (noSubcommand name rest).Steady (g.Halts columns) :=
  steady_pure _

end Grammar

end CommandLine.Matching

namespace CommandLine

open Matching ScanM

/-! ## Help at the top level -/

section TopHelp

variable {prog : String} {sty : Styles} {secs : List (String × List String)}
  {listed names : List String} {columns : Int} {sub : Subcommand}

/-- A help option right after global options the top level accepts prints the top-level help
in the color the options leave chosen, whatever follows it. -/
theorem topGrammar_parse_help {gs : List GlobalOption} (hv : ∀ o ∈ gs, o.Valid) {h : String}
    (hh : h = "-h" ∨ h = "--help") (rest : List String) (σ : ScanState) :
    ((topGrammar prog sty secs listed names).parse columns sub (globalTokens gs ++ h :: rest)).run.run σ =
      (.error ((topGrammar prog sty secs listed names).helpHalt columns
        ((GlobalOption.chooseColors gs σ).color.getD "auto") (GlobalOption.chooseColors gs σ).terminal),
        GlobalOption.chooseColors gs σ) := by
  obtain ⟨Krest, hKrest, -⟩ := topGrammar_kinds_yields prog sty secs listed names columns rest
  have hread : ((topGrammar prog sty secs listed names).readOption columns h).Yields
      (some ⟨some helpOption, h, none⟩) :=
    Grammar.readOption_help rfl ⟨_, rfl⟩ hh
  have hne : h ≠ "--" := by
    rcases hh with rfl | rfl <;> decide
  have hK := kinds_globals prog sty secs listed names columns hv
    (Grammar.kinds_cons_yields columns hne hread hKrest)
  -- the global options take one round each, and the next round is at the help option
  have hfuel : (globalTokens gs ++ h :: rest).length + 1 =
      ((globalTokens gs ++ h :: rest).length - gs.length) + 1 + gs.length := by
    have := length_le_globalTokens gs
    simp only [List.length_append, List.length_cons]
    omega
  have hargs : (globalTokens gs ++ h :: rest).toArray.toList.drop 0 = globalTokens gs ++ h :: rest := by
    simp
  have hKhelp : (gs.flatMap GlobalOption.kinds ++ Kind.ofReading (some ⟨some helpOption, h, none⟩) :: Krest).drop
      (0 + (globalTokens gs).length) = .option ⟨some helpOption, h, none⟩ :: Krest := by
    rw [Nat.zero_add, ← length_flatMap_kinds, List.drop_left]
    rfl
  unfold Grammar.parse Grammar.parseKnown
  rw [bind_assoc, hK.run_bind]
  dsimp only
  rw [bind_assoc, run_bind, hfuel, scanLoop_globals hv hargs rfl, Grammar.scanLoop_at_option _ hKhelp,
    run_bind_error (Grammar.consumeOptional_help hKhelp _ _ _)]

end TopHelp

/-! ## The grammars of commands -/

section CommandGrammar

variable {d : Descriptor} {program : String} {styles : Styles} {g : Grammar} {columns : Int}

theorem Descriptor.grammar_helpOrFlags (hg : d.grammar program styles = .ok g) : g.HelpOrFlags := by
  unfold Descriptor.grammar at hg
  intro o ho
  cases hargs : d.args <;> rw [hargs] at hg <;> cases hg <;>
    simp only [List.mem_cons, List.not_mem_nil, or_false] at ho <;>
    rcases ho with rfl | rfl <;> simp [helpOption]

/-- A command's grammar that is not raw marks options with a dash, and its first option is the
help option. -/
theorem Descriptor.grammar_helpFirst (hg : d.grammar program styles = .ok g) (hraw : d.args ≠ .raw) :
    g.prefixChars = ['-'] ∧ ∃ more, g.options = helpOption :: more := by
  unfold Descriptor.grammar at hg
  cases hargs : d.args <;> rw [hargs] at hg <;> cases hg <;> simp_all

/-- Strings that do not start with a dash are positionals of a grammar marking options with a
dash. -/
theorem Matching.Grammar.kinds_of_no_dash (hpre : g.prefixChars = ['-']) :
    ∀ more : List String, (∀ a ∈ more, a.toList.head? ≠ some '-') →
      (g.kinds columns more).Yields (more.map fun _ => .positional)
  | [], _ => yields_pure _
  | a :: more, hmore => by
    have ha : a ≠ "--" := by
      rintro rfl
      exact hmore "--" List.mem_cons_self rfl
    have hread : (g.readOption columns a).Yields none :=
      Grammar.readOption_of_head columns fun c hc => by
        have hc' : c ≠ '-' := fun h => hmore a List.mem_cons_self (h ▸ hc)
        simp [Grammar.isPrefix, hpre, hc']
    exact Grammar.kinds_cons_yields columns ha hread
      (kinds_of_no_dash hpre more fun a' ha' => hmore a' (List.mem_cons_of_mem a ha'))

/-- A help option first among the strings after a command that is not raw prints the command's
help in the color chosen so far, when no string after it starts with a dash. -/
theorem Descriptor.grammar_parseKnown_help (hg : d.grammar program styles = .ok g)
    (hraw : d.args ≠ .raw) {h : String} (hh : h = "-h" ∨ h = "--help") {more : List String}
    (hmore : ∀ a ∈ more, a.toList.head? ≠ some '-') (sub : Subcommand) (σ : ScanState) :
    (g.parseKnown columns sub (h :: more)).run.run σ =
      (.error (g.helpHalt columns (σ.color.getD "auto") σ.terminal), σ) := by
  obtain ⟨hpre, hopt⟩ := grammar_helpFirst hg hraw
  have hne : h ≠ "--" := by
    rcases hh with rfl | rfl <;> decide
  have hK : (g.kinds columns (h :: more)).Yields
      (.option ⟨some helpOption, h, none⟩ :: more.map fun _ => .positional) :=
    Grammar.kinds_cons_yields columns hne (Grammar.readOption_help hpre hopt hh)
      (Grammar.kinds_of_no_dash hpre more hmore)
  unfold Grammar.parseKnown
  rw [hK.run_bind]
  dsimp only
  rw [run_bind, Grammar.scanLoop_at_option _ List.drop_zero,
    run_bind_error (Grammar.consumeOptional_help List.drop_zero _ _ _)]

end CommandGrammar

/-! ## Matching a line of a built schema -/

namespace Schema.WellBuilt

variable {s : Schema} (hs : s.WellBuilt) {d : Descriptor} {n : String} {gs : List GlobalOption}
include hs

/-- A help option right after the global options prints the top-level help in their last
color, and leaves that color chosen. -/
theorem matchArgs_help (hv : ∀ o ∈ gs, o.Valid) {h : String} (hh : h = "-h" ∨ h = "--help")
    (rest : List String) (columns : Int) (terminal : Bool) :
    s.matchArgs columns (globalTokens gs ++ h :: rest) terminal =
      (.error (s.top.helpHalt columns ((GlobalOption.lastColor gs).getD "auto") terminal),
        ⟨GlobalOption.lastColor gs, terminal⟩) := by
  obtain ⟨sections, listed, htop⟩ := hs.top
  unfold Schema.matchArgs
  rw [htop, topGrammar_parse_help hv hh rest { terminal }, GlobalOption.chooseColors_fresh]

/-- On a line of global options, a name of an enabled command and anything after it, the match
leaves the options' last color chosen, and stops, if not by refusing the line, only by printing
the command's help in that color: nothing after the name chooses a color. -/
theorem matchArgs_command_color (hd : d ∈ s.descriptors) (hn : .str n ∈ d.allNames)
    (hhead : n.toList.head? ≠ some '-') (hv : ∀ o ∈ gs, o.Valid) (rest : List String)
    (columns : Int) (terminal : Bool) :
    ∃ g, d.grammar s.program s.presentation.styles = .ok g ∧
      (s.matchArgs columns (globalTokens gs ++ n :: rest) terminal).2 = ⟨GlobalOption.lastColor gs, terminal⟩ ∧
      ∀ e, (s.matchArgs columns (globalTokens gs ++ n :: rest) terminal).1 = .error e →
        (∃ u, e = .usage u) ∨ e = g.helpHalt columns ((GlobalOption.lastColor gs).getD "auto") terminal := by
  obtain ⟨g, hg, hrun⟩ := hs.matchArgs_globals hd hn hhead hv rest columns terminal
  -- the command's scan and the check for extra strings after it
  have hsteady : (g.parseKnown columns noSubcommand rest >>= fun r =>
      if r.2.isEmpty then
        pure ((GlobalOption.setAll gs s.top.initialNamespace).set "command" (.str n) |>.merge r.1)
      else s.top.fail columns ("unrecognized arguments: " ++ " ".intercalate r.2)).Steady
        fun σ e => (∃ u, e = .usage u) ∨ e = g.helpHalt columns (σ.color.getD "auto") σ.terminal := by
    refine ((g.parseKnown_steady (fun _ _ => Grammar.noSubcommand_steady _ _)
      (Descriptor.grammar_helpOrFlags hg) rest).mono ?_).bind fun r => ?_
    · rintro σ e (⟨message, rfl⟩ | rfl)
      · exact .inl ⟨_, rfl⟩
      · exact .inr rfl
    · split
      · exact steady_pure _
      · exact steady_throw fun _ => .inl ⟨_, rfl⟩
  obtain ⟨hstate, hhalt⟩ := hsteady (GlobalOption.chooseColors gs { terminal })
  rw [← hrun, GlobalOption.chooseColors_fresh] at hstate hhalt
  exact ⟨g, hg, hstate, hhalt⟩

/-- A help option right after the name of an enabled command that is not raw prints the
command's help in the last color of the global options, when no string after it starts with a
dash. -/
theorem matchArgs_command_help (hd : d ∈ s.descriptors) (hn : .str n ∈ d.allNames)
    (hhead : n.toList.head? ≠ some '-') (hv : ∀ o ∈ gs, o.Valid) (hraw : d.args ≠ .raw)
    {h : String} (hh : h = "-h" ∨ h = "--help") {more : List String}
    (hmore : ∀ a ∈ more, a.toList.head? ≠ some '-') (columns : Int) (terminal : Bool) :
    ∃ g, d.grammar s.program s.presentation.styles = .ok g ∧
      s.matchArgs columns (globalTokens gs ++ n :: h :: more) terminal =
        (.error (g.helpHalt columns ((GlobalOption.lastColor gs).getD "auto") terminal),
          ⟨GlobalOption.lastColor gs, terminal⟩) := by
  obtain ⟨g, hg, hrun⟩ := hs.matchArgs_globals hd hn hhead hv (h :: more) columns terminal
  refine ⟨g, hg, ?_⟩
  rw [hrun, run_bind_error (Descriptor.grammar_parseKnown_help hg hraw hh hmore _ _),
    GlobalOption.chooseColors_fresh]

end Schema.WellBuilt

/-- How a schema's matches use the color of their line, for lines that start with global
options the top level accepts. A match starts with no color chosen, so each statement holds of
every match on the schema, whatever was matched on it before: a help page is rendered in the
last color of the line's global options, or `auto`, on standard output as it is (a terminal or
not), and the match leaves that color chosen. -/
structure Schema.ScopesColors (s : Schema) (columns : Int) (terminal : Bool) (gs : List GlobalOption) :
    Prop where
  /-- A help option after the global options prints the top-level help in their color. -/
  top_help : ∀ h rest, (h = "-h" ∨ h = "--help") →
    s.matchArgs columns (globalTokens gs ++ h :: rest) terminal =
      (.error (s.top.helpHalt columns ((GlobalOption.lastColor gs).getD "auto") terminal),
        ⟨GlobalOption.lastColor gs, terminal⟩)
  /-- A line naming an enabled command leaves their color chosen and prints, if anything, the
  command's help in it. -/
  command : ∀ d ∈ s.descriptors, ∀ n rest, .str n ∈ d.allNames → n.toList.head? ≠ some '-' →
    ∃ g, d.grammar s.program s.presentation.styles = .ok g ∧
      (s.matchArgs columns (globalTokens gs ++ n :: rest) terminal).2 = ⟨GlobalOption.lastColor gs, terminal⟩ ∧
      ∀ e, (s.matchArgs columns (globalTokens gs ++ n :: rest) terminal).1 = .error e →
        (∃ u, e = .usage u) ∨ e = g.helpHalt columns ((GlobalOption.lastColor gs).getD "auto") terminal
  /-- A help option right after the name of a command that is not raw prints its help. -/
  command_help : ∀ d ∈ s.descriptors, ∀ n h more, .str n ∈ d.allNames →
    n.toList.head? ≠ some '-' → d.args ≠ .raw → (h = "-h" ∨ h = "--help") →
    (∀ a ∈ more, a.toList.head? ≠ some '-') →
    ∃ g, d.grammar s.program s.presentation.styles = .ok g ∧
      s.matchArgs columns (globalTokens gs ++ n :: h :: more) terminal =
        (.error (g.helpHalt columns ((GlobalOption.lastColor gs).getD "auto") terminal),
          ⟨GlobalOption.lastColor gs, terminal⟩)

/-- Every built schema renders the help its matches print in the color of the line's own
global options. -/
theorem help_colored_by_own_line {cat : Catalog} {caps : CapabilitySet} {pres : Presentation}
    {verify : Bool} {s : Schema} (hbuild : Schema.build cat caps pres verify = .ok s)
    {gs : List GlobalOption} (hv : ∀ o ∈ gs, o.Valid) (columns : Int) (terminal : Bool) :
    s.ScopesColors columns terminal gs where
  top_help _ rest hh := (Schema.build_wellBuilt hbuild).matchArgs_help hv hh rest columns terminal
  command _ hd _ rest hn hhead :=
    (Schema.build_wellBuilt hbuild).matchArgs_command_color hd hn hhead hv rest columns terminal
  command_help _ hd _ _ _ hn hhead hraw hh hmore :=
    (Schema.build_wellBuilt hbuild).matchArgs_command_help hd hn hhead hv hraw hh hmore columns
      terminal

/-- A schema with one command taking no arguments, on lines choosing `always`. -/
theorem log_help_colored :
    ∃ s, Schema.build ⟨[.descriptor { name := .str "log", handler := .version, args := .none }]⟩
        .standard {} = .ok s ∧ (∀ o ∈ [GlobalOption.color "always"], o.Valid) ∧
      s.ScopesColors 80 false [.color "always"] := by
  have hbuild : Schema.build ⟨[.descriptor { name := .str "log", handler := .version, args := .none }]⟩
      .standard {} = .ok _ := rfl
  have hv : ∀ o ∈ [GlobalOption.color "always"], o.Valid := by
    simp [GlobalOption.Valid, GlobalOption.value?, colorChoices]
  exact ⟨_, hbuild, hv, help_colored_by_own_line hbuild hv 80 false⟩

end CommandLine
