import CommandLine.Proofs.HelpRendering
import CommandLine.Proofs.HelpPage
import CommandLine.Proofs.Outcome
import CommandLine.Proofs.ColorScope

/-!
# The help command

The `help` command is one of three ways to ask for help, and it agrees with the other two. Its
grammar stores the names it is given under `command`, the attribute in which the top level
stores the chosen command. So `help` alone still carries a command, the empty list of names:
it is decoded and dispatched as the help command, which prints the top-level help itself. That
is the page a line without a command prints, and the page `--help` prints when the same color
applies. `help` with names prints the help of the command the first name resolves to: the same
page for every name of the command, whatever names follow. A first name that no command answers
to is a usage error, reported with a hint to list the commands, and the run ends with status 2;
the names of a disabled command are such names.

All this holds on lines whose strings after `help` do not start with a dash. A dash starts an
option of the help command's own grammar, so `help -h` prints the help of the help command and
exits, as every `-h` after a command name does.

`Invocation.HelpAgrees` says what it means for the help command to agree with the other
help paths, and `help_command_agrees` that every run of the reference catalog in which the
configuration loads has it.
-/

namespace CommandLine

open Matching ScanM Terminal

/-! ## The reference commands -/

section Reference

variable {handlers : String → Option Handler} {failures : String → Option Value}

theorem helpDescriptor_mem_referenceDescriptors :
    helpDescriptor ∈ referenceDescriptors handlers failures := by
  simp [referenceDescriptors]

theorem mem_referenceDescriptors {d : Descriptor} (hd : d ∈ referenceDescriptors handlers failures) :
    (∃ r ∈ referenceCommands, ∃ h, d = r.descriptor h) ∨ d = helpDescriptor ∨ d = versionDescriptor := by
  simp only [referenceDescriptors, List.mem_append, List.mem_map, List.mem_cons, List.not_mem_nil,
    or_false] at hd
  rcases hd with ⟨r, hr, rfl⟩ | rfl | rfl
  · exact .inl ⟨r, hr, _, rfl⟩
  · exact .inr (.inl rfl)
  · exact .inr (.inr rfl)

/-- Every reference command shows as it is in the listing: its name has a character other than
a blank, and its name, summary and aliases hold no line break and do not ask for the program's
name. -/
theorem referenceDescriptors_verbatim :
    ∀ d ∈ referenceDescriptors handlers failures, d.showsVerbatim = true := by
  have hcommands : ∀ r ∈ referenceCommands, (r.descriptor .help).showsVerbatim = true := by
    decide +kernel
  intro d hd
  rcases mem_referenceDescriptors hd with ⟨r, hr, h, rfl⟩ | rfl | rfl
  · -- what shows of a command does not depend on its handler
    exact hcommands r hr
  · decide +kernel
  · decide +kernel

/-- The canonical name of every reference command is a text that is not empty. -/
theorem referenceDescriptors_truthy :
    ∀ d ∈ referenceDescriptors handlers failures, d.name.truthy = true := by
  have hcommands : ∀ r ∈ referenceCommands, (Value.str r.name).truthy = true := by
    decide +kernel
  intro d hd
  rcases mem_referenceDescriptors hd with ⟨r, hr, h, rfl⟩ | rfl | rfl
  · exact hcommands r hr
  · rfl
  · rfl

/-- The summary of every reference command is a text that does not ask for the program's
name. -/
theorem referenceDescriptors_summary :
    ∀ d ∈ referenceDescriptors handlers failures,
      ∃ text, d.help = .str text ∧ Template.asksFor text "prog" = false := by
  intro d hd
  obtain ⟨text, htext⟩ : ∃ text, d.help = .str text := by
    rcases mem_referenceDescriptors hd with ⟨r, -, h, rfl⟩ | rfl | rfl <;> exact ⟨_, rfl⟩
  refine ⟨text, htext, ?_⟩
  -- a text shown as it is holds no request for the program's name
  have hshown : Help.showsVerbatim d.help.display = true := by
    have := referenceDescriptors_verbatim d hd
    simp only [Descriptor.showsVerbatim, Bool.and_eq_true] at this
    exact this.1.2
  rw [htext, Value.display, Help.showsVerbatim_iff, Help.altered, Bool.or_eq_false_iff] at hshown
  rw [Template.asksFor_prog]
  exact hshown.2

end Reference

/-! ## The schema of the reference catalog -/

section Built

variable {handlers : String → Option Handler} {failures : String → Option Value}
  {caps : CapabilitySet} {s : Schema}
  (hs : Schema.build (referenceCatalog handlers failures) caps {} = .ok s)
include hs

theorem referenceSchema_presentation : s.presentation = {} := by
  obtain ⟨ds, listing, sections, -, -, -, -, -, rfl⟩ := Schema.build_parts hs
  rfl

/-- The commands of the reference schema are the reference commands the features let in. -/
theorem referenceSchema_registers :
    ∃ ds, ds.Perm (referenceDescriptors handlers failures) ∧ s.RegistersExactly caps ds := by
  obtain ⟨ds, hentries, hperm⟩ := referenceCatalog_sorted handlers failures
  have hcat : referenceCatalog handlers failures = ⟨ds.map .descriptor⟩ := by
    rw [← hentries]
  rw [hcat] at hs
  exact ⟨ds, hperm, Schema.build_registersExactly hs⟩

theorem referenceSchema_descriptors {d : Descriptor} (hd : d ∈ s.descriptors) :
    d ∈ referenceDescriptors handlers failures := by
  obtain ⟨ds, hperm, hreg⟩ := referenceSchema_registers hs
  rw [hreg.descriptors] at hd
  exact hperm.mem_iff.mp (List.mem_filter.mp hd).1

theorem helpDescriptor_mem_referenceSchema : helpDescriptor ∈ s.descriptors := by
  obtain ⟨ds, hperm, hreg⟩ := referenceSchema_registers hs
  rw [hreg.descriptors]
  exact List.mem_filter.mpr ⟨hperm.mem_iff.mpr helpDescriptor_mem_referenceDescriptors, rfl⟩

/-- No name of a disabled reference command is matchable: the names of the reference commands
are all different. -/
theorem disabled_not_matchable {d : Descriptor} (hd : d ∈ referenceDescriptors handlers failures)
    (hoff : d.enabledIn caps = false) {x : Value} (hx : x ∈ d.allNames) : x ∉ s.matchableNames := by
  obtain ⟨ds, hperm, hreg⟩ := referenceSchema_registers hs
  rw [hreg.names]
  intro hmem
  obtain ⟨d', hd', hx'⟩ := List.mem_flatMap.mp hmem
  obtain ⟨hd'ds, hon⟩ := List.mem_filter.mp hd'
  have hne : d ≠ d' := by
    rintro rfl
    rw [hoff] at hon
    cases hon
  -- the names of distinct reference commands are disjoint
  have hnodup : (ds.flatMap Descriptor.allNames).Nodup := by
    rw [(hperm.flatMap_right Descriptor.allNames).nodup_iff, referenceDescriptors_allNames]
    exact referenceNames_nodup.map fun _ _ h => Value.str.inj h
  have : Std.Symm (Function.onFun List.Disjoint Descriptor.allNames) := ⟨fun _ _ h => h.symm⟩
  exact (List.nodup_flatMap.mp hnodup).2.forall (hperm.mem_iff.mpr hd) hd'ds hne hx hx'

/-- Every matchable name of the reference schema is a reference name. -/
theorem referenceSchema_matchable {x : Value} (hx : x ∈ s.matchableNames) :
    ∃ n ∈ referenceNames, x = .str n := by
  obtain ⟨ds, hperm, hreg⟩ := referenceSchema_registers hs
  rw [hreg.names] at hx
  have hall := (sublist_enabledNames caps ds).subset hx
  rw [(hperm.flatMap_right Descriptor.allNames).mem_iff, referenceDescriptors_allNames] at hall
  obtain ⟨n, hn, rfl⟩ := List.mem_map.mp hall
  exact ⟨n, hn, rfl⟩

end Built

/-! ## Matching the lines that ask for help -/

/-- A positional taking any number of strings, on a pattern of positionals only, takes them
all. -/
theorem Matching.takePartial_any {p : List Char} (hp : ∀ c ∈ p, c = 'A') :
    takePartial [.any] p = [p.length] := by
  have hrun : p.takeWhile (fun c => decide (c = 'A') || decide (c = '-')) = p :=
    List.takeWhile_eq_self_iff.mpr fun c hc => by simp [hp c hc]
  simp [takePartial, takeAll, Arity.takes, hrun, List.range_succ]

theorem Matching.Grammar.consumePositionals_nothing (g : Grammar) {columns : Int} {sub : Subcommand}
    {args : Array String} {pattern : List Char} {start : Nat} {st : Scan}
    (h : takePartial (st.positionals.map (·.arity)) (pattern.drop start) = []) :
    g.consumePositionals columns sub args pattern start st = pure (start, st) := by
  simp [Grammar.consumePositionals, h]

section TopLevel

variable (prog : String) (sty : Styles) (secs : List (String × List String))
  (listed names : List String) (columns : Int) {sub : Subcommand}

/-- A line of global options the top level accepts, and nothing else, parses to what they set
over a fresh namespace: the command positional takes nothing. -/
theorem topGrammar_parse_options {gs : List GlobalOption} (hv : ∀ o ∈ gs, o.Valid) (σ : ScanState) :
    ((topGrammar prog sty secs listed names).parse columns sub (globalTokens gs)).run.run σ =
      (.ok (GlobalOption.setAll gs (topGrammar prog sty secs listed names).initialNamespace),
        GlobalOption.chooseColors gs σ) := by
  have hK := kinds_globals prog sty secs listed names columns hv
    (show ((topGrammar prog sty secs listed names).kinds columns []).Yields [] from yields_pure [])
  have hfuel : (globalTokens gs ++ []).length + 1 =
      ((globalTokens gs ++ []).length + 1 - gs.length) + gs.length := by
    have := length_le_globalTokens gs
    simp only [List.append_nil]
    omega
  have hargs : (globalTokens gs ++ []).toArray.toList.drop 0 = globalTokens gs ++ [] := by
    simp
  have hdone : (gs.flatMap GlobalOption.kinds ++ []).drop (0 + (globalTokens gs).length) = [] := by
    rw [Nat.zero_add, List.append_nil, ← length_flatMap_kinds, List.drop_length]
  rw [← List.append_nil (globalTokens gs)]
  unfold Grammar.parse Grammar.parseKnown
  rw [bind_assoc, hK.run_bind]
  dsimp only
  rw [bind_assoc, run_bind, hfuel, scanLoop_globals hv hargs rfl, ← run_bind,
    Grammar.scanLoop_done _ (optionPositions_of_drop_nil hdone), pure_bind,
    Grammar.consumePositionals_nothing]
  · -- nothing is left over
    simp
    rfl
  · -- the command positional takes nothing
    rw [← List.map_drop, hdone]
    rfl

end TopLevel

/-- A command that takes names has a grammar that takes the strings that do not start with a
dash as its names. -/
theorem Descriptor.grammar_parseKnown_names {d : Descriptor} {program : String} {styles : Styles}
    {g : Grammar} (hg : d.grammar program styles = .ok g) (hargs : d.args = .help)
    {names : List String} (hnames : ∀ a ∈ names, a.toList.head? ≠ some '-') (columns : Int)
    (sub : Subcommand) :
    (g.parseKnown columns sub names).Yields
      ([("command", .list (names.map .str)), (commandNameKey, d.name)], []) := by
  obtain ⟨hpre, -⟩ := Descriptor.grammar_helpFirst hg (by rw [hargs]; decide)
  have hK : (g.kinds columns names).Yields (names.map fun _ => .positional) :=
    Grammar.kinds_of_no_dash hpre names hnames
  have hcounts : takePartial [Arity.any] ((names.map fun _ => Kind.positional).map Kind.letter) =
      [names.length] := by
    rw [takePartial_any (by simp [Kind.letter])]
    simp
  have hsep : "--" ∉ names := fun h => hnames "--" h rfl
  intro σ
  unfold Grammar.parseKnown
  rw [hK.run_bind]
  dsimp only
  rw [Grammar.scanLoop_done _ (optionPositions_eq_nil (by simp [Kind.letter]) 0), pure_bind]
  -- the one positional takes every name
  unfold Descriptor.grammar at hg
  rw [hargs] at hg
  cases hg
  simp only [Grammar.consumePositionals, List.map_cons, List.map_nil, List.drop_zero, hcounts]
  simp [Grammar.takePositional, dropSeparator, List.idxOf?_eq_none_iff.mpr hsep,
    Grammar.initialNamespace, Namespace.set, helpOption, OptionSpec.default?, commandNameKey]
  rfl

namespace Schema.WellBuilt

variable {s : Schema} (hs : s.WellBuilt) {gs : List GlobalOption} (hv : ∀ o ∈ gs, o.Valid)
include hs hv

/-- A line of accepted global options and nothing else matches to what they set over a fresh
top-level namespace. -/
theorem matchArgs_options (columns : Int) (terminal : Bool) :
    (s.matchArgs columns (globalTokens gs) terminal).1 =
      .ok (GlobalOption.setAll gs s.top.initialNamespace) := by
  obtain ⟨sections, listed, htop⟩ := hs.top
  unfold Schema.matchArgs
  rw [htop, topGrammar_parse_options _ _ _ _ _ _ hv]

/-- A line of accepted global options, a name of a command that takes names, and names that do
not start with a dash matches: the global attributes, the name typed under `command`, then the
names under `command` in its place and the command's canonical name. -/
theorem matchArgs_names {d : Descriptor} (hd : d ∈ s.descriptors) (hargs : d.args = .help)
    {n : String} (hn : .str n ∈ d.allNames) (hhead : n.toList.head? ≠ some '-')
    {names : List String} (hnames : ∀ a ∈ names, a.toList.head? ≠ some '-') (columns : Int)
    (terminal : Bool) :
    (s.matchArgs columns (globalTokens gs ++ n :: names) terminal).1 =
      .ok (((GlobalOption.setAll gs s.top.initialNamespace).set "command" (.str n)).merge
        [("command", .list (names.map .str)), (commandNameKey, d.name)]) := by
  obtain ⟨g, hg, hrun⟩ := hs.matchArgs_globals hd hn hhead hv names columns terminal
  rw [hrun, (Descriptor.grammar_parseKnown_names hg hargs hnames columns noSubcommand).run_bind]
  rfl

end Schema.WellBuilt

/-! ## Laying the pages out -/

/-- A grammar whose description, if it has one, is a text that does not ask for the program's
name, and that has no listing and no closing text, lays its help page out at every width. -/
theorem Matching.Grammar.formatHelp_ok {g : Grammar}
    (hdesc : ∀ v, g.description = some v → ∃ text, v = .str text ∧ Template.asksFor text "prog" = false)
    (hsections : g.sections = []) (hepilog : g.epilog = none) (columns : Int) :
    ∃ page, g.formatHelp columns = .ok page := by
  unfold Grammar.formatHelp
  rw [hsections, hepilog]
  cases hd : g.description with
  | none => exact ⟨_, rfl⟩
  | some v =>
    obtain ⟨text, rfl, hask⟩ := hdesc v hd
    simp [Help.valueBlock, Help.textBlock_unindented hask]

/-- The grammar of a command whose help is a text that does not ask for the program's name lays
its help page out at every width: it is described by its help and has no listing and no closing
text. -/
theorem Descriptor.grammar_formatHelp {d : Descriptor} {program : String} {styles : Styles}
    {g : Grammar} (hg : d.grammar program styles = .ok g)
    (hhelp : ∃ text, d.help = .str text ∧ Template.asksFor text "prog" = false) (columns : Int) :
    ∃ page, g.formatHelp columns = .ok page := by
  have hdesc : ∀ v, (if d.help.truthy then some d.help else none) = some v →
      ∃ text, v = .str text ∧ Template.asksFor text "prog" = false := by
    intro v hv
    split at hv
    · cases hv
      exact hhelp
    · cases hv
  unfold Descriptor.grammar at hg
  cases hargs : d.args <;> rw [hargs] at hg <;> cases hg <;>
    exact Grammar.formatHelp_ok hdesc rfl rfl columns

/-- Printing a grammar's help page that lays out, in help styles that resolve, stops the scan
with the page rendered. -/
theorem Matching.Grammar.helpHalt_of_formatHelp {g : Grammar} {columns : Int} {text : String}
    (h : g.formatHelp columns = .ok text) (hstyles : (Ui.helpStyles g.styles).Each Style.Resolves)
    (color : String) (terminal : Bool) :
    g.helpHalt columns color terminal =
      .exit (Console.render (.ofChoice (if columns ≥ 0 then columns.toNat else 80) color terminal)
        (helpText text (Ui.helpStyles g.styles)) "") := by
  unfold Grammar.helpHalt
  rw [h]
  dsimp only
  rw [Console.failingComponent?_eq_none _ (@Styled.stylesIn_helpText Style.Resolves
    ⟨g.styles.header, g.styles.usage, g.styles.literal, g.styles.placeholder⟩ hstyles text)]
  rfl

theorem helpStyles_default : (Ui.helpStyles {}).Each Style.Resolves := by
  decide +kernel

/-- The top-level help page of the reference catalog lays out at every width. -/
theorem referenceSchema_top_formatHelp {handlers : String → Option Handler}
    {failures : String → Option Value} {caps : CapabilitySet} {s : Schema}
    (hs : Schema.build (referenceCatalog handlers failures) caps {} = .ok s) (columns : Int) :
    ∃ text, s.top.formatHelp columns = .ok text := by
  obtain ⟨pre, post, hpage⟩ := Schema.build_top_formatHelp hs (by decide)
    (fun d hd _ => referenceDescriptors_verbatim d (referenceSchema_descriptors hs hd)) columns
  exact ⟨_, hpage⟩

/-! ## The namespace of a line that asks for help -/

section Namespaces

variable {gs : List GlobalOption} {init : Namespace} {n : String} {names : List Value}
  {name : Value}

/-- After the global options, the name typed and the names the help command takes, every
attribute but `command` and the canonical name reads what the global options set, or what it
read at the start. -/
theorem get?_namesLine {key : String} (hcommand : key ≠ "command") (hname : key ≠ commandNameKey) :
    (((GlobalOption.setAll gs init).set "command" (.str n)).merge
      [("command", .list names), (commandNameKey, name)]).get? key =
      (GlobalOption.setAll gs init).get? key := by
  rw [Namespace.get?_merge, Namespace.get?_set_ne _ _ (Ne.symm hcommand)]
  simp [Value.lookup, Ne.symm hcommand, Ne.symm hname]

theorem get?_namesLine_command :
    (((GlobalOption.setAll gs init).set "command" (.str n)).merge
      [("command", .list names), (commandNameKey, name)]).get? "command" = some (.list names) := by
  rw [Namespace.get?_merge]
  simp [Value.lookup, commandNameKey]

theorem get?_namesLine_name :
    (((GlobalOption.setAll gs init).set "command" (.str n)).merge
      [("command", .list names), (commandNameKey, name)]).get? commandNameKey = some name := by
  rw [Namespace.get?_merge]
  simp [Value.lookup]

/-- No global option sets `command`. -/
theorem get?_setAll_command (hinit : init.get? "command" = some .none) :
    (GlobalOption.setAll gs init).get? "command" = some .none := by
  rw [GlobalOption.get?_setAll, Value.lookup_eq_none, hinit]
  · rfl
  · intro e he
    obtain ⟨o, -, rfl⟩ := List.mem_map.mp he
    cases o <;> simp [GlobalOption.assignment]

theorem color_setAll (hinit : init.get? "global_color" = some .none) :
    ((GlobalOption.setAll gs init).get? "global_color").bind Value.asString? =
      GlobalOption.lastColor gs := by
  rw [GlobalOption.get?_setAll, GlobalOption.lookup_assignments_color, hinit]
  cases GlobalOption.lastColor gs <;> rfl

end Namespaces

/-! ## Running the help command -/

def Terminal.Console.helpPage (c : Console) (text : String) : String :=
  c.render (helpText text (Ui.helpStyles {})) ""

/-- The interface of a run past its configuration, in a color: the default styles, on the
run's terminal and as wide as it. -/
def Invocation.lineUi (inv : Invocation) (color : String) : Ui :=
  { color := color, columns := inv.columns, terminal := inv.terminal }

theorem Output.channel_of_writes {o o' : Output} (h : o'.writes = o.writes) (c : Channel) :
    o'.channel c = o.channel c := by
  simp [Output.channel, h]

/-- The color a run prints in once its configuration is read: the last one its global options
choose, else the configured one. -/
def Settings.colorAfter (settings : Settings) (gs : List GlobalOption) : String :=
  (GlobalOption.lastColor gs).getD settings.color

/-- A debug diagnostic writes nothing to standard output and at most one line to standard
error. -/
theorem debugLog_channels (logger message : String) (o : Output) :
    ∃ o', (debugLog logger message).run.run o = (.ok (), o') ∧ o'.stdout = o.stdout ∧
      ∃ line, o'.stderr = o.stderr ++ line := by
  refine ⟨_, debugLog_run logger message o, ?_⟩
  by_cases hdebug : o.showDebug = true
  · rw [if_pos hdebug, Output.stdout, Output.stderr, Output.channel_push, Output.channel_push,
      if_neg (by decide), if_pos rfl, String.append_empty]
    exact ⟨rfl, _, rfl⟩
  · rw [if_neg hdebug]
    exact ⟨rfl, "", String.append_empty.symm⟩

namespace Schema

variable (s : Schema) (ui : Ui)

/-- With no names, the help command prints the top-level help and succeeds. -/
theorem helpCommand_nil_run {text : String} (htext : s.top.formatHelp ui.columns = .ok text)
    (hstyles : (Ui.helpStyles s.presentation.styles).Each Style.Resolves) (o : Output) :
    (s.helpCommand ui (.help [])).run.run o = (.ok (.int 0), { o with
      writes := o.writes.push (.out, ui.console.render (helpText text (Ui.helpStyles s.presentation.styles)) "") }) := by
  simp only [helpCommand, pure_bind, htext, liftFault_ok]
  rw [Action.run_bind, ui.printHelp_run _ hstyles]
  rfl

/-- With a first name that leads to a grammar, the help command prints that grammar's help and
succeeds, whatever names follow. -/
theorem helpCommand_grammar_run {x : Value} {g : Grammar} (hg : s.grammarFor? x = .ok (some g))
    {text : String} (htext : g.formatHelp ui.columns = .ok text)
    (hstyles : (Ui.helpStyles s.presentation.styles).Each Style.Resolves) (more : List Value)
    (o : Output) :
    (s.helpCommand ui (.help (x :: more))).run.run o = (.ok (.int 0), { o with
      writes := o.writes.push (.out, ui.console.render (helpText text (Ui.helpStyles s.presentation.styles)) "") }) := by
  simp only [helpCommand, pure_bind, hg, htext, liftFault_ok]
  rw [Action.run_bind, ui.printHelp_run _ hstyles]
  rfl

end Schema

theorem Invocation.recover_usage (ui : Ui) (verbose : Bool) {e : CliError} (hkind : e.kind = .usage) :
    Invocation.recover ui verbose (.cli e) = (printUsageError ui e *> pure (.int exitUsage)) := by
  simp [Invocation.recover, hkind, ErrorKind.isInternal]
  rfl

namespace Invocation

variable {inv : Invocation} {caps : CapabilitySet} {s : Schema} {ns : Namespace}
  {settings : Settings} {warnings : List String}

/-- A matched line whose namespace carries the help command and a list of names runs the help
command on them, after the configuration and two diagnostics that write nothing to standard
output: the run ends with the command's status when it succeeds, and as `recover` says when it
fails. -/
theorem run_help (hm : inv.Matched caps s ns) (hload : inv.loaded = (.ok settings, warnings))
    (hhelp : helpDescriptor ∈ s.descriptors) {vs : List Value}
    (hcmd : ns.get? "command" = some (.list vs))
    (hname : ns.get? commandNameKey = some helpDescriptor.name) (o : Output) :
    ∃ o₁ verbose, o₁.stdout = o.stdout ∧ (∃ diagnostics, o₁.stderr = o.stderr ++ diagnostics) ∧
      (∀ r o₂, (s.helpCommand (inv.commandUi s ns settings) (.help vs)).run.run o₁ = (.ok r, o₂) →
        inv.run.run.run o = (.ok (exitStatusOf r), o₂)) ∧
      (∀ f o₂, (s.helpCommand (inv.commandUi s ns settings) (.help vs)).run.run o₁ = (.error f, o₂) →
        inv.run.run.run o = (recover (inv.commandUi s ns settings) verbose f).run.run o₂) := by
  have hs := Schema.build_wellBuilt hm.built
  obtain ⟨o₀, hsettle, hwrites⟩ := settle_run ns settings warnings o
  have hdecode : Schema.decodeArgs helpDescriptor.args ns = .ok (.help vs) := by
    simp [helpDescriptor, Schema.decodeArgs, Schema.required, hcmd, Schema.itemsOf_list]
  obtain ⟨o₁, hlog₁, hout₁, line₁, herr₁⟩ := debugLog_channels "jj_cli.cli.command"
    ("Parsed command '" ++ helpDescriptor.label ++ "'") o₀
  obtain ⟨o₂, hlog₂, hout₂, line₂, herr₂⟩ := debugLog_channels "jj_cli.cli.dispatch"
    ("Dispatching '" ++ helpDescriptor.name.display ++ "' to " ++ helpDescriptor.handler.label) o₁
  refine ⟨o₂, flagOf ns "global_verbose" || settings.verbose, ?_, ⟨line₁ ++ line₂, ?_⟩,
    fun r o₃ hrun => ?_, fun f o₃ hrun => ?_⟩
  · rw [hout₂, hout₁, Output.stdout, Output.stdout, Output.channel_of_writes hwrites]
  · rw [herr₂, herr₁, Output.stderr, Output.stderr, Output.channel_of_writes hwrites,
      String.append_assoc]
  -- both outcomes share the path to the handler; only the handler's result differs
  all_goals
    rw [run_command_result hm hload hcmd (by simp) hsettle,
      hs.parse_enabled hhelp (by simp [helpDescriptor]) hname, Action.run_bind, Schema.decodeAs,
      hdecode, liftFault_ok, pure_bind, Action.run_bind, hlog₁]
    dsimp only
    rw [Action.run_pure]
    dsimp only
    rw [hs.dispatch_enabled hhelp, Schema.invoke, Action.run_bind]
    dsimp only
    rw [hlog₂]
    dsimp only
    rw [show helpDescriptor.handler = .help from rfl, Schema.call, hrun]

end Invocation

/-! ## The help command agrees with the other help paths -/

/-- A fresh top-level namespace of the reference schema has no command and no color. -/
theorem referenceSchema_initial {handlers : String → Option Handler}
    {failures : String → Option Value} {caps : CapabilitySet} {s : Schema}
    (hs : Schema.build (referenceCatalog handlers failures) caps {} = .ok s) :
    Namespace.get? s.top.initialNamespace "command" = some .none ∧
      Namespace.get? s.top.initialNamespace "global_color" = some .none := by
  obtain ⟨sections, listed, htop⟩ := (Schema.build_wellBuilt hs).top
  rw [htop, topGrammar_initialNamespace]
  exact ⟨rfl, rfl⟩

theorem referenceSchema_top_styles {handlers : String → Option Handler}
    {failures : String → Option Value} {caps : CapabilitySet} {s : Schema}
    (hs : Schema.build (referenceCatalog handlers failures) caps {} = .ok s) : s.top.styles = {} := by
  obtain ⟨sections, listed, htop⟩ := (Schema.build_wellBuilt hs).top
  rw [htop]
  exact congrArg Presentation.styles (referenceSchema_presentation hs)

theorem referenceSchema_helpStyles {handlers : String → Option Handler}
    {failures : String → Option Value} {caps : CapabilitySet} {s : Schema}
    (hs : Schema.build (referenceCatalog handlers failures) caps {} = .ok s) :
    (Ui.helpStyles s.presentation.styles).Each Style.Resolves := by
  rw [referenceSchema_presentation hs]
  exact helpStyles_default

theorem Descriptor.grammar_styles {d : Descriptor} {program : String} {styles : Styles}
    {g : Grammar} (hg : d.grammar program styles = .ok g) : g.styles = styles := by
  unfold Descriptor.grammar at hg
  cases hargs : d.args <;> rw [hargs] at hg <;> cases hg <;> rfl

theorem console_width (columns : Nat) :
    (if (columns : Int) ≥ 0 then (columns : Int).toNat else 80) = columns := by
  rw [if_pos (Int.natCast_nonneg _), Int.toNat_natCast]

section Agreement

variable {inv : Invocation} {caps : CapabilitySet} {s : Schema} {settings : Settings}
  {warnings : List String}
  (hcaps : CapabilitySet.ofVariable inv.features = .ok caps)
  (hs : Schema.build (referenceCatalog inv.handlers inv.failures) caps {} = .ok s)
  {gs : List GlobalOption} (hv : ∀ o ∈ gs, o.Valid)
include hcaps hs hv

/-- A line of global options and `--help` prints the top-level help in the color the line
chooses, before any configuration is read, and exits with status 0. -/
theorem run_options_help {text : String} (htext : s.top.formatHelp inv.columns = .ok text) :
    ({ inv with argv := globalTokens gs ++ ["--help"] }).run =
      (emit .out ((inv.lineUi ((GlobalOption.lastColor gs).getD "auto")).console.helpPage text) *>
        throw (.exit (.int 0))) := by
  have hstyles : (Ui.helpStyles s.top.styles).Each Style.Resolves := by
    rw [referenceSchema_top_styles hs]
    exact helpStyles_default
  have hm := (Schema.build_wellBuilt hs).matchArgs_help hv (.inr rfl) [] inv.columns inv.terminal
  rw [Grammar.helpHalt_of_formatHelp htext hstyles, console_width, referenceSchema_top_styles hs] at hm
  exact @Invocation.run_page { inv with argv := globalTokens gs ++ ["--help"] } caps s hcaps hs _
    (congrArg Prod.fst hm)

variable (hload : inv.loaded = (.ok settings, warnings))
include hload

/-- A line of global options alone prints the top-level help in the color of the rest of the
run, and ends with status 0. -/
theorem run_options_only {text : String} (htext : s.top.formatHelp inv.columns = .ok text)
    (o : Output) :
    ∃ o', ({ inv with argv := globalTokens gs }).run.run.run o = (.ok (.int 0), o') ∧
      o'.stdout = o.stdout ++ (inv.lineUi (settings.colorAfter gs)).console.helpPage text := by
  obtain ⟨hcommand, hcolor⟩ := referenceSchema_initial hs
  have hm : ({ inv with argv := globalTokens gs } : Invocation).Matched caps s
      (GlobalOption.setAll gs s.top.initialNamespace) :=
    ⟨hcaps, hs, (Schema.build_wellBuilt hs).matchArgs_options hv inv.columns inv.terminal⟩
  have hui : ({ inv with argv := globalTokens gs } : Invocation).commandUi s
      (GlobalOption.setAll gs s.top.initialNamespace) settings = inv.lineUi (settings.colorAfter gs) := by
    simp only [Invocation.commandUi, Invocation.lineUi, Settings.colorAfter, color_setAll hcolor,
      referenceSchema_presentation hs]
  obtain ⟨o₀, hsettle, hwrites⟩ :=
    Invocation.settle_run (GlobalOption.setAll gs s.top.initialNamespace) settings warnings o
  refine ⟨{ o₀ with
      writes := o₀.writes.push (.out, (inv.lineUi (settings.colorAfter gs)).console.helpPage text) },
    ?_, ?_⟩
  · rw [Invocation.run_no_command hm hload (.inr (get?_setAll_command hcommand)), hui,
      seqRight_eq_bind, Action.run_bind, hsettle]
    dsimp only
    rw [htext, liftFault_ok, pure_bind, Action.run_bind,
      @Ui.printHelp_run _ _ (inv.lineUi _).styles helpStyles_default]
    rfl
  · rw [Output.stdout_push_out, Output.stdout, Output.stdout, Output.channel_of_writes hwrites]

/-- A line of global options, `help` and names, none of them starting with a dash, runs the
help command on the names in the interface of the rest of the run. -/
theorem run_help_names {names : List String} (hnames : ∀ a ∈ names, a.toList.head? ≠ some '-')
    (o : Output) :
    ∃ o₁ verbose, o₁.stdout = o.stdout ∧ (∃ diagnostics, o₁.stderr = o.stderr ++ diagnostics) ∧
      (∀ r o₂, (s.helpCommand (inv.lineUi (settings.colorAfter gs)) (.help (names.map .str))).run.run o₁ =
          (.ok r, o₂) →
        ({ inv with argv := globalTokens gs ++ "help" :: names }).run.run.run o = (.ok (exitStatusOf r), o₂)) ∧
      (∀ f o₂, (s.helpCommand (inv.lineUi (settings.colorAfter gs)) (.help (names.map .str))).run.run o₁ =
          (.error f, o₂) →
        ({ inv with argv := globalTokens gs ++ "help" :: names }).run.run.run o =
          (Invocation.recover (inv.lineUi (settings.colorAfter gs)) verbose f).run.run o₂) := by
  obtain ⟨-, hcolor⟩ := referenceSchema_initial hs
  have hhelp := helpDescriptor_mem_referenceSchema hs
  -- the line matches as the help command with the names in place of `command`
  have hm : ({ inv with argv := globalTokens gs ++ "help" :: names } : Invocation).Matched caps s
      (((GlobalOption.setAll gs s.top.initialNamespace).set "command" (.str "help")).merge
        [("command", .list (names.map .str)), (commandNameKey, helpDescriptor.name)]) :=
    ⟨hcaps, hs, (Schema.build_wellBuilt hs).matchArgs_names hv hhelp rfl
      (by simp [helpDescriptor, Descriptor.allNames]) (by decide) hnames inv.columns inv.terminal⟩
  have hui : ({ inv with argv := globalTokens gs ++ "help" :: names } : Invocation).commandUi s
      (((GlobalOption.setAll gs s.top.initialNamespace).set "command" (.str "help")).merge
        [("command", .list (names.map .str)), (commandNameKey, helpDescriptor.name)]) settings =
      inv.lineUi (settings.colorAfter gs) := by
    simp only [Invocation.commandUi, Invocation.lineUi, Settings.colorAfter,
      get?_namesLine (show "global_color" ≠ "command" by decide) (by decide), color_setAll hcolor,
      referenceSchema_presentation hs]
  rw [← hui]
  exact Invocation.run_help hm hload hhelp get?_namesLine_command get?_namesLine_name o

/-- When the help command prints a page on the names, the line of global options, `help` and
the names prints that page and ends with status 0. -/
theorem run_help_prints {names : List String} (hnames : ∀ a ∈ names, a.toList.head? ≠ some '-')
    {page : String}
    (hprint : ∀ o₁, (s.helpCommand (inv.lineUi (settings.colorAfter gs)) (.help (names.map .str))).run.run o₁ =
      (.ok (.int 0), { o₁ with writes := o₁.writes.push (.out, page) }))
    (o : Output) :
    ∃ o', ({ inv with argv := globalTokens gs ++ "help" :: names }).run.run.run o = (.ok (.int 0), o') ∧
      o'.stdout = o.stdout ++ page := by
  obtain ⟨o₁, -, hout, -, hok, -⟩ := run_help_names hcaps hs hv hload hnames o
  refine ⟨_, hok _ _ (hprint o₁), ?_⟩
  rw [Output.stdout_push_out, hout]

/-- A line of global options and `help` prints the top-level help in the color of the rest of
the run, and ends with status 0. -/
theorem run_help_alone {text : String} (htext : s.top.formatHelp inv.columns = .ok text)
    (o : Output) :
    ∃ o', ({ inv with argv := globalTokens gs ++ ["help"] }).run.run.run o = (.ok (.int 0), o') ∧
      o'.stdout = o.stdout ++ (inv.lineUi (settings.colorAfter gs)).console.helpPage text := by
  refine run_help_prints hcaps hs hv hload (List.forall_mem_nil _) (fun o₁ => ?_) o
  rw [List.map_nil, Schema.helpCommand_nil_run s (inv.lineUi (settings.colorAfter gs)) htext
      (referenceSchema_helpStyles hs),
    referenceSchema_presentation hs]
  rfl

/-- A line of global options, `help`, a name of a command and names, none of them starting
with a dash, prints the help page of the command's grammar in the color of the rest of the run,
and ends with status 0. -/
theorem run_help_command {d : Descriptor} (hd : d ∈ s.descriptors) {g : Grammar}
    (hg : d.grammar s.program s.presentation.styles = .ok g) {text : String}
    (htext : g.formatHelp inv.columns = .ok text) {n : String} (hn : .str n ∈ d.allNames)
    (hhead : n.toList.head? ≠ some '-') {names : List String}
    (hnames : ∀ a ∈ names, a.toList.head? ≠ some '-') (o : Output) :
    ∃ o', ({ inv with argv := globalTokens gs ++ "help" :: n :: names }).run.run.run o = (.ok (.int 0), o') ∧
      o'.stdout = o.stdout ++ (inv.lineUi (settings.colorAfter gs)).console.helpPage text := by
  -- the first name leads to the command's own grammar
  obtain ⟨g', hg', hfor⟩ := (Schema.build_wellBuilt hs).grammarFor?_of_mem hd
    (referenceDescriptors_truthy d (referenceSchema_descriptors hs hd)) hn
  obtain rfl : g' = g := Except.ok.inj (hg'.symm.trans hg)
  refine run_help_prints hcaps hs hv hload (List.forall_mem_cons.mpr ⟨hhead, hnames⟩)
    (fun o₁ => ?_) o
  rw [List.map_cons, Schema.helpCommand_grammar_run s (inv.lineUi (settings.colorAfter gs)) hfor
      htext (referenceSchema_helpStyles hs),
    referenceSchema_presentation hs]
  rfl

/-- A line of global options, `help`, a name no command answers to and names, none of them
starting with a dash, writes nothing to standard output; it reports the name as an
unrecognized subcommand with the hint to list the commands, after what diagnostics the
configuration asks for, and ends with status 2. -/
theorem run_help_unknown {x : String} (hx : .str x ∉ s.matchableNames)
    (hhead : x.toList.head? ≠ some '-') {names : List String}
    (hnames : ∀ a ∈ names, a.toList.head? ≠ some '-') (o : Output) :
    ∃ o' diagnostics,
      ({ inv with argv := globalTokens gs ++ "help" :: x :: names }).run.run.run o =
        (.ok (.int exitUsage), o') ∧ o'.stdout = o.stdout ∧
      o'.stderr = o.stderr ++ diagnostics ++
        (inv.lineUi (settings.colorAfter gs)).console.render
          (Styled.labelled "Error: " "bold red" ("unrecognized subcommand '" ++ x ++ "'")) ++
        (inv.lineUi (settings.colorAfter gs)).console.render
          ((Styled.labelled "Hint: " "bold cyan" "").append "Use 'jj help' to list the available commands") := by
  obtain ⟨o₁, verbose, hout, ⟨diagnostics, herr⟩, -, hfail⟩ :=
    run_help_names hcaps hs hv hload (List.forall_mem_cons.mpr ⟨hhead, hnames⟩) o
  have hhint : "Use '" ++ s.program ++ " help' to list the available commands" =
      "Use 'jj help' to list the available commands" := by
    rw [Schema.program, referenceSchema_presentation hs]
    rfl
  have hthrow := Schema.helpCommand_unknown hx (inv.lineUi (settings.colorAfter gs)) (names.map .str)
  rw [hhint] at hthrow
  obtain ⟨o', hprint, hout', herr'⟩ := @Ui.printUsageError_run (inv.lineUi (settings.colorAfter gs))
    (by show Style.Resolves "bold red"; decide +kernel) (by show Style.Resolves "bold cyan"; decide +kernel)
    { kind := .usage, message := "unrecognized subcommand '" ++ x ++ "'"
      suggestions := [.str "Use 'jj help' to list the available commands"] }
    ["Use 'jj help' to list the available commands"] rfl rfl o₁
  refine ⟨o', diagnostics, ?_, hout'.trans hout, ?_⟩
  · rw [hfail _ _ (by rw [List.map_cons, hthrow]; rfl), Invocation.recover_usage _ _ rfl, seqRight_eq_bind,
      Action.run_bind, hprint]
    rfl
  · rw [herr', herr, List.map_singleton, String.join_cons, String.join_nil, String.append_empty]
    rfl

end Agreement

/-- What it means for the help command to agree with the other help paths, on the lines of a
run that begin with the global options `gs` and whose other strings do not start with a
dash. The top-level help is printed alike by the line without a command, by `help` and by
`--help`; the help of a command alike for each of its names and whatever names follow; and a
name no command answers to, such as a name of a command the features leave out, is refused. -/
structure Invocation.HelpAgrees (inv : Invocation) (caps : CapabilitySet) (s : Schema)
    (settings : Settings) (gs : List GlobalOption) : Prop where
  /-- The top-level help lays out at the terminal's width. -/
  top_lays_out : ∃ text, s.top.formatHelp inv.columns = .ok text
  /-- The line without a command prints it in the color of the rest of the run, status 0. -/
  no_command : ∀ text, s.top.formatHelp inv.columns = .ok text → ∀ o,
    ∃ o', ({ inv with argv := globalTokens gs }).run.run.run o = (.ok (.int 0), o') ∧
      o'.stdout = o.stdout ++ (inv.lineUi (settings.colorAfter gs)).console.helpPage text
  /-- `help` prints the same page, status 0. -/
  help_alone : ∀ text, s.top.formatHelp inv.columns = .ok text → ∀ o,
    ∃ o', ({ inv with argv := globalTokens gs ++ ["help"] }).run.run.run o = (.ok (.int 0), o') ∧
      o'.stdout = o.stdout ++ (inv.lineUi (settings.colorAfter gs)).console.helpPage text
  /-- `--help` prints it in the color the line chooses, and exits with status 0. -/
  dash_help : ∀ text, s.top.formatHelp inv.columns = .ok text →
    ({ inv with argv := globalTokens gs ++ ["--help"] }).run =
      (emit .out ((inv.lineUi ((GlobalOption.lastColor gs).getD "auto")).console.helpPage text) *>
        throw (.exit (.int 0)))
  /-- The help page of every command lays out at the terminal's width. -/
  command_lays_out : ∀ d ∈ s.descriptors, ∃ g text,
    d.grammar s.program s.presentation.styles = .ok g ∧ g.formatHelp inv.columns = .ok text
  /-- `help` and any name of a command prints that page, whatever names follow, status 0. -/
  help_command : ∀ d ∈ s.descriptors, ∀ g text,
    d.grammar s.program s.presentation.styles = .ok g → g.formatHelp inv.columns = .ok text →
    ∀ n, .str n ∈ d.allNames → n.toList.head? ≠ some '-' →
    ∀ names : List String, (∀ a ∈ names, a.toList.head? ≠ some '-') → ∀ o,
      ∃ o', ({ inv with argv := globalTokens gs ++ "help" :: n :: names }).run.run.run o =
          (.ok (.int 0), o') ∧
        o'.stdout = o.stdout ++ (inv.lineUi (settings.colorAfter gs)).console.helpPage text
  /-- `help` and a name no command answers to is an unrecognized subcommand, status 2. -/
  unknown : ∀ x, .str x ∉ s.matchableNames → x.toList.head? ≠ some '-' →
    ∀ names : List String, (∀ a ∈ names, a.toList.head? ≠ some '-') → ∀ o,
      ∃ o' diagnostics,
        ({ inv with argv := globalTokens gs ++ "help" :: x :: names }).run.run.run o =
          (.ok (.int exitUsage), o') ∧ o'.stdout = o.stdout ∧
        o'.stderr = o.stderr ++ diagnostics ++
          (inv.lineUi (settings.colorAfter gs)).console.render
            (Styled.labelled "Error: " "bold red" ("unrecognized subcommand '" ++ x ++ "'")) ++
          (inv.lineUi (settings.colorAfter gs)).console.render
            ((Styled.labelled "Hint: " "bold cyan" "").append
              "Use 'jj help' to list the available commands")
  /-- No name of a command the features leave out is matchable. -/
  disabled : ∀ d ∈ referenceDescriptors inv.handlers inv.failures, d.enabledIn caps = false →
    ∀ x, .str x ∈ d.allNames → .str x ∉ s.matchableNames

/-- Every run of the reference catalog in which the configuration loads has the help command
agree with the other help paths. -/
theorem help_command_agrees {inv : Invocation} {caps : CapabilitySet} {s : Schema}
    {settings : Settings} {warnings : List String}
    (hcaps : CapabilitySet.ofVariable inv.features = .ok caps)
    (hs : Schema.build (referenceCatalog inv.handlers inv.failures) caps {} = .ok s)
    (hload : inv.loaded = (.ok settings, warnings)) {gs : List GlobalOption}
    (hv : ∀ o ∈ gs, o.Valid) :
    inv.HelpAgrees caps s settings gs where
  top_lays_out := referenceSchema_top_formatHelp hs inv.columns
  no_command _ htext := run_options_only hcaps hs hv hload htext
  help_alone _ htext := run_help_alone hcaps hs hv hload htext
  dash_help _ htext := run_options_help hcaps hs hv htext
  command_lays_out d hd := by
    obtain ⟨g, hg, -⟩ := (Schema.build_wellBuilt hs).find_grammar hd
    obtain ⟨text, htext⟩ := Descriptor.grammar_formatHelp hg
      (referenceDescriptors_summary d (referenceSchema_descriptors hs hd)) inv.columns
    exact ⟨g, text, hg, htext⟩
  help_command _ hd _ _ hg htext _ hn hhead _ hnames :=
    run_help_command hcaps hs hv hload hd hg htext hn hhead hnames
  unknown _ hx hhead _ hnames := run_help_unknown hcaps hs hv hload hx hhead hnames
  disabled _ hd hoff _ hx := disabled_not_matchable hs hd hoff hx

def homeRun : Invocation :=
  { argv := [], disk := Disk.ofEntries [] [], cwd := ["home"], userConfig := ["home", "config.toml"] }

theorem home_help_agrees :
    ∃ caps s settings warnings, CapabilitySet.ofVariable homeRun.features = .ok caps ∧
      Schema.build (referenceCatalog homeRun.handlers homeRun.failures) caps {} = .ok s ∧
      homeRun.loaded = (.ok settings, warnings) ∧ (∀ o ∈ [GlobalOption.color "always"], o.Valid) ∧
      homeRun.HelpAgrees caps s settings [.color "always"] := by
  obtain ⟨s, hs⟩ := referenceCatalog_builds homeRun.handlers homeRun.failures .standard
  have hload : homeRun.loaded = (.ok _, _) := rfl
  have hv : ∀ o ∈ [GlobalOption.color "always"], o.Valid := by
    simp [GlobalOption.Valid, GlobalOption.value?, colorChoices]
  exact ⟨_, s, _, _, rfl, hs, hload, hv, help_command_agrees rfl hs hload hv⟩

/-- `help -h` is not refused, although `-h` is no command's name: `-h` is an option of
the help command's grammar, so the line prints the help command's own page and exits with
status 0. -/
theorem help_dash_h_shows_own_help :
    ∃ s g text, Schema.build (referenceCatalog homeRun.handlers homeRun.failures) .standard {} = .ok s ∧
      .str "-h" ∉ s.matchableNames ∧
      helpDescriptor.grammar s.program s.presentation.styles = .ok g ∧ g.formatHelp 80 = .ok text ∧
      ({ homeRun with argv := ["help", "-h"] }).run =
        (emit .out ((⟨80, false⟩ : Console).helpPage text) *> throw (.exit (.int 0))) := by
  obtain ⟨s, hs⟩ := referenceCatalog_builds homeRun.handlers homeRun.failures .standard
  have hdash : Value.str "-h" ∉ s.matchableNames := by
    intro hmem
    obtain ⟨n, hn, hname⟩ := referenceSchema_matchable hs hmem
    cases hname
    exact absurd hn (by decide +kernel)
  obtain ⟨g, hg, hm⟩ := (Schema.build_wellBuilt hs).matchArgs_command_help
    (helpDescriptor_mem_referenceSchema hs)
    (show Value.str "help" ∈ helpDescriptor.allNames by simp [helpDescriptor, Descriptor.allNames])
    (by decide) (show ∀ o ∈ ([] : List GlobalOption), o.Valid from List.forall_mem_nil _)
    (by decide) (.inl rfl) (show ∀ a ∈ ([] : List String), a.toList.head? ≠ some '-' from
      List.forall_mem_nil _) 80 false
  obtain ⟨text, htext⟩ := Descriptor.grammar_formatHelp hg
    (referenceDescriptors_summary helpDescriptor
      (@helpDescriptor_mem_referenceDescriptors homeRun.handlers homeRun.failures)) 80
  have hstyles : (Ui.helpStyles g.styles).Each Style.Resolves := by
    rw [Descriptor.grammar_styles hg, referenceSchema_presentation hs]
    exact helpStyles_default
  rw [Grammar.helpHalt_of_formatHelp htext hstyles, Descriptor.grammar_styles hg,
    referenceSchema_presentation hs] at hm
  exact ⟨s, g, text, hs, hdash, hg, htext,
    @Invocation.run_page { homeRun with argv := ["help", "-h"] } .standard s rfl hs _
      (congrArg Prod.fst hm)⟩

end CommandLine
