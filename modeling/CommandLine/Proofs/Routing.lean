import CommandLine.Proofs.TopLevel
import CommandLine.Proofs.EnabledCommands
import CommandLine.Schema.Invoke

/-!
# Routing a command line to its command

A built schema decodes the namespace of a matched line by the canonical name it carries and
dispatches a command by its name, both through one lookup among the enabled commands. This
module shows that the lookup routes exactly. A line of global options, a name of an enabled
command and anything after it that matches carries the command's canonical name: the command's
grammar starts from it and no argument stores over it (`matchArgs_commandName`). Decoding then
takes that command, unless its canonical name is nothing, which decoding reads as no command
at all; dispatching a command carrying a canonical name always takes its command. Every other
name is an unknown command (or has no handler), or raises the type error of a name that cannot
be a key.

A command that takes its arguments raw has a grammar with no option, not even a help option,
and one positional taking every string; after the global options and its name, every string
of the line, whatever it looks like, reaches the command in order, and the global attributes
come from the options before the name alone.

`Schema.RoutesExactly` says how a schema routes lines and commands, and
`command_lines_route_exactly` that every built schema does; `raw_arguments_reach_handler`
follows a raw command's line to its handler. A command named by nothing is matched but not
decoded (`nameless_command_is_unknown`, `nameless_raw_command_is_unknown`).
-/

namespace CommandLine

open Matching ScanM

/-! ## Running an action -/

/-- A bind of actions runs its first step, and the second from the output the first leaves,
unless the first raises. -/
theorem Action.run_bind {α β : Type} (x : Action α) (f : α → Action β) (o : Output) :
    (x >>= f).run.run o = match x.run.run o with
      | (.ok a, o') => (f a).run.run o'
      | (.error e, o') => (.error e, o') := by
  simp only [bind, ExceptT.bind, ExceptT.run, ExceptT.mk, StateT.run, StateT.bind,
    ExceptT.bindCont]
  rcases x o with ⟨_ | a, o'⟩ <;> rfl

/-- A debug diagnostic never raises; it is written only when diagnostics are shown. -/
theorem debugLog_run (logger message : String) (o : Output) :
    (debugLog logger message).run.run o =
      (.ok (), if o.showDebug then
        { o with writes := o.writes.push (.err, "[DEBUG " ++ logger ++ "] " ++ message ++ "\n") }
        else o) := by
  obtain ⟨writes, warnings, showDebug⟩ := o
  cases showDebug <;> rfl

@[simp] theorem liftFault_ok {α : Type} (a : α) : liftFault (.ok a) = pure a := rfl

@[simp] theorem liftFault_error {α : Type} (f : Fault) : (liftFault (.error f) : Action α) = throw f :=
  rfl

namespace Schema

variable {s : Schema} {name : Value}

theorem get?_unhashable (h : name.hashable = false) : s.get? name = .error (Fault.unhashable name) := by
  simp [Schema.get?, h]

theorem get?_eq_none (hh : name.hashable = true) (h : ∀ d ∈ s.descriptors, d.name.same name = false) :
    s.get? name = .ok none := by
  simp [Schema.get?, hh, find?_same_eq_none (fun d : Descriptor => d.name) h]

/-- A key that some enabled command's name is the same as finds the first such command. -/
theorem get?_eq_some (hh : name.hashable = true) (h : ∃ d ∈ s.descriptors, d.name.same name = true) :
    ∃ d ∈ s.descriptors, d.name.same name = true ∧ s.get? name = .ok (some d) := by
  obtain ⟨d, hfind⟩ : ∃ d, s.descriptors.find? (·.name.same name) = some d := by
    obtain ⟨d, hd, hsame⟩ := h
    exact Option.isSome_iff_exists.mp (List.find?_isSome.mpr ⟨d, hd, hsame⟩)
  have hsame := List.find?_some hfind
  exact ⟨d, List.mem_of_find?_eq_some hfind, hsame, by simp [Schema.get?, hh, hfind]⟩

/-! ## Decoding a namespace -/

theorem parse_nothing {ns : Namespace} (h : commandNameIn ns = .none) :
    s.parse ns = throw (.cli (unknownCommand .none)) := by
  unfold parse
  dsimp only
  rw [h]
  rfl

/-- Decoding a namespace that carries a name looks the name up among the enabled commands. -/
theorem parse_named {ns : Namespace} (h : commandNameIn ns ≠ .none) :
    s.parse ns = (liftFault (s.get? (commandNameIn ns)) >>= fun descriptor =>
      match descriptor with
      | none => throw (.cli (unknownCommand (commandNameIn ns)))
      | some d => decodeAs d ns) := by
  unfold parse
  dsimp only
  split
  · next hnone => exact absurd hnone h
  · rfl

/-- A namespace that carries no name, or a name no enabled command has, is an unknown command. -/
theorem parse_unknown {ns : Namespace}
    (h : commandNameIn ns = .none ∨ ((commandNameIn ns).hashable = true ∧
      ∀ d ∈ s.descriptors, d.name.same (commandNameIn ns) = false)) :
    s.parse ns = throw (.cli (unknownCommand (commandNameIn ns))) := by
  by_cases hnone : commandNameIn ns = .none
  · rw [parse_nothing hnone, hnone]
  · rcases h with h | ⟨hh, hdiff⟩
    · exact absurd h hnone
    · rw [parse_named hnone, get?_eq_none hh hdiff]
      rfl

/-- A namespace whose name cannot be a key raises the type error of the lookup. -/
theorem parse_unhashable {ns : Namespace} (h : (commandNameIn ns).hashable = false) :
    s.parse ns = throw (Fault.unhashable (commandNameIn ns)) := by
  -- nothing can be a key, so the name is something
  have hnone : commandNameIn ns ≠ .none := fun hnone => by
    rw [hnone] at h
    cases h
  rw [parse_named hnone, get?_unhashable h]
  rfl

/-- A namespace whose name is the same as an enabled command's is decoded as the first such
command. -/
theorem parse_same {ns : Namespace} (hnone : commandNameIn ns ≠ .none)
    (hh : (commandNameIn ns).hashable = true)
    (h : ∃ d ∈ s.descriptors, d.name.same (commandNameIn ns) = true) :
    ∃ d ∈ s.descriptors, d.name.same (commandNameIn ns) = true ∧ s.parse ns = decodeAs d ns := by
  obtain ⟨d, hd, hsame, hget⟩ := get?_eq_some hh h
  refine ⟨d, hd, hsame, ?_⟩
  rw [parse_named hnone, hget]
  rfl

theorem itemsOf_error {v : Value} {f : Fault} (h : itemsOf v = .error f) : f.IsRuntime := by
  unfold itemsOf Value.iterate at h
  split at h
  · split at h <;> cases h
    exact ⟨_, _, rfl⟩
  · cases h

theorem required_error {ns : Namespace} {key : String} {f : Fault} (h : required ns key = .error f) :
    f.IsRuntime := by
  unfold required at h
  split at h
  · cases h
  · cases h
    exact ⟨_, _, rfl⟩

/-- An argument schema fails to decode only with a runtime error. -/
theorem decodeArgs_error {kind : ArgsKind} {ns : Namespace} {f : Fault}
    (h : decodeArgs kind ns = .error f) : f.IsRuntime := by
  cases kind with
  | raw =>
    rcases Except.bind_eq_error.mp h with h | ⟨_, -, h⟩
    · exact itemsOf_error h
    · cases h
  | none => cases h
  | help =>
    rcases Except.bind_eq_error.mp h with h | ⟨_, -, h⟩
    · exact required_error h
    · rcases Except.bind_eq_error.mp h with h | ⟨_, -, h⟩
      · exact itemsOf_error h
      · cases h
  | flag =>
    rcases Except.bind_eq_error.mp h with h | ⟨_, -, h⟩
    · exact required_error h
    · cases h
  | bad | half =>
    cases h
    exact ⟨_, _, rfl⟩

/-- Decoding raises only the runtime errors of the argument schema, never an unknown command. -/
theorem decodeAs_error {d : Descriptor} {ns : Namespace} {o o' : Output} {f : Fault}
    (h : (decodeAs d ns).run.run o = (.error f, o')) : f.IsRuntime := by
  unfold decodeAs at h
  cases hdec : decodeArgs d.args ns with
  | ok args =>
    rw [hdec, liftFault_ok, pure_bind, Action.run_bind, debugLog_run] at h
    cases h
  | error f' =>
    rw [hdec] at h
    cases h
    exact decodeArgs_error hdec

/-! ## Dispatching a command -/

theorem dispatch_unknown {cmd : Command} {ui : Ui} {ctx : CommandContext}
    (hh : cmd.name.hashable = true) (h : ∀ d ∈ s.descriptors, d.name.same cmd.name = false) :
    s.dispatch cmd ui ctx = throw (.cli (noHandler cmd.name)) := by
  unfold dispatch
  rw [get?_eq_none hh h]
  rfl

theorem dispatch_unhashable {cmd : Command} {ui : Ui} {ctx : CommandContext}
    (h : cmd.name.hashable = false) : s.dispatch cmd ui ctx = throw (Fault.unhashable cmd.name) := by
  unfold dispatch
  rw [get?_unhashable h]
  rfl

/-- A command whose name is the same as an enabled command's goes to the first such command's
handler. -/
theorem dispatch_same {cmd : Command} {ui : Ui} {ctx : CommandContext}
    (hh : cmd.name.hashable = true) (h : ∃ d ∈ s.descriptors, d.name.same cmd.name = true) :
    ∃ d ∈ s.descriptors, d.name.same cmd.name = true ∧ s.dispatch cmd ui ctx = s.invoke d cmd ui ctx := by
  obtain ⟨d, hd, hsame, hget⟩ := get?_eq_some hh h
  refine ⟨d, hd, hsame, ?_⟩
  unfold dispatch
  rw [hget]
  rfl

end Schema

/-! ## Matching a line of a built schema -/

/-- A command's grammar keeps its canonical name: no argument stores into the attribute that
holds it, and a fresh namespace holds the name there. -/
theorem Descriptor.grammar_keeps_name {d : Descriptor} {program : String} {styles : Styles}
    {g : Grammar} (h : d.grammar program styles = .ok g) :
    commandNameKey ∉ g.dests ∧ Value.lookup g.initialNamespace commandNameKey = some d.name := by
  unfold Descriptor.grammar at h
  cases hargs : d.args <;> rw [hargs] at h <;> cases h <;>
    simp [Grammar.dests, Grammar.initialNamespace, commandNameKey, helpOption, OptionSpec.dest?,
      Value.lookup]

namespace Schema.WellBuilt

variable {s : Schema} (hs : s.WellBuilt) {d : Descriptor} {n : String}
include hs

/-- A namespace carrying the canonical name of an enabled command, other than nothing, is
decoded as that command. -/
theorem parse_enabled (hd : d ∈ s.descriptors) (hname : d.name ≠ .none) {ns : Namespace}
    (h : ns.get? commandNameKey = some d.name) : s.parse ns = decodeAs d ns := by
  have hcarried : commandNameIn ns = d.name := by simp [commandNameIn, h]
  rw [parse_named (hcarried ▸ hname), hcarried, hs.get?_of_mem hd]
  rfl

theorem dispatch_enabled (hd : d ∈ s.descriptors) (args : Args) (ui : Ui) (ctx : CommandContext) :
    s.dispatch ⟨d.name, args⟩ ui ctx = s.invoke d ⟨d.name, args⟩ ui ctx := by
  unfold Schema.dispatch
  rw [hs.get?_of_mem hd]
  rfl

theorem subcommand_eq (hd : d ∈ s.descriptors) (hn : .str n ∈ d.allNames) :
    ∃ g, d.grammar s.program s.presentation.styles = .ok g ∧
      ∀ columns rest, s.subcommand columns n rest = g.parseKnown columns noSubcommand rest := by
  obtain ⟨g, hg, hfind⟩ := hs.find_grammar hd
  refine ⟨g, hg, fun columns rest => ?_⟩
  simp [Schema.subcommand, hs.find_name hd hn, hfind]

theorem mem_commandNames (hd : d ∈ s.descriptors) (hn : .str n ∈ d.allNames) :
    n ∈ s.names.filterMap (·.1.asString?) :=
  List.mem_filterMap.mpr ⟨(.str n, d.name), hs.mem_names hd hn, rfl⟩

/-- Matching a line of accepted global options, a name of an enabled command and the rest is
the command's grammar on the rest, after the global options: its attributes are merged over
the global ones, and extra strings of the command refuse the line. -/
theorem matchArgs_globals (hd : d ∈ s.descriptors) (hn : .str n ∈ d.allNames)
    (hhead : n.toList.head? ≠ some '-') {gs : List GlobalOption} (hv : ∀ o ∈ gs, o.Valid)
    (rest : List String) (columns : Int) (terminal : Bool) :
    ∃ g, d.grammar s.program s.presentation.styles = .ok g ∧
      s.matchArgs columns (globalTokens gs ++ n :: rest) terminal =
        (g.parseKnown columns noSubcommand rest >>= fun r =>
          if r.2.isEmpty then
            pure ((GlobalOption.setAll gs s.top.initialNamespace).set "command" (.str n) |>.merge r.1)
          else s.top.fail columns ("unrecognized arguments: " ++ " ".intercalate r.2)).run.run
        (GlobalOption.chooseColors gs { terminal }) := by
  obtain ⟨g, hg, hsub⟩ := hs.subcommand_eq hd hn
  obtain ⟨sections, listed, htop⟩ := hs.top
  refine ⟨g, hg, ?_⟩
  unfold Schema.matchArgs
  rw [htop, topGrammar_parse_globals hv (hs.mem_commandNames hd hn) hhead rest { terminal }, hsub]

/-- A line whose global options include a color that is not a choice does not match. -/
theorem matchArgs_invalid {gs : List GlobalOption} (hinv : ∃ o ∈ gs, ¬o.Valid)
    (tail : List String) (columns : Int) (terminal : Bool) :
    ∃ e σ, s.matchArgs columns (globalTokens gs ++ tail) terminal = (.error e, σ) := by
  obtain ⟨sections, listed, htop⟩ := hs.top
  unfold Schema.matchArgs
  rw [htop]
  exact topGrammar_parse_invalid hinv tail { terminal }

/-- A line of global options, a name of an enabled command and anything after it that matches
carries the command's canonical name: the command's grammar starts from it, keeps it, and
its attributes are merged last. -/
theorem matchArgs_commandName (hd : d ∈ s.descriptors) (hn : .str n ∈ d.allNames)
    (hhead : n.toList.head? ≠ some '-') {gs : List GlobalOption} {rest : List String}
    {columns : Int} {terminal : Bool} {ns : Namespace}
    (hmatch : (s.matchArgs columns (globalTokens gs ++ n :: rest) terminal).1 = .ok ns) :
    ns.get? commandNameKey = some d.name := by
  by_cases hv : ∀ o ∈ gs, o.Valid
  · obtain ⟨g, hg, hrun⟩ := hs.matchArgs_globals hd hn hhead hv rest columns terminal
    obtain ⟨hkey, hinit⟩ := Descriptor.grammar_keeps_name hg
    rw [hrun, run_bind] at hmatch
    cases hsub : (g.parseKnown columns noSubcommand rest).run.run
      (GlobalOption.chooseColors gs { terminal })
      with
    | mk result σ =>
      rw [hsub] at hmatch
      cases result with
      | error e => cases hmatch
      | ok r =>
        obtain ⟨subNs, extras⟩ := r
        -- the command's grammar hands back its canonical name
        have hkeep : Value.lookup subNs commandNameKey = some d.name := by
          rw [← hinit]
          exact Grammar.parseKnown_keeps (noSubcommand_avoids _) hkey rest _ _ _ hsub
        dsimp only at hmatch
        split at hmatch
        · cases hmatch
          rw [Namespace.get?_merge, hkeep]
          rfl
        · cases hmatch
  · obtain ⟨e, σ, herr⟩ := hs.matchArgs_invalid (by simpa using hv) (n :: rest) columns terminal
    rw [herr] at hmatch
    cases hmatch

end Schema.WellBuilt

/-! ## A raw command -/

theorem Matching.takePartial_rest (p : List Char) : takePartial [.rest] p = [p.length] := by
  simp [takePartial, takeAll, Arity.takes, List.range_succ]

/-- Kinds with no option have no option position. -/
theorem Matching.optionPositions_eq_nil {K : List Kind} (h : ∀ k ∈ K, k.letter ≠ 'O') (p : Nat) :
    optionPositions K p = [] := by
  unfold optionPositions
  rw [List.map_eq_nil_iff, List.filter_eq_nil_iff]
  intro e he
  have := h e.1 (List.fst_mem_of_mem_zipIdx he)
  simp [this]

section Raw

variable {d : Descriptor} {program : String} {styles : Styles} {g : Grammar} {columns : Int}

/-- The grammar of a raw command: no option, not even a help option, and one positional that
takes everything. -/
theorem rawGrammar_eq (hraw : d.args = .raw) (hg : d.grammar program styles = .ok g) :
    g = { prog := program ++ " " ++ d.name.display
          description := if d.help.truthy then some d.help else none
          defaults := [(commandNameKey, d.name)]
          styles := styles
          prefixChars := ['\x00']
          positionals := [⟨"argv", "ARGS", .rest, .bare⟩] } := by
  unfold Descriptor.grammar at hg
  rw [hraw] at hg
  cases hg
  rfl

/-- A raw command's grammar reads no string of a line as an option. -/
theorem rawGrammar_kinds (hraw : d.args = .raw) (hg : d.grammar program styles = .ok g) (columns : Int) :
    ∀ rest : List String, (∀ a ∈ rest, a.toList.head? ≠ some '\x00') →
      ∃ K, (g.kinds columns rest).Yields K ∧ K.length = rest.length ∧ ∀ k ∈ K, k.letter ≠ 'O'
  | [], _ => ⟨[], yields_pure _, rfl, by simp⟩
  | a :: rest, hrest => by
    by_cases ha : a = "--"
    · subst ha
      refine ⟨_, yields_pure _, by simp, ?_⟩
      simp [Kind.letter]
    · have hread : (g.readOption columns a).Yields none :=
        Grammar.readOption_of_head columns fun c hc => by
          have hc' : c ≠ '\x00' := fun h => hrest a List.mem_cons_self (h ▸ hc)
          rw [rawGrammar_eq hraw hg]
          simp [Grammar.isPrefix, hc']
      obtain ⟨K, hK, hlen, hnone⟩ :=
        rawGrammar_kinds hraw hg columns rest fun a' ha' => hrest a' (List.mem_cons_of_mem a ha')
      refine ⟨_, Grammar.kinds_cons_yields columns ha hread hK, by simp [hlen], ?_⟩
      intro k hk
      rcases List.mem_cons.mp hk with rfl | hk
      · simp [Kind.ofReading, Kind.letter]
      · exact hnone k hk

/-- A raw command's grammar takes every string of its line, in order, as its arguments: the
namespace holds them, with the canonical name, and nothing is extra. -/
theorem rawGrammar_parseKnown (hraw : d.args = .raw) (hg : d.grammar program styles = .ok g)
    {rest : List String} (hrest : ∀ a ∈ rest, a.toList.head? ≠ some '\x00') :
    (g.parseKnown columns noSubcommand rest).Yields
      ([("argv", .list (rest.map .str)), (commandNameKey, d.name)], []) := by
  obtain ⟨K, hK, hlen, hnone⟩ := rawGrammar_kinds hraw hg columns rest hrest
  intro σ
  unfold Grammar.parseKnown
  rw [hK.run_bind]
  dsimp only
  rw [Grammar.scanLoop_done _ (optionPositions_eq_nil hnone 0), pure_bind, rawGrammar_eq hraw hg]
  have htake : (rest.map Value.str).take rest.length = rest.map Value.str :=
    List.take_of_length_le (by simp)
  simp [Grammar.consumePositionals, takePartial_rest, Grammar.takePositional, hlen, htake,
    Grammar.initialNamespace, Namespace.set, commandNameKey]
  rfl

end Raw

/-! ## Routing -/

/-- How a schema routes command lines and commands by the name they carry. A line of global
options, a name of an enabled command and anything after it that matches carries the command's
canonical name, and decodes as that command when it is named by something; a command carrying
an enabled command's canonical name goes to its handler. Decoding raises an unknown-command
error exactly for a namespace naming nothing or a key that no enabled command has, and
dispatching raises a dispatch error exactly for such a key; a name that cannot be a key raises
the type error of the lookup, and any other name goes to an enabled command with the same
name. -/
structure Schema.RoutesExactly (s : Schema) : Prop where
  carries_name : ∀ d ∈ s.descriptors, ∀ n, .str n ∈ d.allNames → n.toList.head? ≠ some '-' →
    ∀ gs rest columns terminal ns,
      (s.matchArgs columns (globalTokens gs ++ n :: rest) terminal).1 = .ok ns →
      ns.get? commandNameKey = some d.name
  routes : ∀ d ∈ s.descriptors, d.name ≠ .none → ∀ n, .str n ∈ d.allNames →
    n.toList.head? ≠ some '-' → ∀ gs rest columns terminal ns,
    (s.matchArgs columns (globalTokens gs ++ n :: rest) terminal).1 = .ok ns →
      s.parse ns = Schema.decodeAs d ns
  dispatches : ∀ d ∈ s.descriptors, ∀ args ui ctx,
    s.dispatch ⟨d.name, args⟩ ui ctx = s.invoke d ⟨d.name, args⟩ ui ctx
  parse_unknown : ∀ ns, Schema.commandNameIn ns = .none ∨
    ((Schema.commandNameIn ns).hashable = true ∧
      ∀ d ∈ s.descriptors, d.name.same (Schema.commandNameIn ns) = false) →
    s.parse ns = throw (.cli (Schema.unknownCommand (Schema.commandNameIn ns)))
  parse_same : ∀ ns, Schema.commandNameIn ns ≠ .none → (Schema.commandNameIn ns).hashable = true →
    (∃ d ∈ s.descriptors, d.name.same (Schema.commandNameIn ns) = true) →
    ∃ d ∈ s.descriptors, d.name.same (Schema.commandNameIn ns) = true ∧
      s.parse ns = Schema.decodeAs d ns
  parse_unhashable : ∀ ns, (Schema.commandNameIn ns).hashable = false →
    s.parse ns = throw (Fault.unhashable (Schema.commandNameIn ns))
  decode_runtime : ∀ d ns o o' f, (Schema.decodeAs d ns).run.run o = (.error f, o') → f.IsRuntime
  dispatch_unknown : ∀ cmd ui ctx, cmd.name.hashable = true →
    (∀ d ∈ s.descriptors, d.name.same cmd.name = false) →
    s.dispatch cmd ui ctx = throw (.cli (Schema.noHandler cmd.name))
  dispatch_same : ∀ cmd ui ctx, cmd.name.hashable = true →
    (∃ d ∈ s.descriptors, d.name.same cmd.name = true) →
    ∃ d ∈ s.descriptors, d.name.same cmd.name = true ∧ s.dispatch cmd ui ctx = s.invoke d cmd ui ctx
  dispatch_unhashable : ∀ cmd ui ctx, cmd.name.hashable = false →
    s.dispatch cmd ui ctx = throw (Fault.unhashable cmd.name)

theorem command_lines_route_exactly {cat : Catalog} {caps : CapabilitySet} {pres : Presentation}
    {verify : Bool} {s : Schema} (hbuild : Schema.build cat caps pres verify = .ok s) :
    s.RoutesExactly := by
  have hs := Schema.build_wellBuilt hbuild
  exact {
    carries_name := fun _ hd _ hn hhead _ _ _ _ _ hmatch => hs.matchArgs_commandName hd hn hhead hmatch
    routes := fun _ hd hname _ hn hhead _ _ _ _ _ hmatch =>
      hs.parse_enabled hd hname (hs.matchArgs_commandName hd hn hhead hmatch)
    dispatches := fun _ hd => hs.dispatch_enabled hd
    parse_unknown := fun _ h => Schema.parse_unknown h
    parse_same := fun _ hnone hh h => Schema.parse_same hnone hh h
    parse_unhashable := fun _ h => Schema.parse_unhashable h
    decode_runtime := fun _ _ _ _ _ h => Schema.decodeAs_error h
    dispatch_unknown := fun _ _ _ hh h => Schema.dispatch_unknown hh h
    dispatch_same := fun _ _ _ hh h => Schema.dispatch_same hh h
    dispatch_unhashable := fun _ _ _ h => Schema.dispatch_unhashable h }

/-- A command with a raw argument schema and one alias routes exactly. -/
theorem log_catalog_routes_exactly :
    ∃ s, Schema.build
        ⟨[.descriptor { name := .str "log", handler := .version, args := .raw, aliases := [.str "l"] }]⟩
        .standard {} = .ok s ∧ s.RoutesExactly := by
  have hbuild : Schema.build
      ⟨[.descriptor { name := .str "log", handler := .version, args := .raw, aliases := [.str "l"] }]⟩
      .standard {} = .ok _ := rfl
  exact ⟨_, hbuild, command_lines_route_exactly hbuild⟩

/-- A hidden command named by nothing, with the alias [x]: its alias matches, and the namespace
carries its canonical name, but decoding takes nothing for the name of no command. -/
theorem nameless_command_is_unknown :
    ∃ s ns, Schema.build
        ⟨[.descriptor { name := .none, handler := .version, args := .none, aliases := [.str "x"],
                        hidden := true }]⟩ .standard {} = .ok s ∧
      (s.matchArgs 80 ["x"] false).1 = .ok ns ∧ ns.get? commandNameKey = some .none ∧
      s.parse ns = throw (.cli (Schema.unknownCommand .none)) :=
  ⟨_, _, rfl, rfl, rfl, rfl⟩

/-! ## Raw arguments -/

theorem Schema.itemsOf_list (items : List Value) : Schema.itemsOf (.list items) = pure items := by
  cases items <;> rfl

/-- A raw command decodes the strings its namespace holds as its arguments. -/
theorem Schema.decodeAs_raw {d : Descriptor} {ns : Namespace} {items : List Value}
    (hraw : d.args = .raw) (h : ns.get? "argv" = some (.list items)) :
    Schema.decodeAs d ns = (do
      debugLog "jj_cli.cli.command" ("Parsed command '" ++ d.label ++ "'")
      pure ⟨d.name, .raw items⟩) := by
  have hdecode : Schema.decodeArgs d.args ns = .ok (.raw items) := by
    rw [hraw, Schema.decodeArgs, h, Option.getD_some, Schema.itemsOf_list]
    rfl
  rw [Schema.decodeAs, hdecode, liftFault_ok, pure_bind]

theorem topGrammar_initialNamespace (program : String) (styles : Styles)
    (sections : List (String × List String)) (listed commandNames : List String) :
    (topGrammar program styles sections listed commandNames).initialNamespace =
      [("global_verbose", .bool false), ("global_debug", .bool false), ("global_color", .none),
        ("command", .none)] := rfl

/-- What a line of global options, a command name and the strings after it match to when the
command takes them raw: each flag is on exactly when it was given, the color is the last one
chosen (nothing when none was), and the strings are the command's arguments, in order. -/
structure RawMatch (gs : List GlobalOption) (rest : List String) (ns : Namespace) : Prop where
  verbose : ns.get? "global_verbose" = some (.bool (decide (.verbose ∈ gs)))
  debug : ns.get? "global_debug" = some (.bool (decide (.debug ∈ gs)))
  color : ns.get? "global_color" = some (((GlobalOption.lastColor gs).map .str).getD .none)
  argv : ns.get? "argv" = some (.list (rest.map .str))

/-- After the global options, the typed name and a raw command's attributes, every other
attribute reads what the global options set, or what it read at the start. -/
theorem get?_rawLine {gs : List GlobalOption} {init : Namespace} {n : String} {items : List Value}
    {name : Value} {key : String} (hargv : key ≠ "argv") (hname : key ≠ commandNameKey)
    (hcommand : key ≠ "command") :
    (((GlobalOption.setAll gs init).set "command" (.str n)).merge
        [("argv", .list items), (commandNameKey, name)]).get? key =
      (Value.lookup (gs.map GlobalOption.assignment) key).or (init.get? key) := by
  rw [Namespace.get?_merge, Namespace.get?_set_ne _ _ (Ne.symm hcommand), GlobalOption.get?_setAll]
  simp [Value.lookup, Ne.symm hargv, Ne.symm hname]

/-- After the global options, a flag of the top level reads true exactly when it is one of
them. -/
theorem get?_rawLine_flag {gs : List GlobalOption} {n : String} {items : List Value}
    {name : Value} (program : String) (styles : Styles) (sections : List (String × List String))
    (listed commandNames : List String) {flag : GlobalOption} (hflag : flag = .verbose ∨ flag = .debug) :
    (((GlobalOption.setAll gs (topGrammar program styles sections listed commandNames).initialNamespace).set
        "command" (.str n)).merge [("argv", .list items), (commandNameKey, name)]).get?
      flag.assignment.1 = some (.bool (decide (flag ∈ gs))) := by
  have hvalue : flag.value? = none := by
    rcases hflag with rfl | rfl <;> rfl
  -- both flags start off and are set to true by their option
  rcases hflag with rfl | rfl <;>
  · rw [get?_rawLine (by decide) (by decide) (by decide), GlobalOption.lookup_assignments_flag hvalue,
      topGrammar_initialNamespace]
    split <;> simp [*, Namespace.get?, GlobalOption.assignment]

/-- The namespace of a raw command's line, read attribute by attribute: the command's own
attributes win, the global ones come from the options before the command. -/
theorem rawMatch_merge (gs : List GlobalOption) (rest : List String) (program : String)
    (styles : Styles) (sections : List (String × List String)) (listed commandNames : List String)
    (n : String) (name : Value) :
    RawMatch gs rest (((GlobalOption.setAll gs
      (topGrammar program styles sections listed commandNames).initialNamespace).set "command"
        (.str n)).merge [("argv", .list (rest.map .str)), (commandNameKey, name)]) where
  verbose := get?_rawLine_flag program styles sections listed commandNames (.inl rfl)
  debug := get?_rawLine_flag program styles sections listed commandNames (.inr rfl)
  color := by
    rw [get?_rawLine (by decide) (by decide) (by decide), GlobalOption.lookup_assignments_color,
      topGrammar_initialNamespace]
    cases GlobalOption.lastColor gs <;> simp [Namespace.get?]
  argv := by
    rw [Namespace.get?_merge]
    simp [Value.lookup, commandNameKey]

/-- A line of accepted global options, a name of an enabled raw command and strings that do
not start with a NUL character matches: the strings are the command's arguments, and the color
is the last one chosen. -/
theorem Schema.WellBuilt.matchArgs_raw {s : Schema} (hs : s.WellBuilt) {d : Descriptor}
    (hd : d ∈ s.descriptors) (hraw : d.args = .raw) {n : String} (hn : .str n ∈ d.allNames)
    (hhead : n.toList.head? ≠ some '-') {gs : List GlobalOption} (hv : ∀ o ∈ gs, o.Valid)
    {rest : List String} (hrest : ∀ a ∈ rest, a.toList.head? ≠ some '\x00') (columns : Int)
    (terminal : Bool) :
    s.matchArgs columns (globalTokens gs ++ n :: rest) terminal =
      (.ok (((GlobalOption.setAll gs s.top.initialNamespace).set "command" (.str n)).merge
        [("argv", .list (rest.map .str)), (commandNameKey, d.name)]),
        ⟨GlobalOption.lastColor gs, terminal⟩) := by
  obtain ⟨g, hg, hrun⟩ := hs.matchArgs_globals hd hn hhead hv rest columns terminal
  rw [(rawGrammar_parseKnown hraw hg hrest).run_bind] at hrun
  exact hrun.trans (by rw [GlobalOption.chooseColors_fresh]; rfl)

theorem raw_arguments_reach_handler {cat : Catalog} {caps : CapabilitySet} {pres : Presentation}
    {verify : Bool} {s : Schema} (hbuild : Schema.build cat caps pres verify = .ok s)
    {d : Descriptor} (hd : d ∈ s.descriptors) (hraw : d.args = .raw) (hname : d.name ≠ .none)
    {n : String} (hn : .str n ∈ d.allNames) (hhead : n.toList.head? ≠ some '-')
    {gs : List GlobalOption} (hv : ∀ o ∈ gs, o.Valid)
    {rest : List String} (hrest : ∀ a ∈ rest, a.toList.head? ≠ some '\x00') (columns : Int)
    (terminal : Bool) :
    ∃ ns, s.matchArgs columns (globalTokens gs ++ n :: rest) terminal =
        (.ok ns, ⟨GlobalOption.lastColor gs, terminal⟩) ∧
      RawMatch gs rest ns ∧
      s.parse ns = (do
        debugLog "jj_cli.cli.command" ("Parsed command '" ++ d.label ++ "'")
        pure ⟨d.name, .raw (rest.map .str)⟩) := by
  have hs := Schema.build_wellBuilt hbuild
  obtain ⟨sections, listed, htop⟩ := hs.top
  have hmatch := rawMatch_merge gs rest s.program s.presentation.styles sections listed
    (s.names.filterMap (·.1.asString?)) n d.name
  rw [← htop] at hmatch
  refine ⟨_, hs.matchArgs_raw hd hraw hn hhead hv hrest columns terminal, hmatch, ?_⟩
  rw [hs.parse_enabled hd hname ?_, Schema.decodeAs_raw hraw hmatch.argv]
  rw [Namespace.get?_merge]
  simp [Value.lookup, commandNameKey]

/-- The strings after the alias of a raw command, even the separator, a help option and an
empty string, reach the command in order; the options before the alias set the globals. -/
theorem raw_log_line_reaches_handler :
    ∃ s, Schema.build
        ⟨[.descriptor { name := .str "log", handler := .version, args := .raw, aliases := [.str "l"] }]⟩
        .standard {} = .ok s ∧
      ∃ ns, s.matchArgs 80 (globalTokens [.verbose, .color "always"] ++ ["l", "--", "-h", ""]) false =
          (.ok ns, ⟨GlobalOption.lastColor [.verbose, .color "always"], false⟩) ∧
        RawMatch [.verbose, .color "always"] ["--", "-h", ""] ns ∧
        s.parse ns = (do
          debugLog "jj_cli.cli.command" "Parsed command 'log'"
          pure ⟨.str "log", .raw [.str "--", .str "-h", .str ""]⟩) := by
  have hbuild : Schema.build
      ⟨[.descriptor { name := .str "log", handler := .version, args := .raw, aliases := [.str "l"] }]⟩
      .standard {} = .ok _ := rfl
  exact ⟨_, hbuild, raw_arguments_reach_handler hbuild (List.mem_singleton.mpr rfl) rfl
    (by simp) (by simp [Descriptor.allNames]) (by decide) (by decide) (by decide) 80 false⟩

/-- A hidden raw command named by nothing, with the alias [x]: the line matches, but decoding
takes nothing for the name of no command. -/
theorem nameless_raw_command_is_unknown :
    ∃ s ns, Schema.build
        ⟨[.descriptor { name := .none, handler := .version, args := .raw, aliases := [.str "x"],
                        hidden := true }]⟩ .standard {} = .ok s ∧
      (s.matchArgs 80 ["x", "-h"] false).1 = .ok ns ∧
      ns.get? "argv" = some (.list [.str "-h"]) ∧
      s.parse ns = throw (.cli (Schema.unknownCommand .none)) :=
  ⟨_, _, rfl, rfl, rfl, rfl⟩

end CommandLine
