import CommandLine.Proofs.CommandFrame
import CommandLine.Schema.Build

/-!
# The top level of a command line

A line starts with global options and goes on with the name of a command; everything after
the name belongs to the command. This module runs the top-level grammar on such a line,
`globalTokens gs ++ n :: rest`, and shows that the scan is exactly this: each global option
sets its attribute (and a color option records its choice) in one round, then the command
positional takes the name and hands `rest`, untouched, to the command's own grammar, whose
attributes are merged over the top level's (`topGrammar_parse_globals`). A string of `rest`
never sets a global option, whatever it looks like. A color option whose value is not a
choice refuses the line (`topGrammar_parse_invalid`).

The argument follows the scan. Reading a string at the top level never fails, because its
one short option string (`-h`) leaves no string two readings; so the kinds of a line are a
value, known for the strings of the global options. Each round of the scan loop at a global
option is then computed once (`scanLoop_global`), the global options by induction on their
list (`scanLoop_globals`), and the round at the command once, whatever fuel and options are
left after it (`scanLoop_commandRound`): it takes the name, and either hands the rest to the
command or, for a name that is not a choice, refuses the line.

After the global options an attribute reads the last option that sets it
(`GlobalOption.get?_setAll`), and a name no command answers to refuses the line once they have
had their effect (`topGrammar_parse_unknown`).
-/

namespace CommandLine

open Matching ScanM

/-- A global option written before the command: a flag, or a color choice given as the
next string or joined to the option by `=`. -/
inductive GlobalOption where
  | verbose
  | debug
  | color (value : String)
  | colorJoined (value : String)
  deriving DecidableEq, Repr

namespace GlobalOption

/-- The strings a global option is written as. -/
def tokens : GlobalOption → List String
  | verbose => ["--verbose"]
  | debug => ["--debug"]
  | color v => ["--color", v]
  | colorJoined v => ["--color=" ++ v]

def value? : GlobalOption → Option String
  | color v | colorJoined v => some v
  | _ => none

/-- A global option the top level accepts: a color it chooses is one of the choices. -/
def Valid (o : GlobalOption) : Prop := ∀ v, o.value? = some v → v ∈ colorChoices

instance : DecidablePred Valid := fun o =>
  match o with
  | verbose | debug => isTrue fun _ h => by cases h
  | color v | colorJoined v =>
    decidable_of_iff (v ∈ colorChoices) ⟨fun h _ hv => by cases hv; exact h, fun h => h v rfl⟩

/-- How the top level reads the first string of a global option. -/
def reading : GlobalOption → OptionMatch
  | verbose => ⟨some verboseOption, "--verbose", none⟩
  | debug => ⟨some debugOption, "--debug", none⟩
  | color _ => ⟨some colorOption, "--color", none⟩
  | colorJoined v => ⟨some colorOption, "--color", some v⟩

/-- The option of the top level a global option is. -/
def option : GlobalOption → OptionSpec
  | verbose => verboseOption
  | debug => debugOption
  | color _ | colorJoined _ => colorOption

def values : GlobalOption → List String
  | color v | colorJoined v => [v]
  | _ => []

/-- The kinds of the strings of a global option the top level accepts. -/
def kinds (o : GlobalOption) : List Kind :=
  match o with
  | color _ => [.option o.reading, .positional]
  | _ => [.option o.reading]

/-- The attribute a global option sets, with its value. -/
def assignment : GlobalOption → String × Value
  | verbose => ("global_verbose", .bool true)
  | debug => ("global_debug", .bool true)
  | color v | colorJoined v => ("global_color", .str v)

def setIn (o : GlobalOption) (ns : Namespace) : Namespace := ns.set o.assignment.1 o.assignment.2

/-- The scan state after a global option: a color option records its choice. -/
def chooseColor (o : GlobalOption) (σ : ScanState) : ScanState := { σ with color := o.value?.or σ.color }

theorem length_kinds (o : GlobalOption) : o.kinds.length = o.tokens.length := by
  cases o <;> rfl

def setAll (gs : List GlobalOption) (ns : Namespace) : Namespace :=
  gs.foldl (fun ns o => o.setIn ns) ns

def chooseColors (gs : List GlobalOption) (σ : ScanState) : ScanState :=
  gs.foldl (fun σ o => o.chooseColor σ) σ

def lastColor (gs : List GlobalOption) : Option String := (gs.filterMap value?).getLast?

theorem lastColor_cons (o : GlobalOption) (gs : List GlobalOption) :
    lastColor (o :: gs) = (lastColor gs).or o.value? := by
  unfold lastColor
  cases o with
  | verbose | debug => simp [value?]
  | color v | colorJoined v =>
    rw [List.filterMap_cons_some (f := value?) rfl, List.getLast?_cons]
    cases (gs.filterMap value?).getLast? <;> rfl

/-- After the global options, an attribute reads the last option that sets it, or what it
read before. -/
theorem get?_setAll (gs : List GlobalOption) (ns : Namespace) (key : String) :
    (setAll gs ns).get? key = (Value.lookup (gs.map assignment) key).or (ns.get? key) := by
  induction gs generalizing ns with
  | nil => rfl
  | cons o gs ih =>
    have hone : (o.setIn ns).get? key =
        (if o.assignment.1 = key then some o.assignment.2 else none).or (ns.get? key) := by
      by_cases hk : o.assignment.1 = key
      · subst hk
        simp [setIn]
      · simp [setIn, hk, Namespace.get?_set_ne _ _ hk]
    show (setAll gs (o.setIn ns)).get? key = _
    rw [ih, hone, List.map_cons, Value.lookup_cons, Option.or_assoc]

/-- A flag reads true exactly when it was given. -/
theorem lookup_assignments_flag {flag : GlobalOption} (hflag : flag.value? = none)
    (gs : List GlobalOption) :
    Value.lookup (gs.map assignment) flag.assignment.1 =
      if flag ∈ gs then some (.bool true) else none := by
  induction gs with
  | nil => rfl
  | cons o gs ih =>
    rw [List.map_cons, Value.lookup_cons, ih]
    by_cases h : flag ∈ gs <;> cases flag <;> cases hflag <;> cases o <;> simp [assignment, h]

/-- The color attribute reads the last color chosen. -/
theorem lookup_assignments_color (gs : List GlobalOption) :
    Value.lookup (gs.map assignment) "global_color" = (lastColor gs).map .str := by
  induction gs with
  | nil => rfl
  | cons o gs ih =>
    rw [List.map_cons, Value.lookup_cons, ih, lastColor_cons]
    cases o <;> cases lastColor gs <;> rfl

/-- The scan state after the global options holds the last color chosen, if any. -/
theorem chooseColors_color (gs : List GlobalOption) (σ : ScanState) :
    (chooseColors gs σ).color = (lastColor gs).or σ.color := by
  induction gs generalizing σ with
  | nil => rfl
  | cons o gs ih =>
    show (chooseColors gs (o.chooseColor σ)).color = _
    rw [ih, lastColor_cons, Option.or_assoc]
    rfl

theorem chooseColors_terminal (gs : List GlobalOption) (σ : ScanState) :
    (chooseColors gs σ).terminal = σ.terminal := by
  induction gs generalizing σ with
  | nil => rfl
  | cons o gs ih => exact ih (o.chooseColor σ)

/-- From a fresh state, the global options leave their last color chosen. -/
theorem chooseColors_fresh (gs : List GlobalOption) (terminal : Bool) :
    chooseColors gs { terminal } = ⟨lastColor gs, terminal⟩ := by
  have hcolor := chooseColors_color gs { terminal }
  have hterminal := chooseColors_terminal gs { terminal }
  rw [Option.or_none] at hcolor
  generalize chooseColors gs { terminal } = σ at hcolor hterminal
  cases σ
  simp only at hcolor hterminal
  rw [hcolor, hterminal]

end GlobalOption

def globalTokens (gs : List GlobalOption) : List String := gs.flatMap GlobalOption.tokens

theorem length_le_globalTokens (gs : List GlobalOption) : gs.length ≤ (globalTokens gs).length := by
  induction gs with
  | nil => simp [globalTokens]
  | cons o gs ih =>
    have ho : 1 ≤ o.tokens.length := by cases o <;> simp [GlobalOption.tokens]
    simp only [globalTokens, List.flatMap_cons, List.length_append, List.length_cons] at ih ⊢
    omega

theorem length_flatMap_kinds (gs : List GlobalOption) :
    (gs.flatMap GlobalOption.kinds).length = (globalTokens gs).length := by
  simp [globalTokens, List.length_flatMap, GlobalOption.length_kinds]

/-! ## Reading a line at the top level -/

section Reading

variable (prog : String) (sty : Styles) (secs : List (String × List String))
  (listed names : List String) (columns : Int)

theorem topGrammar_optionTable :
    (topGrammar prog sty secs listed names).optionTable =
      [("-h", helpOption), ("--help", helpOption), ("--version", versionOption prog),
       ("--verbose", verboseOption), ("--debug", debugOption), ("--color", colorOption)] := rfl

theorem length_filterMap_cons_le_one {α β : Type} {f : α → Option β} (a : α) {l : List α}
    (h : ∀ x ∈ l, f x = none) : ((a :: l).filterMap f).length ≤ 1 := by
  rw [List.filterMap_cons, List.filterMap_eq_nil_iff.mpr h]
  cases f a <;> simp

/-- A string has at most one reading at the top level: its only short option string is
-h, and no long option string starts with a string that is not itself long. -/
theorem topGrammar_optionReadings_length (arg : String) :
    ((topGrammar prog sty secs listed names).optionReadings arg).length ≤ 1 := by
  unfold Grammar.optionReadings
  split
  · next c0 c1 cs harg =>
    split
    · simp [topGrammar]
    · next hshort =>
      simp only [Grammar.isPrefix, topGrammar, Bool.and_eq_true, List.contains_cons,
        List.contains_nil, Bool.or_false, beq_iff_eq, not_and] at hshort
      rw [topGrammar_optionTable]
      refine length_filterMap_cons_le_one _ fun e he => ?_
      simp only [List.mem_cons, List.not_mem_nil, or_false] at he
      rcases he with rfl | rfl | rfl | rfl | rfl <;>
        simp +contextual [String.ext_iff, harg, hshort]
  · simp

/-- Reading a string at the top level never fails and never changes the scan state. -/
theorem topGrammar_readOption_yields (arg : String) :
    ∃ r, ((topGrammar prog sty secs listed names).readOption columns arg).Yields r := by
  rcases @Grammar.readOption_cases (topGrammar prog sty secs listed names) columns arg with
    ⟨r, -, heq⟩ | ⟨ms, -, hlen, hms, -⟩
  · exact ⟨r, heq ▸ yields_pure r⟩
  · -- an ambiguous string would need two readings
    have hone := topGrammar_optionReadings_length prog sty secs listed names arg
    rw [hms] at hone
    omega

/-- A string that does not start with an option character is read as a positional. -/
theorem Matching.Grammar.readOption_of_head {g : Grammar} {arg : String}
    (h : ∀ c, arg.toList.head? = some c → g.isPrefix c = false) :
    (g.readOption columns arg).Yields none := by
  unfold Grammar.readOption
  split
  · exact yields_pure _
  · next c cs harg =>
    rw [h c (by simp [harg])]
    exact yields_pure _

/-- How the top level reads the first string of each global option. -/
theorem GlobalOption.readOption_first (o : GlobalOption) :
    ((topGrammar prog sty secs listed names).readOption columns (o.tokens.headD "")).Yields
      (some o.reading) := by
  cases o with
  | verbose => exact fun _ => rfl
  | debug => exact fun _ => rfl
  | color v =>
    show ((topGrammar prog sty secs listed names).readOption columns "--color").Yields _
    exact fun _ => rfl
  | colorJoined v =>
    have hlist : ("--color=" ++ v).toList =
        '-' :: '-' :: 'c' :: 'o' :: 'l' :: 'o' :: 'r' :: '=' :: v.toList := by
      simp [String.toList_append]
    have hfor : (topGrammar prog sty secs listed names).optionFor? ("--color=" ++ v) = none := by
      simp [Grammar.optionFor?, topGrammar_optionTable, String.ext_iff, String.toList_append]
    have hsplit : splitAtEquals ("--color=" ++ v) = ("--color", true, v) := by
      simp [splitAtEquals, String.toList_append]
    have hlen : ¬("--color=" ++ v).length = 1 := by
      rw [← String.length_toList, hlist]
      simp
    intro σ
    unfold Grammar.readOption
    rw [GlobalOption.tokens, List.headD_cons, hlist]
    simp only [hfor, hsplit, hlen]
    rfl

/-! ### The kinds of a line -/

theorem Matching.Grammar.kinds_cons_yields {g : Grammar} {a : String} {rest : List String}
    {r : Option OptionMatch} {ks : List Kind} (ha : a ≠ "--")
    (hr : (g.readOption columns a).Yields r) (hrest : (g.kinds columns rest).Yields ks) :
    (g.kinds columns (a :: rest)).Yields (Kind.ofReading r :: ks) := by
  unfold Grammar.kinds
  split
  · next h => cases h
  · next h =>
    cases h
    exact absurd rfl ha
  · next h =>
    cases h
    exact hr.bind (hrest.bind (yields_pure _))

/-- Giving kinds to the strings of a line never fails at the top level, and gives each string
one kind. -/
theorem topGrammar_kinds_yields : ∀ argv : List String, ∃ ks,
    ((topGrammar prog sty secs listed names).kinds columns argv).Yields ks ∧ ks.length = argv.length
  | [] => ⟨[], yields_pure _, rfl⟩
  | a :: rest => by
    by_cases ha : a = "--"
    · subst ha
      exact ⟨_, yields_pure _, by simp⟩
    · obtain ⟨r, hr⟩ := topGrammar_readOption_yields prog sty secs listed names columns a
      obtain ⟨ks, hks, hlen⟩ := topGrammar_kinds_yields rest
      exact ⟨_, Grammar.kinds_cons_yields columns ha hr hks, by simp [hlen]⟩

theorem GlobalOption.tokens_eq_cons (o : GlobalOption) :
    o.tokens = o.tokens.headD "" :: o.tokens.tail := by
  cases o <;> rfl

theorem GlobalOption.first_ne_separator (o : GlobalOption) : o.tokens.headD "" ≠ "--" := by
  cases o with
  | verbose => decide
  | debug => decide
  | color v =>
    show "--color" ≠ "--"
    decide
  | colorJoined v => simp [GlobalOption.tokens, String.ext_iff, String.toList_append]

/-- The first string of a global option is read as that option, whatever follows it. -/
theorem GlobalOption.kinds_head (o : GlobalOption) {more : List String} {ks : List Kind}
    (h : ((topGrammar prog sty secs listed names).kinds columns (o.tokens ++ more)).Yields ks) :
    ks.head? = some (.option o.reading) := by
  obtain ⟨ks', hks', -⟩ :=
    topGrammar_kinds_yields prog sty secs listed names columns (o.tokens.tail ++ more)
  have hcons := Grammar.kinds_cons_yields columns o.first_ne_separator
    (o.readOption_first prog sty secs listed names columns) hks'
  rw [← List.cons_append, ← o.tokens_eq_cons] at hcons
  rw [h.eq hcons]
  rfl

/-- The strings of a global option the top level accepts get that option's kinds. -/
theorem GlobalOption.kinds_valid {o : GlobalOption} (hv : o.Valid) {more : List String}
    {ks : List Kind}
    (hks : ((topGrammar prog sty secs listed names).kinds columns more).Yields ks) :
    ((topGrammar prog sty secs listed names).kinds columns (o.tokens ++ more)).Yields
      (o.kinds ++ ks) := by
  have hfirst := Grammar.kinds_cons_yields columns o.first_ne_separator
    (o.readOption_first prog sty secs listed names columns) hks
  cases o with
  | color v =>
    -- the chosen color is read as a positional
    have hchoice : v ∈ colorChoices := hv v rfl
    simp only [colorChoices, List.mem_cons, List.not_mem_nil, or_false] at hchoice
    have hvalue : ((topGrammar prog sty secs listed names).readOption columns v).Yields none := by
      rcases hchoice with rfl | rfl | rfl <;> exact fun _ => rfl
    have hne : v ≠ "--" := by
      rcases hchoice with rfl | rfl | rfl <;> decide
    exact Grammar.kinds_cons_yields columns (color v).first_ne_separator
      ((color v).readOption_first prog sty secs listed names columns)
      (Grammar.kinds_cons_yields columns hne hvalue hks)
  | verbose => exact hfirst
  | debug => exact hfirst
  | colorJoined v => exact hfirst

/-- The strings of global options the top level accepts get their options' kinds. -/
theorem kinds_globals {gs : List GlobalOption} (hv : ∀ o ∈ gs, o.Valid) {more : List String}
    {ks : List Kind}
    (hks : ((topGrammar prog sty secs listed names).kinds columns more).Yields ks) :
    ((topGrammar prog sty secs listed names).kinds columns (globalTokens gs ++ more)).Yields
      (gs.flatMap GlobalOption.kinds ++ ks) := by
  induction gs with
  | nil => exact hks
  | cons o gs ih =>
    have hrest := ih fun o' ho' => hv o' (List.mem_cons_of_mem o ho')
    have hstep := GlobalOption.kinds_valid prog sty secs listed names columns
      (hv o List.mem_cons_self) hrest
    simpa [globalTokens, List.flatMap_cons, List.append_assoc] using hstep

end Reading

/-! ## Rounds of the scan at any grammar -/

section Rounds

variable {columns : Int} {sub : Subcommand} {K : List Kind} {args : Array String}
  {pattern : List Char}

theorem getElem!_of_drop {args : Array String} {p : Nat} {a : String} {more : List String}
    (h : args.toList.drop p = a :: more) : args[p]! = a := by
  have h1 : args.toList[p]? = some a := by
    rw [← List.head?_drop, h]
    rfl
  rw [Array.getElem?_toList] at h1
  simp [getElem!_def, h1]

theorem Matching.optionPositions_of_drop {K : List Kind} {p : Nat} {k : Kind} {K' : List Kind}
    (h : K.drop p = k :: K') :
    optionPositions K p = (if k.letter = 'O' then [p] else []) ++
      ((K'.zipIdx (p + 1)).filter fun e => e.1.letter = 'O').map (·.2) := by
  have hp : p < K.length := by
    have := congrArg List.length h
    simp at this
    omega
  have htake : (K.take p).length = p := by simp; omega
  unfold optionPositions
  rw [← List.take_append_drop p K, List.zipIdx_append, List.filter_append, h, htake]
  have hfirst : ((K.take p).zipIdx.filter fun (e : Kind × Nat) => decide (p ≤ e.2 ∧ e.1.letter = 'O')) = [] := by
    rw [List.filter_eq_nil_iff]
    intro e he
    have hlt : e.2 < p := by
      have := List.snd_lt_add_of_mem_zipIdx he
      rw [htake] at this
      omega
    simp only [decide_eq_true_eq, not_and]
    intro hle
    omega
  -- every later position is past p, so only the letters decide
  have hrest : (K'.zipIdx (p + 1)).filter (fun x => decide (p ≤ x.2) && decide (x.1.letter = 'O')) =
      (K'.zipIdx (p + 1)).filter fun e => decide (e.1.letter = 'O') := by
    refine List.filter_congr fun e he => ?_
    have := List.le_snd_of_mem_zipIdx he
    simp only [Bool.and_eq_right_iff_imp, decide_eq_true_eq]
    omega
  rw [hfirst, List.nil_append, List.zipIdx_cons, List.filter_cons]
  by_cases hk : k.letter = 'O' <;> simp [hk, hrest]

/-- Past the last kind there is no option. -/
theorem Matching.optionPositions_of_drop_nil {K : List Kind} {p : Nat} (h : K.drop p = []) :
    optionPositions K p = [] := by
  have hp : K.length ≤ p := List.drop_eq_nil_iff.mp h
  unfold optionPositions
  rw [List.map_eq_nil_iff, List.filter_eq_nil_iff]
  intro e he
  have := List.snd_lt_add_of_mem_zipIdx he
  simp only [decide_eq_true_eq, not_and]
  omega

/-- At an option, a round of the scan consumes that option and goes on after it. -/
theorem Matching.Grammar.scanLoop_at_option (g : Grammar) {p : Nat} {m : OptionMatch}
    {K' : List Kind} (hK : K.drop p = .option m :: K') (fuel : Nat) (st : Scan) (σ : ScanState) :
    (g.scanLoop columns sub K args pattern (fuel + 1) p st).run.run σ =
      (g.consumeOptional columns K args p st >>= fun r =>
        g.scanLoop columns sub K args pattern fuel r.1 r.2).run.run σ := by
  obtain ⟨t, hpos⟩ : ∃ t, optionPositions K p = p :: t :=
    ⟨_, by rw [optionPositions_of_drop hK]; rfl⟩
  simp only [Grammar.scanLoop, hpos, Grammar.positionalsBefore, ne_eq, not_true_eq_false, if_false,
    pure_bind, Bool.false_eq_true, Nat.lt_irrefl]

theorem Matching.Grammar.scanLoop_done (g : Grammar) {p : Nat} (hK : optionPositions K p = []) :
    ∀ (fuel : Nat) (st : Scan), g.scanLoop columns sub K args pattern fuel p st = pure (p, st)
  | 0, _ => rfl
  | _ + 1, _ => by simp [Grammar.scanLoop, hK]

/-- With no positional left, consuming positionals changes nothing. -/
theorem Matching.Grammar.consumePositionals_done (g : Grammar) {st : Scan}
    (hst : st.positionals = []) (start : Nat) :
    g.consumePositionals columns sub args pattern start st = pure (start, st) := by
  obtain ⟨ns, extras, deferred, positionals⟩ := st
  simp only at hst
  subst hst
  simp [Grammar.consumePositionals, takePartial]

theorem Matching.takePartial_command (ps : List Char) :
    takePartial [.command] ('A' :: ps) = [ps.length + 1] := by
  simp [takePartial, takeAll, Arity.takes, List.range_succ]
  omega

end Rounds

/-! ## The scan of the global options -/

section Scan

variable {prog : String} {sty : Styles} {secs : List (String × List String)}
  {listed names : List String} {columns : Int} {sub : Subcommand} {K : List Kind}
  {args : Array String} {pattern : List Char}

/-- The option of a global option reads its argument strings, and the scan goes on after
them. -/
theorem readCluster_global {o : GlobalOption} {p : Nat} {more : List String}
    {K' : List Kind} (hargs : args.toList.drop p = o.tokens ++ more) (hK : K.drop p = o.kinds ++ K') :
    ((topGrammar prog sty secs listed names).readCluster columns K args p o.option
      o.reading.string o.reading.explicit).Yields ([(o.option, o.values)], p + o.tokens.length) := by
  cases o with
  | color v =>
    -- the value is the next string, read as a positional
    have hnext : K.drop (p + 1) = .positional :: K' := by
      rw [← List.drop_drop, hK]
      rfl
    have hafter : args.toList.drop (p + 1) = v :: more := by
      rw [← List.drop_drop, hargs]
      rfl
    have hvalue : args[p + 1]! = v := getElem!_of_drop hafter
    intro σ
    simp [Grammar.readCluster, Grammar.readCluster.loop, GlobalOption.option, GlobalOption.reading,
      colorOption, OptionSpec.arity, hnext, hvalue, GlobalOption.values, GlobalOption.tokens]
    rfl
  | _ =>
    intro σ
    simp [Grammar.readCluster, Grammar.readCluster.loop, GlobalOption.option, GlobalOption.reading,
      verboseOption, debugOption, colorOption, OptionSpec.arity, GlobalOption.values, GlobalOption.tokens]
    rfl

/-- Applying a global option the top level accepts sets its attribute and records its
color. -/
theorem takeOption_global {o : GlobalOption} (hv : o.Valid) (g : Grammar) (ns : Namespace)
    (σ : ScanState) :
    (g.takeOption columns o.option o.values ns).run.run σ = (.ok (o.setIn ns), o.chooseColor σ) := by
  cases o with
  | color v | colorJoined v =>
    have hchoice : v ∈ colorChoices := hv v rfl
    simp [Grammar.takeOption, GlobalOption.option, colorOption, GlobalOption.values, hchoice,
      GlobalOption.setIn, GlobalOption.assignment, GlobalOption.chooseColor, GlobalOption.value?]
    rfl
  | verbose | debug => rfl

/-- A color that is not a choice stops the scan. -/
theorem takeOption_invalid_color (columns : Int) {v : String} (hv : v ∉ colorChoices) (g : Grammar)
    (ns : Namespace) (σ : ScanState) :
    ∃ e, (g.takeOption columns colorOption [v] ns).run.run σ = (.error e, σ) := by
  refine ⟨.usage (g.usageError columns (argumentMessage colorOption.name (invalidChoice v colorChoices))), ?_⟩
  have hc : (!colorChoices.contains v) = true := by simp [hv]
  dsimp only [Grammar.takeOption, colorOption]
  split
  · exact run_bind_error (Grammar.run_fail _ _ _ _) _
  · next h => exact absurd hc h

theorem consumeOptional_global {o : GlobalOption} (hv : o.Valid) {p : Nat} {more : List String}
    {K' : List Kind} (hargs : args.toList.drop p = o.tokens ++ more) (hK : K.drop p = o.kinds ++ K')
    (st : Scan) (σ : ScanState) :
    ((topGrammar prog sty secs listed names).consumeOptional columns K args p st).run.run σ =
      (.ok (p + o.tokens.length, { st with ns := o.setIn st.ns }), o.chooseColor σ) := by
  have hhead : K.drop p = .option o.reading :: (o.kinds.tail ++ K') := by
    rw [hK]
    cases o <;> rfl
  have hopt : o.reading.option = some o.option := by
    cases o <;> rfl
  unfold Grammar.consumeOptional
  simp only [hhead, hopt]
  rw [(readCluster_global hargs hK).run_bind]
  simp only [List.foldlM_cons, List.foldlM_nil, bind_pure]
  rw [run_bind_ok (takeOption_global hv _ _ σ)]
  rfl

/-- One round of the scan at a global option the top level accepts: the option is applied
and the scan goes on after its strings. -/
theorem scanLoop_global {o : GlobalOption} (hv : o.Valid) {p : Nat} {more : List String}
    {K' : List Kind} (hargs : args.toList.drop p = o.tokens ++ more) (hK : K.drop p = o.kinds ++ K')
    (fuel : Nat) (st : Scan) (σ : ScanState) :
    ((topGrammar prog sty secs listed names).scanLoop columns sub K args pattern (fuel + 1) p st).run.run σ =
      ((topGrammar prog sty secs listed names).scanLoop columns sub K args pattern fuel
        (p + o.tokens.length) { st with ns := o.setIn st.ns }).run.run (o.chooseColor σ) := by
  have hhead : K.drop p = .option o.reading :: (o.kinds.tail ++ K') := by
    rw [hK]
    cases o <;> rfl
  rw [Grammar.scanLoop_at_option _ hhead, run_bind_ok (consumeOptional_global hv hargs hK st σ)]

/-- The color option with no value after it stops the scan. -/
theorem Matching.Grammar.readCluster_color_fails (g : Grammar) (columns : Int) (args : Array String)
    {p : Nat} (hK : (K.drop (p + 1)).head? ≠ some .positional) (σ : ScanState) :
    ∃ e, (g.readCluster columns K args p colorOption "--color" none).run.run σ = (.error e, σ) := by
  refine ⟨.usage (g.usageError columns (argumentMessage colorOption.name "expected one argument")), ?_⟩
  simp only [Grammar.readCluster, Grammar.readCluster.loop, colorOption, OptionSpec.arity,
    Nat.one_ne_zero, if_false]
  split
  · next K'' h =>
    rw [h] at hK
    exact absurd rfl hK
  · rfl

/-- A color option whose value is not a choice stops the scan where it stands. -/
theorem consumeOptional_invalid {o : GlobalOption} (hv : ¬o.Valid) {p : Nat} {more : List String}
    {K' : List Kind} (hargs : args.toList.drop p = o.tokens ++ more)
    (hK : K.drop p = .option o.reading :: K') (st : Scan) (σ : ScanState) :
    ∃ e, ((topGrammar prog sty secs listed names).consumeOptional columns K args p st).run.run σ =
      (.error e, σ) := by
  -- only a color option can be refused, and then its value is not a choice
  have hcolor : ∀ v, o.value? = some v → o.option = colorOption ∧ o.values = [v] ∧
      v ∉ colorChoices := by
    intro v hsome
    cases o <;> cases hsome <;> exact ⟨rfl, rfl, fun h => hv fun _ h' => by cases h'; exact h⟩
  have hopt : o.reading.option = some o.option := by
    cases o <;> rfl
  -- the value's failure to be a choice, once the option has read it
  have hrefused : ∀ {stop : Nat} {v : String}, o.value? = some v →
      ((topGrammar prog sty secs listed names).readCluster columns K args p o.option
        o.reading.string o.reading.explicit).Yields ([(o.option, [v])], stop) →
      ∃ e, ((topGrammar prog sty secs listed names).consumeOptional columns K args p st).run.run σ =
        (.error e, σ) := by
    intro stop v hsome hread
    obtain ⟨hoption, -, hchoice⟩ := hcolor v hsome
    obtain ⟨e, he⟩ := takeOption_invalid_color columns hchoice
      (topGrammar prog sty secs listed names) st.ns σ
    refine ⟨e, ?_⟩
    unfold Grammar.consumeOptional
    simp only [hK, hopt]
    rw [hread.run_bind]
    simp only [List.foldlM_cons, List.foldlM_nil, bind_pure, hoption]
    exact run_bind_error he _
  cases o with
  | verbose => exact absurd (fun _ h => by cases h) hv
  | debug => exact absurd (fun _ h => by cases h) hv
  | colorJoined v => exact hrefused rfl (readCluster_global hargs hK)
  | color v =>
    by_cases hnext : (K'.head?) = some .positional
    · obtain ⟨K'', rfl⟩ : ∃ K'', K' = .positional :: K'' := by
        cases K' with
        | nil => cases hnext
        | cons k K'' =>
          cases hnext
          exact ⟨K'', rfl⟩
      exact hrefused rfl (readCluster_global hargs hK)
    · have hnone : (K.drop (p + 1)).head? ≠ some .positional := by
        rw [← List.drop_drop, hK]
        exact hnext
      obtain ⟨e, he⟩ :=
        (topGrammar prog sty secs listed names).readCluster_color_fails columns args hnone σ
      refine ⟨e, ?_⟩
      unfold Grammar.consumeOptional
      simp only [hK, hopt]
      exact run_bind_error he _

/-- A round of the scan at a color option whose value is not a choice stops the scan. -/
theorem scanLoop_invalid {o : GlobalOption} (hv : ¬o.Valid) {p : Nat} {more : List String}
    {K' : List Kind} (hargs : args.toList.drop p = o.tokens ++ more)
    (hK : K.drop p = .option o.reading :: K') (fuel : Nat) (st : Scan) (σ : ScanState) :
    ∃ e, ((topGrammar prog sty secs listed names).scanLoop columns sub K args pattern (fuel + 1)
      p st).run.run σ = (.error e, σ) := by
  obtain ⟨e, he⟩ := consumeOptional_invalid hv hargs hK st σ
  exact ⟨e, by rw [Grammar.scanLoop_at_option _ hK, run_bind_error he]⟩

/-- The scan reads global options the top level accepts one after the other, each in one
round: by induction on the options. -/
theorem scanLoop_globals {gs : List GlobalOption} (hv : ∀ o ∈ gs, o.Valid) :
    ∀ {p : Nat} {tail : List String} {K' : List Kind},
      args.toList.drop p = globalTokens gs ++ tail → K.drop p = gs.flatMap GlobalOption.kinds ++ K' →
      ∀ (fuel : Nat) (st : Scan) (σ : ScanState),
      ((topGrammar prog sty secs listed names).scanLoop columns sub K args pattern
        (fuel + gs.length) p st).run.run σ =
      ((topGrammar prog sty secs listed names).scanLoop columns sub K args pattern fuel
        (p + (globalTokens gs).length) { st with ns := GlobalOption.setAll gs st.ns }).run.run
        (GlobalOption.chooseColors gs σ) := by
  induction gs with
  | nil =>
    intro p tail K' _ _ fuel st σ
    rfl
  | cons o gs ih =>
    intro p tail K' hargs hK fuel st σ
    have hargs' : args.toList.drop p = o.tokens ++ (globalTokens gs ++ tail) := by
      rw [hargs, globalTokens, List.flatMap_cons, List.append_assoc]
      rfl
    have hK' : K.drop p = o.kinds ++ (gs.flatMap GlobalOption.kinds ++ K') := by
      rw [hK, List.flatMap_cons, List.append_assoc]
    have hnextArgs : args.toList.drop (p + o.tokens.length) = globalTokens gs ++ tail := by
      rw [← List.drop_drop, hargs', List.drop_left]
    have hnextK : K.drop (p + o.tokens.length) = gs.flatMap GlobalOption.kinds ++ K' := by
      rw [← List.drop_drop, hK', ← o.length_kinds, List.drop_left]
    have hfuel : fuel + (o :: gs).length = fuel + gs.length + 1 := by
      simp only [List.length_cons]
      omega
    rw [hfuel, scanLoop_global (hv o List.mem_cons_self) hargs' hK',
      ih (fun o' ho' => hv o' (List.mem_cons_of_mem o ho')) hnextArgs hnextK]
    have hlen : p + o.tokens.length + (globalTokens gs).length = p + (globalTokens (o :: gs)).length := by
      simp only [globalTokens, List.flatMap_cons, List.length_append]
      omega
    rw [hlen]
    rfl

/-- A color option whose value is not a choice, anywhere among the global options, stops the
scan: the options before it are read, then it fails. -/
theorem scanLoop_globals_invalid (sub : Subcommand) (pattern : List Char) {gs : List GlobalOption}
    (hinv : ∃ o ∈ gs, ¬o.Valid) :
    ∀ {p : Nat} {tail : List String},
      args.toList.drop p = globalTokens gs ++ tail →
      ((topGrammar prog sty secs listed names).kinds columns (args.toList.drop p)).Yields (K.drop p) →
      ∀ (fuel : Nat), gs.length ≤ fuel → ∀ (st : Scan) (σ : ScanState),
      ∃ e σ', ((topGrammar prog sty secs listed names).scanLoop columns sub K args pattern fuel
        p st).run.run σ = (.error e, σ') := by
  induction gs with
  | nil =>
    obtain ⟨o, ho, -⟩ := hinv
    cases ho
  | cons o gs ih =>
    intro p tail hargs hK fuel hfuel st σ
    obtain ⟨fuel, rfl⟩ : ∃ f, fuel = f + 1 := ⟨fuel - 1, by simp at hfuel; omega⟩
    have hargs' : args.toList.drop p = o.tokens ++ (globalTokens gs ++ tail) := by
      rw [hargs, globalTokens, List.flatMap_cons, List.append_assoc]
      rfl
    rw [hargs'] at hK
    by_cases hvo : o.Valid
    · -- the option is accepted: read it and go on with the rest
      obtain ⟨Kx, hKx, -⟩ := topGrammar_kinds_yields prog sty secs listed names columns
        (globalTokens gs ++ tail)
      have hKeq : K.drop p = o.kinds ++ Kx := hK.eq (GlobalOption.kinds_valid _ _ _ _ _ _ hvo hKx)
      have hnextArgs : args.toList.drop (p + o.tokens.length) = globalTokens gs ++ tail := by
        rw [← List.drop_drop, hargs', List.drop_left]
      have hnextK : K.drop (p + o.tokens.length) = Kx := by
        rw [← List.drop_drop, hKeq, ← o.length_kinds, List.drop_left]
      have hinv' : ∃ o' ∈ gs, ¬o'.Valid := by
        obtain ⟨o', ho', hno'⟩ := hinv
        rcases List.mem_cons.mp ho' with rfl | ho'
        · exact absurd hvo hno'
        · exact ⟨o', ho', hno'⟩
      rw [scanLoop_global hvo hargs' hKeq]
      exact ih hinv' hnextArgs (by rw [hnextArgs, hnextK]; exact hKx) fuel
        (by simp at hfuel; omega) _ _
    · obtain ⟨K'', hK''⟩ : ∃ K'', K.drop p = .option o.reading :: K'' := by
        have hhead := GlobalOption.kinds_head _ _ _ _ _ _ o hK
        cases hdrop : K.drop p with
        | nil => rw [hdrop] at hhead; cases hhead
        | cons k K'' =>
          rw [hdrop] at hhead
          cases hhead
          exact ⟨K'', rfl⟩
      obtain ⟨e, he⟩ := scanLoop_invalid hvo hargs' hK'' fuel st σ
      exact ⟨e, σ, he⟩

/-! ## The command -/

variable {k : Nat} {n : String} {rest : List String} {Krest : List Kind}

/-- The command positional at the name: the whole rest of the line is its one round. -/
theorem consumePositionals_commandRound (hargs : args.toList.drop k = n :: rest)
    (hK : K.drop k = .positional :: Krest) (hlen : Krest.length = rest.length)
    (hpat : pattern = K.map Kind.letter) {st : Scan} (hst : st.positionals = [commandPositional]) :
    (topGrammar prog sty secs listed names).consumePositionals columns sub args pattern k st =
      ((topGrammar prog sty secs listed names).takePositional columns sub commandPositional
        (n :: rest) st >>= fun st' => pure (k + (rest.length + 1), { st' with positionals := [] })) := by
  have hdrop : pattern.drop k = 'A' :: Krest.map Kind.letter := by
    rw [hpat, ← List.map_drop, hK]
    rfl
  have htake : (args.toList.drop k).take (rest.length + 1) = n :: rest := by
    rw [hargs]
    simp
  have harity : commandPositional.arity = .command := rfl
  simp only [Grammar.consumePositionals, hst, hdrop, List.map_cons, List.map_nil, harity,
    takePartial_command, List.length_map, hlen, List.zip_cons_cons, List.zip_nil_right,
    List.foldlM_cons, List.foldlM_nil, htake, bind_assoc, pure_bind, bind_pure]
  rfl

/-- From the command name on, the scan is the command's round: whether an option comes later
or not, and however much fuel is left, the command positional takes the rest of the line and
nothing else happens. -/
theorem scanLoop_commandRound (hargs : args.toList.drop k = n :: rest)
    (hK : K.drop k = .positional :: Krest) (hlen : Krest.length = rest.length)
    (hpat : pattern = K.map Kind.letter) {st : Scan}
    (hst : st.positionals = [commandPositional]) {β : Type} {g h : Nat × Scan → ScanM β}
    (hg : ∀ start st, g (start, st) =
      (topGrammar prog sty secs listed names).consumePositionals columns sub args pattern start st >>= h)
    (fuel : Nat) (σ : ScanState) :
    ((topGrammar prog sty secs listed names).scanLoop columns sub K args pattern fuel k st >>= g).run.run σ =
      ((topGrammar prog sty secs listed names).takePositional columns sub commandPositional
        (n :: rest) st >>= fun st' => h (k + (rest.length + 1), { st' with positionals := [] })).run.run σ := by
  have hround : (topGrammar prog sty secs listed names).consumePositionals columns sub args pattern
      k st = _ := consumePositionals_commandRound hargs hK hlen hpat hst
  -- the command's round ends the line
  have hend : optionPositions K (k + (rest.length + 1)) = [] := by
    refine optionPositions_of_drop_nil ?_
    rw [← List.drop_drop, hK, List.drop_succ_cons, List.drop_eq_nil_iff]
    omega
  -- reading the command at once
  have hnow : ((topGrammar prog sty secs listed names).consumePositionals columns sub args pattern
      k st >>= h).run.run σ = ((topGrammar prog sty secs listed names).takePositional columns sub
        commandPositional (n :: rest) st >>= fun st' =>
          h (k + (rest.length + 1), { st' with positionals := [] })).run.run σ := by
    rw [hround, bind_assoc]
    simp only [pure_bind]
  cases fuel with
  | zero =>
    simp only [Grammar.scanLoop, pure_bind, hg]
    exact hnow
  | succ fuel =>
    cases hpos : optionPositions K k with
    | nil =>
      rw [Grammar.scanLoop_done _ hpos, pure_bind, hg]
      exact hnow
    | cons next t =>
      -- an option comes later: the positionals before it are the command's round
      have hnext : k ≠ next := by
        have hmem : next ∈ optionPositions K k := by simp [hpos]
        rw [optionPositions_of_drop hK] at hmem
        simp only [Kind.letter, List.mem_append, List.mem_map, List.mem_filter] at hmem
        rcases hmem with hmem | ⟨e, ⟨he, -⟩, rfl⟩
        · simp at hmem
        · have := List.le_snd_of_mem_zipIdx he
          omega
      have hadvanced : decide (k + (rest.length + 1) > k) = true := by simp
      simp only [Grammar.scanLoop, hpos, Grammar.positionalsBefore, ne_eq, hnext, not_false_eq_true,
        if_true, hround, bind_assoc, pure_bind, hadvanced, Grammar.scanLoop_done _ hend, hg]
      -- after the round no positional is left
      simp only [Grammar.consumePositionals_done, pure_bind]

/-! ## The line -/

/-- A line of global options the top level accepts, a name that does not start with a dash,
and any strings after it parses as the options' effect on the scan state followed by the
command positional's one round on the name and the rest; extra strings of that round refuse
the line. -/
theorem topGrammar_parse_round {gs : List GlobalOption} (hv : ∀ o ∈ gs, o.Valid) {n : String}
    (hhead : n.toList.head? ≠ some '-') (rest : List String) (σ : ScanState) :
    ((topGrammar prog sty secs listed names).parse columns sub (globalTokens gs ++ n :: rest)).run.run σ =
      ((topGrammar prog sty secs listed names).takePositional columns sub commandPositional (n :: rest)
        { ns := GlobalOption.setAll gs (topGrammar prog sty secs listed names).initialNamespace,
          positionals := [commandPositional] } >>= fun st =>
        if (st.extras ++ st.deferred).isEmpty then pure st.ns
        else (topGrammar prog sty secs listed names).fail columns
          ("unrecognized arguments: " ++ " ".intercalate (st.extras ++ st.deferred))).run.run
        (GlobalOption.chooseColors gs σ) := by
  obtain ⟨Krest, hKrest, hlen⟩ := topGrammar_kinds_yields prog sty secs listed names columns rest
  have hname : ((topGrammar prog sty secs listed names).readOption columns n).Yields none :=
    Grammar.readOption_of_head columns fun c hc => by
      have hc' : c ≠ '-' := fun h => hhead (h ▸ hc)
      simp [Grammar.isPrefix, topGrammar, hc']
  have hne : n ≠ "--" := by
    rintro rfl
    exact hhead rfl
  have hK := kinds_globals prog sty secs listed names columns hv
    (Grammar.kinds_cons_yields columns hne hname hKrest)
  -- the global options take one round each, then the command takes the rest
  have hfuel : (globalTokens gs ++ n :: rest).length + 1 =
      ((globalTokens gs ++ n :: rest).length + 1 - gs.length) + gs.length := by
    have := length_le_globalTokens gs
    simp only [List.length_append, List.length_cons]
    omega
  have hargs : (globalTokens gs ++ n :: rest).toArray.toList.drop 0 = globalTokens gs ++ n :: rest := by
    simp
  have hargsCommand : (globalTokens gs ++ n :: rest).toArray.toList.drop
      (0 + (globalTokens gs).length) = n :: rest := by
    simp
  have hKCommand : (gs.flatMap GlobalOption.kinds ++ Kind.ofReading none :: Krest).drop
      (0 + (globalTokens gs).length) = .positional :: Krest := by
    rw [Nat.zero_add, ← length_flatMap_kinds, List.drop_left]
    rfl
  unfold Grammar.parse Grammar.parseKnown
  rw [bind_assoc, hK.run_bind]
  dsimp only
  rw [bind_assoc, run_bind, hfuel, scanLoop_globals hv hargs rfl, ← run_bind,
    scanLoop_commandRound hargsCommand hKCommand hlen rfl rfl (fun _ _ => by rw [bind_assoc])]
  -- nothing is left after the command, and the scan collected no extra string of its own
  have hdrop : (globalTokens gs ++ n :: rest).drop (0 + (globalTokens gs).length + (rest.length + 1)) =
      [] := by
    simp
  simp only [pure_bind, hdrop, List.append_nil]
  rfl

/-- A line of global options the top level accepts, a command name that does not start with a
dash, and any strings after it parses as the options' effect on the scan state followed by the
command's grammar on the rest of the line; the command's attributes are merged over the global
ones and `command`, and extra strings of the command refuse the line. -/
theorem topGrammar_parse_globals {gs : List GlobalOption} (hv : ∀ o ∈ gs, o.Valid) {n : String}
    (hn : n ∈ names) (hhead : n.toList.head? ≠ some '-') (rest : List String) (σ : ScanState) :
    ((topGrammar prog sty secs listed names).parse columns sub (globalTokens gs ++ n :: rest)).run.run σ =
      (sub n rest >>= fun r =>
        if r.2.isEmpty then
          pure ((GlobalOption.setAll gs (topGrammar prog sty secs listed names).initialNamespace).set
            "command" (.str n) |>.merge r.1)
        else (topGrammar prog sty secs listed names).fail columns
          ("unrecognized arguments: " ++ " ".intercalate r.2)).run.run (GlobalOption.chooseColors gs σ) := by
  have hcontains : names.contains n = true := List.elem_eq_true_of_mem hn
  have harity : commandPositional.arity = .command := rfl
  have hnames : (topGrammar prog sty secs listed names).commandNames = names := rfl
  rw [topGrammar_parse_round hv hhead rest σ]
  simp only [Grammar.takePositional, harity, List.headD_cons, List.tail_cons, hnames, hcontains,
    Bool.not_true, Bool.false_eq_true, if_false, bind_assoc, pure_bind, List.nil_append]
  rfl

/-- A line of global options the top level accepts and a name that does not start with a dash
and that no command answers to is refused, whatever follows: the name is not a choice of the
command positional. The color options have had their effect. -/
theorem topGrammar_parse_unknown {gs : List GlobalOption} (hv : ∀ o ∈ gs, o.Valid) {n : String}
    (hn : n ∉ names) (hhead : n.toList.head? ≠ some '-') (rest : List String) (σ : ScanState) :
    ((topGrammar prog sty secs listed names).parse columns sub (globalTokens gs ++ n :: rest)).run.run σ =
      (.error (.usage ((topGrammar prog sty secs listed names).usageError columns
        (argumentMessage "<COMMAND>" (invalidChoice n names)))), GlobalOption.chooseColors gs σ) := by
  have hcontains : names.contains n = false := by simpa using hn
  have harity : commandPositional.arity = .command := rfl
  have hnames : (topGrammar prog sty secs listed names).commandNames = names := rfl
  rw [topGrammar_parse_round hv hhead rest σ]
  simp only [Grammar.takePositional, harity, List.headD_cons, hnames, hcontains, Bool.not_false,
    if_true, Grammar.fail, bind_assoc]
  rfl

/-- A line whose global options include a color that is not a choice is refused, whatever
follows them. -/
theorem topGrammar_parse_invalid {gs : List GlobalOption} (hinv : ∃ o ∈ gs, ¬o.Valid)
    (tail : List String) (σ : ScanState) :
    ∃ e σ', ((topGrammar prog sty secs listed names).parse columns sub
      (globalTokens gs ++ tail)).run.run σ = (.error e, σ') := by
  obtain ⟨K, hK, -⟩ := topGrammar_kinds_yields prog sty secs listed names columns
    (globalTokens gs ++ tail)
  have hargs : (globalTokens gs ++ tail).toArray.toList.drop 0 = globalTokens gs ++ tail := by
    simp
  have hinvariant : ((topGrammar prog sty secs listed names).kinds columns
      ((globalTokens gs ++ tail).toArray.toList.drop 0)).Yields (K.drop 0) := by
    rw [hargs]
    exact hK
  have hfuel : gs.length ≤ (globalTokens gs ++ tail).length + 1 := by
    have := length_le_globalTokens gs
    simp only [List.length_append]
    omega
  obtain ⟨e, σ', he⟩ := scanLoop_globals_invalid sub (K.map Kind.letter) hinv
    hargs hinvariant _ hfuel
    { ns := (topGrammar prog sty secs listed names).initialNamespace,
      positionals := (topGrammar prog sty secs listed names).positionals } σ
  refine ⟨e, σ', ?_⟩
  unfold Grammar.parse Grammar.parseKnown
  rw [bind_assoc, hK.run_bind]
  dsimp only
  rw [bind_assoc, run_bind_error he]

end Scan

end CommandLine
