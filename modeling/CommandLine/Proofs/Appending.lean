import CommandLine.Proofs.Outcome
import CommandLine.Proofs.HelpRendering

/-!
# Actions that only append

While a command runs, the front end writes to the two channels and reads at most whether debug
diagnostics are shown: nothing it does reads what was written before. Such an action
(`Action.Appending`) gives, from any output, the result it gives from an output that has
nothing written yet and the same debug switch, and appends to the output what it writes there
(`Output.extend`). Two runs of it from outputs that differ only in what was written before
therefore end alike, each after its own earlier text.

Binding, catching faults and looping over a list keep the property, so the interface's
printers, the error reports, the built-in commands and the way a run recovers from a fault
all only append. A plugin's body is a parameter of the model; the front end relies on it not
reading what was printed before it, and `Handler.Appending` says so of a handler.

Calling a handler whose plugin bodies only append only appends (`Schema.call_appending`),
and so does reporting the fault that ends a command (`Invocation.recover_appending`).
-/

namespace CommandLine

open Terminal

namespace Output

/-- An output followed by what a later step wrote: the writes and the warnings of both, in
order, and the debug switch as the later step left it. -/
def extend (o d : Output) : Output where
  writes := o.writes ++ d.writes
  warnings := o.warnings ++ d.warnings
  showDebug := d.showDebug

def fresh (showDebug : Bool) : Output := { showDebug := showDebug }

@[simp] theorem extend_fresh (o : Output) : o.extend (fresh o.showDebug) = o := by
  cases o
  simp [extend, fresh]

@[simp] theorem fresh_extend (b : Bool) (d : Output) : (fresh b).extend d = d := by
  cases d
  simp [extend, fresh]

@[simp] theorem showDebug_extend (o d : Output) : (o.extend d).showDebug = d.showDebug := rfl

theorem extend_extend (o d e : Output) : (o.extend d).extend e = o.extend (d.extend e) := by
  simp [extend, Array.append_assoc]

theorem channel_extend (o d : Output) (c : Channel) :
    (o.extend d).channel c = o.channel c ++ d.channel c := by
  simp [channel, extend, List.filterMap_append, String.join_append]

end Output

/-- An action that only appends: from any output it gives the result it gives from a fresh
output with the same debug switch, and appends what it wrote there. -/
def Action.Appending {α : Type} (a : Action α) : Prop :=
  ∀ o : Output, a.run.run o = Prod.map id o.extend (a.run.run (Output.fresh o.showDebug))

section Appending

variable {α β : Type}

@[simp] theorem Action.run_throw (f : Fault) (o : Output) :
    (throw f : Action α).run.run o = (.error f, o) := rfl

theorem appending_pure (a : α) : (pure a : Action α).Appending := fun o => by
  show (Except.ok a, o) = (Except.ok a, o.extend (Output.fresh o.showDebug))
  rw [Output.extend_fresh]

theorem appending_throw (f : Fault) : (throw f : Action α).Appending := fun o => by
  show (Except.error f, o) = (Except.error f, o.extend (Output.fresh o.showDebug))
  rw [Output.extend_fresh]

theorem appending_emit (c : Channel) (text : String) : (emit c text).Appending := fun o => by
  rw [emit_run, emit_run]
  simp [Prod.map, Output.extend, Output.fresh]

theorem appending_debugLog (logger message : String) : (debugLog logger message).Appending :=
  fun o => by
    rw [debugLog_run, debugLog_run]
    obtain ⟨writes, warnings, showDebug⟩ := o
    cases showDebug <;> simp [Prod.map, Output.extend, Output.fresh]

theorem appending_liftFault (r : Except Fault α) : (liftFault r).Appending := by
  cases r with
  | error f => exact appending_throw f
  | ok a => exact appending_pure a

/-- An action that only appends, run after an earlier step, runs as from what that step wrote,
with what was written before it in front. -/
theorem Action.Appending.run_extend {a : Action α} (ha : a.Appending) (o d : Output) :
    a.run.run (o.extend d) = Prod.map id o.extend (a.run.run d) := by
  rw [ha (o.extend d), ha d, Output.showDebug_extend]
  cases a.run.run (Output.fresh d.showDebug)
  simp [Prod.map, Output.extend_extend]

/-- A bind of actions that only append only appends: the second step starts where the first
left the debug switch, from whatever was written before. -/
theorem Action.Appending.bind {x : Action α} {f : α → Action β} (hx : x.Appending)
    (hf : ∀ a, (f a).Appending) : (x >>= f).Appending := fun o => by
  rw [Action.run_bind, Action.run_bind, hx o]
  rcases x.run.run (Output.fresh o.showDebug) with ⟨_ | a, d⟩
  · rfl
  · exact (hf a).run_extend o d

theorem Action.Appending.tryCatch {x : Action α} {h : Fault → Action α} (hx : x.Appending)
    (hh : ∀ e, (h e).Appending) : (tryCatch x h).Appending := fun o => by
  rw [Action.run_tryCatch, Action.run_tryCatch, hx o]
  rcases x.run.run (Output.fresh o.showDebug) with ⟨e | a, d⟩
  · exact (hh e).run_extend o d
  · rfl

/-- A loop over a list whose every round only appends only appends. -/
theorem appending_forIn {l : List α} {b : β} {f : α → β → Action (ForInStep β)}
    (hf : ∀ a b, (f a b).Appending) : (forIn l b f).Appending := by
  induction l generalizing b with
  | nil => exact appending_pure b
  | cons a l ih =>
    rw [List.forIn_cons]
    refine (hf a b).bind fun step => ?_
    cases step with
    | done b' => exact appending_pure b'
    | yield b' => exact ih

/-- Two runs of an action that only appends, from outputs that differ by text written to
standard error, end alike: with the same result, standard output and warnings, and with the
extra text in front of what the action writes to standard error. -/
theorem Action.Appending.after_errors {a : Action α} (ha : a.Appending) (o : Output)
    (texts : List String) :
    let o' : Output := { o with writes := o.writes ++ (texts.map fun t => (Channel.err, t)).toArray }
    (a.run.run o').1 = (a.run.run o).1 ∧ (a.run.run o').2.stdout = (a.run.run o).2.stdout ∧
      (a.run.run o').2.warnings = (a.run.run o).2.warnings ∧
      ∃ rest, (a.run.run o).2.stderr = o.stderr ++ rest ∧
        (a.run.run o').2.stderr = o.stderr ++ String.join texts ++ rest := by
  intro o'
  rw [ha o', ha o]
  refine ⟨rfl, ?_, rfl, (a.run.run (Output.fresh o.showDebug)).2.stderr, ?_, ?_⟩
  · simp only [Prod.map_snd, Output.stdout, Output.channel_extend, o',
      Output.channel_append_other _ (show Channel.err ≠ Channel.out by decide)]
  · rw [Prod.map_snd, Output.stderr, Output.channel_extend]
    rfl
  · simp only [Prod.map_snd, Output.stderr, Output.channel_extend, o', Output.channel_append_same]

theorem Action.run_bind_ok {x : Action α} {f : α → Action β} {o o' : Output} {a : α}
    (hx : x.run.run o = (.ok a, o')) : (x >>= f).run.run o = (f a).run.run o' := by
  rw [Action.run_bind, hx]

theorem Action.run_tryCatch_bind {x : Action α} {f : α → Action β} (h : Fault → Action β)
    {o o' : Output} {a : α} (hx : x.run.run o = (.ok a, o')) :
    (tryCatch (x >>= f) h).run.run o = (tryCatch (f a) h).run.run o' := by
  rw [Action.run_tryCatch, Action.run_tryCatch, Action.run_bind, hx]

end Appending

/-! ## The interface only appends -/

namespace Ui

variable (u : Ui)

theorem present_appending (t : Styled) (finish : String) : (u.present t finish).Appending := by
  unfold present
  split
  · exact appending_throw _
  · exact appending_pure _

theorem labelled_appending (label style message : String) :
    (u.labelled label style message).Appending :=
  (u.present_appending _ _).bind fun _ => appending_emit _ _

theorem warning_appending (message : String) : (u.warning message).Appending :=
  u.labelled_appending _ _ _

theorem hint_appending (message : String) : (u.hint message).Appending :=
  u.labelled_appending _ _ _

theorem error_appending (message : String) : (u.error message).Appending :=
  u.labelled_appending _ _ _

theorem write_appending (text : String) : (u.write text).Appending := appending_emit _ _

theorem printHelp_appending (text : String) (styles : Styles) :
    (u.printHelp text styles).Appending :=
  (u.present_appending _ _).bind fun _ => appending_emit _ _

theorem warning_run (hstyle : Style.Resolves u.styles.warning) (message : String) (o : Output) :
    (u.warning message).run.run o = (.ok (), { o with
      writes := o.writes.push (.err, u.console.render (Styled.labelled "Warning: " u.styles.warning message)) }) := by
  unfold warning labelled
  rw [u.present_of_stylesIn (Styled.stylesIn_labelled _ _ hstyle), pure_bind]
  rfl

end Ui

theorem printError_appending (u : Ui) (f : Fault) (verbose : Bool) :
    (printError u f verbose).Appending := by
  unfold printError
  split
  · exact appending_emit _ _
  · cases f with
    | cli e =>
      dsimp only
      split
      · split
        · exact appending_emit _ _
        · exact appending_throw _
      · exact appending_emit _ _
    | _ => exact appending_emit _ _

theorem printUsageError_appending (u : Ui) (e : CliError) : (printUsageError u e).Appending := by
  unfold printUsageError
  refine (u.error_appending _).bind fun _ => (appending_forIn fun s _ => ?_).bind fun _ => ?_
  · -- each hint is made, presented and written
    have hline : ∀ line, (u.present line >>= fun text => emit .err text >>= fun _ =>
        (pure (.yield ⟨⟩) : Action (ForInStep PUnit))).Appending := fun line =>
      (u.present_appending line _).bind fun _ => (appending_emit _ _).bind fun _ => appending_pure _
    dsimp only
    split
    · exact (appending_pure _).bind hline
    · exact (appending_throw _).bind hline
  · split
    · split
      · exact appending_pure _
      · exact appending_emit _ _
    · exact appending_pure _

/-! ## Handlers and recovery only append -/

/-- A handler that only appends whatever it is called with: every built-in one, a plugin whose
body does, and a renamed handler whose inner one does. -/
def Handler.Appending : Handler → Prop
  | .plugin _ _ body => ∀ ui ctx args, (body ui ctx args).Appending
  | .renamed _ _ _ inner => inner.Appending
  | _ => True

namespace Schema

variable (s : Schema)

theorem helpCommand_appending (ui : Ui) (args : Args) : (s.helpCommand ui args).Appending := by
  have hpage : ∀ r : Except Fault String,
      (liftFault r >>= fun text => ui.printHelp text s.presentation.styles >>= fun _ =>
        (pure (.int 0) : Action Value)).Appending := fun r =>
    (appending_liftFault r).bind fun _ => (ui.printHelp_appending _ _).bind fun _ => appending_pure _
  unfold helpCommand
  dsimp only
  split
  · -- the page of the program, or of the command the first name resolves to
    refine (appending_pure _).bind fun commands => ?_
    split
    · exact hpage _
    · refine (appending_liftFault _).bind fun g? => ?_
      split
      · exact hpage _
      · exact appending_throw _
  · exact appending_throw _

/-- Calling a handler that only appends only appends. -/
theorem call_appending : ∀ {h : Handler}, h.Appending → ∀ ui ctx args, (s.call h ui ctx args).Appending
  | .help, _, ui, _, args => s.helpCommand_appending ui args
  | .version, _, ui, _, _ => (ui.write_appending _).bind fun _ => appending_pure _
  | .missing .., _, _, _, _ => appending_throw _
  | .plugin _ _ _, hbody, ui, ctx, args => hbody ui ctx args
  | .renamed _ _ _ inner, hinner, ui, ctx, args =>
    (appending_forIn fun w _ => (ui.warning_appending w).bind fun _ => appending_pure _).bind
      fun _ => call_appending (show inner.Appending from hinner) ui ctx args
  | .uncallable _, _, _, _, _ => appending_throw _

end Schema

/-- Reporting the fault that ends a command only appends. -/
theorem Invocation.recover_appending (ui : Ui) (verbose : Bool) (f : Fault) :
    (Invocation.recover ui verbose f).Appending := by
  unfold Invocation.recover
  cases f with
  | exit _ => exact appending_throw _
  | interrupt => exact appending_throw _
  | cli e =>
    dsimp only
    split
    · exact (printError_appending ui _ verbose).bind fun _ =>
        (ui.hint_appending _).bind fun _ => appending_pure _
    · split
      · exact (printUsageError_appending ui e).bind fun _ => appending_pure _
      · exact (printError_appending ui _ verbose).bind fun _ => appending_pure _
  | runtime kind message =>
    exact (printError_appending ui _ verbose).bind fun _ => appending_pure _

end CommandLine
