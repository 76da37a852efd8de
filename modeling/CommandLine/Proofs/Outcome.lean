import CommandLine.Proofs.UnknownCommand
import CommandLine.Run

/-!
# How a run ends

A run goes through its phases in a fixed order: the enabled features are read, the reference
catalog is built, the line is matched, the configuration is loaded, and the command is
decoded and dispatched. The first phase that fails decides how the run ends, and no later
phase runs. This module shows it phase by phase, one equation of the run for each way a
phase can end (`run_features_error`, `run_usage_error`, `run_page`, `run_match_fault`,
`run_config_error`, `run_config_fault`, `run_no_command`, `run_command`), and shows that the
build phase never fails: the reference catalog builds whatever handlers are installed and
whatever features are enabled (`referenceCatalog_builds`).

Loading the configuration fails in two ways. A configuration error ends the run with status
1; any other fault of the loading (a file that is not UTF-8, a nesting too deep to read,
a number too long to read) is not reported and ends the run as it is.

`runs_classified` gathers the equations: every run ends as its first failing phase decides.
-/

namespace CommandLine

open Matching

/-! ## The reference catalog builds -/

section Reference

variable (handlers : String → Option Handler) (failures : String → Option Value)

def referenceDescriptors : List Descriptor :=
  referenceCommands.map (fun r => r.descriptor (referenceHandler handlers failures r.name)) ++
    [helpDescriptor, versionDescriptor]

def referenceNames : List String :=
  (referenceCommands.flatMap fun r => r.name :: r.aliases ++ r.hiddenAliases) ++ ["help", "version"]

theorem referenceNames_nodup : referenceNames.Nodup := by decide

theorem referenceCatalog_sorted :
    ∃ ds : List Descriptor, (referenceCatalog handlers failures).entries = ds.map .descriptor ∧
      ds.Perm (referenceDescriptors handlers failures) :=
  ⟨_, rfl, List.mergeSort_perm _ _⟩

theorem referenceDescriptors_allNames :
    (referenceDescriptors handlers failures).flatMap Descriptor.allNames =
      referenceNames.map .str := by
  simp [referenceDescriptors, referenceNames, ReferenceCommand.descriptor, Descriptor.allNames,
    helpDescriptor, versionDescriptor, List.flatMap_map, List.map_flatMap]

end Reference

/-- Two names that are different texts. -/
def DifferentTexts (a b : Value) : Prop := ∃ s t, a = .str s ∧ b = .str t ∧ s ≠ t

theorem DifferentTexts.symm {a b : Value} (h : DifferentTexts a b) : DifferentTexts b a := by
  obtain ⟨s, t, rfl, rfl, hst⟩ := h
  exact ⟨t, s, rfl, rfl, Ne.symm hst⟩

theorem DifferentTexts.same {a b : Value} (h : DifferentTexts a b) : a.same b = false := by
  obtain ⟨s, t, rfl, rfl, hst⟩ := h
  exact Bool.eq_false_iff.mpr fun hsame => hst (Value.str.inj ((Value.same_str_iff _ _).mp hsame))

theorem pairwise_differentTexts {l : List String} (h : l.Nodup) :
    (l.map Value.str).Pairwise DifferentTexts :=
  List.pairwise_map.mpr (h.imp fun hst => ⟨_, _, rfl, rfl, hst⟩)

theorem sublist_enabledNames (caps : CapabilitySet) (ds : List Descriptor) :
    (enabledNames caps ds).Sublist (ds.flatMap Descriptor.allNames) := by
  induction ds with
  | nil => exact List.Sublist.slnil
  | cons d ds ih =>
    unfold enabledNames at ih ⊢
    rw [List.filter_cons]
    split
    · simpa using ih.append_left d.allNames
    · simpa using ih.trans (List.sublist_append_right _ _)

/-- Whatever features are enabled, the names the reference catalog enables are distinct:
they are some of its names, in another order, and all its names are different texts. -/
theorem distinct_enabledNames {caps : CapabilitySet} {ds : List Descriptor}
    {handlers : String → Option Handler} {failures : String → Option Value}
    (hds : ds.Perm (referenceDescriptors handlers failures)) :
    Distinct (enabledNames caps ds) := by
  have hall : (ds.flatMap Descriptor.allNames).Pairwise DifferentTexts := by
    refine List.Pairwise.perm ?_ (hds.flatMap_right _).symm DifferentTexts.symm
    rw [referenceDescriptors_allNames]
    exact pairwise_differentTexts referenceNames_nodup
  exact (hall.sublist (sublist_enabledNames caps ds)).imp DifferentTexts.same

/-- Every reference descriptor can be registered, and its listed names are texts. -/
theorem registrable_of_mem_referenceDescriptors {handlers : String → Option Handler}
    {failures : String → Option Value} {d : Descriptor}
    (hd : d ∈ referenceDescriptors handlers failures) : d.Registrable ∧ d.TextNames := by
  simp only [referenceDescriptors, List.mem_append, List.mem_map, List.mem_cons, List.not_mem_nil,
    or_false] at hd
  rcases hd with ⟨r, -, rfl⟩ | rfl | rfl
  · refine ⟨⟨fun v => ?_, ?_, fun h => ArgsKind.noConfusion h⟩, ⟨r.name, rfl⟩, ?_⟩
    · cases hr : r.requires <;> simp [ReferenceCommand.descriptor, hr]
    · intro x hx
      simp only [ReferenceCommand.descriptor, Descriptor.allNames, List.mem_cons, List.mem_append,
        List.mem_map] at hx
      rcases hx with (rfl | ⟨a, -, rfl⟩) | ⟨a, -, rfl⟩ <;> rfl
    · simp [ReferenceCommand.descriptor]
  · refine ⟨⟨fun _ h => Requirement.noConfusion h, ?_, fun h => ArgsKind.noConfusion h⟩, ⟨_, rfl⟩,
      fun _ ha => absurd ha List.not_mem_nil⟩
    simp [helpDescriptor, Descriptor.allNames, Value.hashable]
  · refine ⟨⟨fun _ h => Requirement.noConfusion h, ?_, fun h => ArgsKind.noConfusion h⟩, ⟨_, rfl⟩,
      fun _ ha => absurd ha List.not_mem_nil⟩
    simp [versionDescriptor, Descriptor.allNames, Value.hashable]

/-- The reference catalog builds, whatever handlers are installed, whatever failed to load and
whatever features are enabled. -/
theorem referenceCatalog_builds (handlers : String → Option Handler)
    (failures : String → Option Value) (caps : CapabilitySet) :
    ∃ s, Schema.build (referenceCatalog handlers failures) caps {} = .ok s := by
  obtain ⟨ds, hentries, hperm⟩ := referenceCatalog_sorted handlers failures
  have hreg : ∀ d ∈ ds, d.Registrable ∧ d.TextNames := fun d hd =>
    registrable_of_mem_referenceDescriptors (hperm.mem_iff.mp hd)
  have hcat : referenceCatalog handlers failures = ⟨ds.map .descriptor⟩ := by
    cases h : referenceCatalog handlers failures
    simp_all
  rw [hcat]
  exact Schema.build_ok_of_distinct (fun d hd => (hreg d hd).1.buildable caps)
    (distinct_enabledNames hperm) fun d hd _ _ => (hreg d hd).2

/-! ## The phases of a run -/

/-- A run that catches the faults of a step runs the step, and the handler from where the step
raised. -/
theorem Action.run_tryCatch {α : Type} (x : Action α) (h : Fault → Action α) (o : Output) :
    (tryCatch x h).run.run o = match x.run.run o with
      | (.ok a, o') => (.ok a, o')
      | (.error e, o') => (h e).run.run o' := by
  show (ExceptT.tryCatch x h).run.run o = _
  simp only [ExceptT.tryCatch, ExceptT.run, ExceptT.mk, StateT.run, bind, StateT.bind]
  rcases x o with ⟨_ | a, o'⟩ <;> rfl

namespace Invocation

variable (inv : Invocation)

/-- The interface failures before the configuration are reported on: the automatic color
choice, on the run's terminal. -/
def plainUi : Ui := { columns := inv.columns, terminal := inv.terminal }

def loaded : Except Fault Settings × List String :=
  ((Settings.load inv.disk inv.cwd inv.userConfig (inv.entryDepth + 1)).run).run []

/-- What a run does once the configuration has loaded: it keeps the loading's warnings and
turns on diagnostics as `--debug` or the configured level asks. -/
def settle (ns : Namespace) (settings : Settings) (warnings : List String) : Action Unit := do
  modify fun o => { o with warnings := o.warnings ++ warnings }
  if flagOf ns "global_debug" then modify fun o => { o with showDebug := true }
  else if settings.level != "WARNING" then
    modify fun o => { o with showDebug := settings.level == "DEBUG" }

/-- The interface of a run past the configuration: the `--color` choice, else the configured
one. -/
def commandUi (s : Schema) (ns : Namespace) (settings : Settings) : Ui :=
  { color := ((ns.get? "global_color").bind Value.asString?).getD settings.color
    styles := s.presentation.styles, columns := inv.columns, terminal := inv.terminal }

/-- The context a command runs in. -/
def commandContext (caps : CapabilitySet) (s : Schema) (ns : Namespace) (settings : Settings) :
    CommandContext :=
  { argv := inv.argv, capabilities := caps, settings := settings, program := s.program
    command := (ns.get? commandNameKey).bind Value.asString? }

/-- Between the configuration and the command, a run keeps the loading's warnings and shows
debug diagnostics for `--debug`, else as a configured level other than `WARNING` says. -/
theorem settle_run_eq (ns : Namespace) (settings : Settings) (warnings : List String)
    (o : Output) :
    (settle ns settings warnings).run.run o =
      (.ok (), { o with
        warnings := o.warnings ++ warnings
        showDebug := if flagOf ns "global_debug" then true
          else if settings.level = "WARNING" then o.showDebug
          else decide (settings.level = "DEBUG") }) := by
  by_cases hdebug : flagOf ns "global_debug" = true
  · simp only [settle, hdebug, if_true]
    rfl
  · by_cases hlevel : settings.level = "WARNING"
    · simp only [settle, hdebug, hlevel, Bool.false_eq_true, if_false, if_true]
      rfl
    · have hne : (settings.level != "WARNING") = true := by simp [hlevel]
      simp only [settle, hdebug, hne, hlevel, Bool.false_eq_true, if_false, if_true]
      rfl

theorem settle_run (ns : Namespace) (settings : Settings) (warnings : List String) (o : Output) :
    ∃ o₁, (settle ns settings warnings).run.run o = (.ok (), o₁) ∧ o₁.writes = o.writes :=
  ⟨_, settle_run_eq ns settings warnings o, rfl⟩

/-- How a run ends when decoding or running the command raises: an internal error is reported
with the hint that it is a bug (status 255), a usage error as usage errors are (status 2), any
other error of the front end or of the language plainly (status 1); a request to exit and an
interruption end the run as they are. -/
def recover (ui : Ui) (verbose : Bool) (f : Fault) : Action Value :=
  match f with
  | .exit _ | .interrupt => throw f
  | .cli e =>
    if e.kind.isInternal then do
      printError ui f verbose
      ui.hint bugHint
      pure (.int exitBug)
    else if e.kind == .usage then do
      printUsageError ui e
      pure (.int exitUsage)
    else do
      printError ui f verbose
      pure (.int exitFailure)
  | .runtime .. => do
    printError ui f verbose
    pure (.int exitFailure)

/-- A run that reaches the configuration: the features are known, the catalog built and the
line matched. -/
structure Matched (caps : CapabilitySet) (s : Schema) (ns : Namespace) : Prop where
  features : CapabilitySet.ofVariable inv.features = .ok caps
  built : Schema.build (referenceCatalog inv.handlers inv.failures) caps {} = .ok s
  matched : (s.matchArgs inv.columns inv.argv inv.terminal).1 = .ok ns

variable {inv}

theorem run_features_error {e : CliError} (h : CapabilitySet.ofVariable inv.features = .error e) :
    inv.run = (printError inv.plainUi (.cli e) *> pure (.int exitFailure)) := by
  unfold Invocation.run
  simp only [h]
  rfl

section Matching

variable {caps : CapabilitySet} {s : Schema}
  (hcaps : CapabilitySet.ofVariable inv.features = .ok caps)
  (hs : Schema.build (referenceCatalog inv.handlers inv.failures) caps {} = .ok s)
include hcaps hs

theorem run_usage_error {e : CliError} (hm : (s.matchArgs inv.columns inv.argv inv.terminal).1 = .error (.usage e)) :
    inv.run = (printUsageError inv.plainUi e *> pure (.int exitUsage)) := by
  unfold Invocation.run
  simp only [hcaps, hs, hm]
  rfl

theorem run_page {page : String} (hm : (s.matchArgs inv.columns inv.argv inv.terminal).1 = .error (.exit page)) :
    inv.run = (emit .out page *> throw (.exit (.int 0))) := by
  unfold Invocation.run
  simp only [hcaps, hs, hm]
  rfl

theorem run_match_fault {f : Fault} (hm : (s.matchArgs inv.columns inv.argv inv.terminal).1 = .error (.fault f)) :
    inv.run = throw f := by
  unfold Invocation.run
  simp only [hcaps, hs, hm]

end Matching

section Configuration

variable {caps : CapabilitySet} {s : Schema} {ns : Namespace} (hm : inv.Matched caps s ns)
include hm

theorem run_config_error {e : CliError} {warnings : List String}
    (hload : inv.loaded = (.error (.cli e), warnings)) :
    inv.run = (modify (fun o => { o with warnings := o.warnings ++ warnings }) *>
      printError inv.plainUi (.cli e) (flagOf ns "global_verbose") *> pure (.int exitFailure)) := by
  unfold Invocation.run
  simp only [hm.features, hm.built, hm.matched]
  rw [show ((Settings.load inv.disk inv.cwd inv.userConfig (inv.entryDepth + 1)).run).run [] =
    (.error (.cli e), warnings) from hload]
  rfl

theorem run_config_fault {f : Fault} {warnings : List String}
    (hload : inv.loaded = (.error f, warnings)) (hf : ∀ e, f ≠ .cli e) :
    inv.run = (modify (fun o => { o with warnings := o.warnings ++ warnings }) *> throw f) := by
  unfold Invocation.run
  simp only [hm.features, hm.built, hm.matched]
  rw [show ((Settings.load inv.disk inv.cwd inv.userConfig (inv.entryDepth + 1)).run).run [] =
    (.error f, warnings) from hload]
  cases f with
  | cli e => exact absurd rfl (hf e)
  | _ => rfl

variable {settings : Settings} {warnings : List String}
  (hload : inv.loaded = (.ok settings, warnings))
include hload

theorem run_no_command (hcmd : ns.get? "command" = none ∨ ns.get? "command" = some .none) :
    inv.run = (settle ns settings warnings *> do
      (inv.commandUi s ns settings).printHelp (← liftFault (s.top.formatHelp inv.columns))
      pure (.int 0)) := by
  unfold Invocation.run
  simp only [hm.features, hm.built, hm.matched]
  rw [show ((Settings.load inv.disk inv.cwd inv.userConfig (inv.entryDepth + 1)).run).run [] =
    (.ok settings, warnings) from hload]
  -- the diagnostics are set before the help is printed, whichever way they are set
  rcases hcmd with hcmd | hcmd <;>
  · by_cases hdebug : flagOf ns "global_debug" = true <;>
    by_cases hlevel : (settings.level != "WARNING") = true <;>
    simp only [hcmd, settle, hdebug, hlevel, if_true, if_false, Bool.false_eq_true] <;> rfl

theorem run_command {v : Value} (hcmd : ns.get? "command" = some v) (hv : v ≠ .none) :
    inv.run = (settle ns settings warnings *>
      tryCatch (do
          let cmd ← s.parse ns
          let result ← s.dispatch cmd (inv.commandUi s ns settings)
            (inv.commandContext caps s ns settings)
          pure (exitStatusOf result))
        (recover (inv.commandUi s ns settings) (flagOf ns "global_verbose" || settings.verbose))) := by
  unfold Invocation.run
  simp only [hm.features, hm.built, hm.matched]
  rw [show ((Settings.load inv.disk inv.cwd inv.userConfig (inv.entryDepth + 1)).run).run [] =
    (.ok settings, warnings) from hload]
  cases v with
  | none => exact absurd rfl hv
  | _ =>
    by_cases hdebug : flagOf ns "global_debug" = true <;>
    by_cases hlevel : (settings.level != "WARNING") = true <;>
    simp only [hcmd, settle, hdebug, hlevel, if_true, if_false, Bool.false_eq_true] <;> rfl

/-- Once the command is decoded and dispatched, its result gives the status, and an error it
raises ends the run as `recover` says. -/
theorem run_command_result {v : Value} (hcmd : ns.get? "command" = some v) (hv : v ≠ .none)
    {o o₁ : Output} (hsettle : (settle ns settings warnings).run.run o = (.ok (), o₁)) :
    inv.run.run.run o =
      match (s.parse ns >>= fun cmd => s.dispatch cmd (inv.commandUi s ns settings)
          (inv.commandContext caps s ns settings)).run.run o₁ with
      | (.ok result, o₂) => (.ok (exitStatusOf result), o₂)
      | (.error f, o₂) =>
        (recover (inv.commandUi s ns settings) (flagOf ns "global_verbose" || settings.verbose) f).run.run o₂ := by
  rw [run_command hm hload hcmd hv, seqRight_eq_bind, Action.run_bind, hsettle]
  dsimp only
  have hassoc : (do
        let cmd ← s.parse ns
        let result ← s.dispatch cmd (inv.commandUi s ns settings) (inv.commandContext caps s ns settings)
        pure (exitStatusOf result)) =
      ((s.parse ns >>= fun cmd => s.dispatch cmd (inv.commandUi s ns settings)
        (inv.commandContext caps s ns settings)) >>= fun result => pure (exitStatusOf result)) := by
    simp only [bind_assoc]
  rw [Action.run_tryCatch, hassoc, Action.run_bind]
  -- the command runs once, from the settled output
  rcases (s.parse ns >>= fun cmd => s.dispatch cmd (inv.commandUi s ns settings)
    (inv.commandContext caps s ns settings)).run.run o₁ with ⟨_ | result, o₂⟩ <;> rfl

end Configuration

end Invocation

/-! ## Every run, classified -/

/-- How a run ends, by the first phase that fails. An unknown feature is reported before
anything else, whatever the line; the catalog always builds; a usage error is reported with
status 2 and a page (`--help`, `--version`) printed before an exit with status 0, before any
configuration is read; a configuration error is reported with status 1, and any other fault of
the loading ends the run unreported; a line without a command prints the top-level help and
ends with status 0; and otherwise the command runs once, from an output nothing has been
written to since the loading, and its result gives the status, or its error ends the run as
`Invocation.recover` says. -/
structure Invocation.Classified (inv : Invocation) : Prop where
  features_first : ∀ e, CapabilitySet.ofVariable inv.features = .error e →
    inv.run = (printError inv.plainUi (.cli e) *> pure (.int exitFailure))
  builds : ∀ caps, CapabilitySet.ofVariable inv.features = .ok caps →
    ∃ s, Schema.build (referenceCatalog inv.handlers inv.failures) caps {} = .ok s
  usage_error : ∀ caps s e, CapabilitySet.ofVariable inv.features = .ok caps →
    Schema.build (referenceCatalog inv.handlers inv.failures) caps {} = .ok s →
    (s.matchArgs inv.columns inv.argv inv.terminal).1 = .error (.usage e) →
    inv.run = (printUsageError inv.plainUi e *> pure (.int exitUsage))
  page : ∀ caps s page, CapabilitySet.ofVariable inv.features = .ok caps →
    Schema.build (referenceCatalog inv.handlers inv.failures) caps {} = .ok s →
    (s.matchArgs inv.columns inv.argv inv.terminal).1 = .error (.exit page) →
    inv.run = (emit .out page *> throw (.exit (.int 0)))
  match_fault : ∀ caps s f, CapabilitySet.ofVariable inv.features = .ok caps →
    Schema.build (referenceCatalog inv.handlers inv.failures) caps {} = .ok s →
    (s.matchArgs inv.columns inv.argv inv.terminal).1 = .error (.fault f) → inv.run = throw f
  config_error : ∀ caps s ns e warnings, inv.Matched caps s ns →
    inv.loaded = (.error (.cli e), warnings) →
    inv.run = (modify (fun o => { o with warnings := o.warnings ++ warnings }) *>
      printError inv.plainUi (.cli e) (flagOf ns "global_verbose") *> pure (.int exitFailure))
  config_fault : ∀ caps s ns f warnings, inv.Matched caps s ns →
    inv.loaded = (.error f, warnings) → (∀ e, f ≠ .cli e) →
    inv.run = (modify (fun o => { o with warnings := o.warnings ++ warnings }) *> throw f)
  no_command : ∀ caps s ns settings warnings, inv.Matched caps s ns →
    inv.loaded = (.ok settings, warnings) →
    (ns.get? "command" = none ∨ ns.get? "command" = some .none) →
    inv.run = (Invocation.settle ns settings warnings *> do
      (inv.commandUi s ns settings).printHelp (← liftFault (s.top.formatHelp inv.columns))
      pure (.int 0))
  command : ∀ caps s ns settings warnings v, inv.Matched caps s ns →
    inv.loaded = (.ok settings, warnings) → ns.get? "command" = some v → v ≠ .none →
    ∀ o, ∃ o₁, o₁.writes = o.writes ∧
      inv.run.run.run o =
        match (s.parse ns >>= fun cmd => s.dispatch cmd (inv.commandUi s ns settings)
            (inv.commandContext caps s ns settings)).run.run o₁ with
        | (.ok result, o₂) => (.ok (exitStatusOf result), o₂)
        | (.error f, o₂) =>
          (Invocation.recover (inv.commandUi s ns settings)
            (flagOf ns "global_verbose" || settings.verbose) f).run.run o₂

theorem runs_classified (inv : Invocation) : inv.Classified where
  features_first _ h := Invocation.run_features_error h
  builds caps _ := referenceCatalog_builds inv.handlers inv.failures caps
  usage_error _ _ _ hcaps hs hm := Invocation.run_usage_error hcaps hs hm
  page _ _ _ hcaps hs hm := Invocation.run_page hcaps hs hm
  match_fault _ _ _ hcaps hs hm := Invocation.run_match_fault hcaps hs hm
  config_error _ _ _ _ _ hm hload := Invocation.run_config_error hm hload
  config_fault _ _ _ _ _ hm hload hf := Invocation.run_config_fault hm hload hf
  no_command _ _ _ _ _ hm hload hcmd := Invocation.run_no_command hm hload hcmd
  command _ _ ns settings warnings _ hm hload hcmd hv o := by
    obtain ⟨o₁, hsettle, hwrites⟩ := Invocation.settle_run ns settings warnings o
    exact ⟨o₁, hwrites, Invocation.run_command_result hm hload hcmd hv hsettle⟩

end CommandLine
