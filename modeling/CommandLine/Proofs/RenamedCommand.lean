import CommandLine.Proofs.Appending
import CommandLine.Proofs.HelpCommand
import CommandLine.Proofs.ErrorReports

/-!
# A renamed command runs as the new one, after two warnings

A command kept under an old name has a renamed handler: called, it writes two deprecation
warnings and then calls the handler of the new name. This module compares two runs of the
command line that differ in one installed handler: in the first the command's handler is the
renamed one, in the second the handler it wraps (`Invocation.install`).

The build does not read handlers: a catalog whose descriptors differ from another's in their
handlers only builds into the same schema, but for those handlers (`Schema.build_rehandle`).
So both runs match the line alike, load the same configuration and decode the same command.
With debug diagnostics off, each run then calls its handler from the same output; the renamed
one first writes its warnings and calls the wrapped handler from there. Everything after the
warnings only appends (`Action.Appending`), so the two runs end alike, the first with the
warnings in front of what the second writes to standard error. Two provisos come from the
program itself. The wrapped handler, installed in its own right, is taken only when it is true
as a condition (`referenceHandler`). And a traceback printed under `--verbose` shows the
wrapper's own frame, which the model's tracebacks leave out, so standard error is compared only
on runs that report errors without one.

What the warnings look like depends on the console: the plain lines on a console without
colors at least one column wide that shows them as they are; the same lines with the label
in its style's escape sequence when the console writes colors; nothing at all on a console
without a single column.
-/

namespace CommandLine

open Matching Terminal

/-! ## The build does not read handlers -/

namespace Descriptor

def rehandle (g : Descriptor → Handler) (d : Descriptor) : Descriptor := { d with handler := g d }

variable (g : Descriptor → Handler) (d : Descriptor)

@[simp] theorem rehandle_name : (d.rehandle g).name = d.name := rfl
@[simp] theorem rehandle_handler : (d.rehandle g).handler = g d := rfl
@[simp] theorem rehandle_args : (d.rehandle g).args = d.args := rfl
@[simp] theorem rehandle_help : (d.rehandle g).help = d.help := rfl
@[simp] theorem rehandle_aliases : (d.rehandle g).aliases = d.aliases := rfl
@[simp] theorem rehandle_hidden : (d.rehandle g).hidden = d.hidden := rfl
@[simp] theorem rehandle_placement : (d.rehandle g).placement = d.placement := rfl
@[simp] theorem nameText?_rehandle : (d.rehandle g).nameText? = d.nameText? := rfl

@[simp] theorem enabledIn_rehandle (caps : CapabilitySet) :
    (d.rehandle g).enabledIn caps = d.enabledIn caps := rfl

@[simp] theorem registrations_rehandle : (d.rehandle g).registrations = d.registrations := rfl

@[simp] theorem grammarOf?_rehandle (program : String) (styles : Styles) :
    (d.rehandle g).grammarOf? program styles = d.grammarOf? program styles := rfl

theorem Buildable.rehandle {caps : CapabilitySet} {d : Descriptor} (h : d.Buildable caps) :
    (d.rehandle g).Buildable caps :=
  ⟨h.plain, h.hashable, h.args⟩

theorem decodeAs_rehandle (ns : Namespace) : Schema.decodeAs (d.rehandle g) ns = Schema.decodeAs d ns :=
  rfl

end Descriptor

section Rehandle

variable (g : Descriptor → Handler)

theorem listingOf_rehandle (pres : Presentation) (ds : List Descriptor) :
    listingOf pres (ds.map (·.rehandle g)) =
      (listingOf pres ds).map (·.map fun (p, es) => (p, es.map (·.rehandle g))) := by
  unfold listingOf
  cases pres.orderedCategories with
  | error f => rfl
  | ok order =>
    simp only [Except.ok_bind, Except.pure_eq_ok, List.filter_map]
    show _ = Except.ok (List.map _ _)
    rw [List.map_filterMap]
    congr 2
    funext p
    by_cases h : (ds.filter fun d => d.placement.identical p && !d.hidden).isEmpty <;>
      simp [h, Function.comp_def]

theorem listingRows_rehandle (es : List Descriptor) :
    listingRows (es.map (·.rehandle g)) = listingRows es := by
  simp [listingRows, List.mapM_map, Function.comp_def, Descriptor.rehandle]

theorem listingSections_rehandle (listing : List (Placement × List Descriptor)) :
    listingSections (listing.map fun (p, es) => (p, es.map (·.rehandle g))) =
      listingSections listing := by
  simp [listingSections, List.mapM_map, Function.comp_def, listingRows_rehandle]

theorem listedNames_rehandle (listing : List (Placement × List Descriptor)) :
    listedNames (listing.map fun (p, es) => (p, es.map (·.rehandle g))) = listedNames listing := by
  simp [listedNames, List.flatMap_map]

theorem enabledRegistrations_rehandle (caps : CapabilitySet) (ds : List Descriptor) :
    enabledRegistrations caps (ds.map (·.rehandle g)) = enabledRegistrations caps ds := by
  simp [enabledRegistrations, List.filter_map, List.flatMap_map, Function.comp_def]

/-- A catalog whose descriptors differ from another's in their handlers only builds like it:
into the same schema, but for the handlers of its commands. -/
theorem Schema.build_rehandle {ds : List Descriptor} {caps : CapabilitySet} {pres : Presentation}
    {s : Schema} (h : Schema.build ⟨ds.map .descriptor⟩ caps pres = .ok s) :
    Schema.build ⟨(ds.map (·.rehandle g)).map .descriptor⟩ caps pres =
      .ok { s with catalog := ⟨(ds.map (·.rehandle g)).map .descriptor⟩
                   descriptors := s.descriptors.map (·.rehandle g) } := by
  obtain ⟨ds', listing, sections, hentries, hb, hfr, hl, hs, rfl⟩ := Schema.build_parts h
  obtain rfl : ds' = ds :=
    (List.map_injective_iff.mpr fun _ _ h => Entry.descriptor.inj h) hentries.symm
  -- the walk registers the same names, and the listing holds the same commands
  have hwalk := foldlM_add pres.program pres.styles caps (ds'.map (·.rehandle g)) {}
    fun d' hd' => by
      obtain ⟨d, hd, rfl⟩ := List.mem_map.mp hd'
      exact (hb d hd).rehandle g
  simp only [enabledRegistrations_rehandle, hfr, List.nil_append] at hwalk
  have hl' : listingOf pres ((ds'.map (·.rehandle g)).filter (·.enabledIn caps)) =
      .ok (listing.map fun (p, es) => (p, es.map (·.rehandle g))) := by
    rw [List.filter_map, Function.comp_def]
    simp only [Descriptor.enabledIn_rehandle]
    rw [listingOf_rehandle, hl]
    rfl
  rw [Schema.build_of_walk hwalk hl', listingSections_rehandle, hs]
  simp only [List.filter_map, List.filterMap_map, Function.comp_def, listedNames_rehandle,
    Descriptor.enabledIn_rehandle, Descriptor.grammarOf?_rehandle]
  rfl

/-- Calling a handler reads the schema's grammars and program, not its catalog or commands. -/
theorem Schema.call_descriptors (s : Schema) (c : Catalog) (ds : List Descriptor) :
    ∀ (h : Handler) ui ctx args,
      Schema.call { s with catalog := c, descriptors := ds } h ui ctx args = s.call h ui ctx args
  | .help, _, _, _ => rfl
  | .version, _, _, _ => rfl
  | .missing .., _, _, _ => rfl
  | .plugin .., _, _, _ => rfl
  | .renamed _ _ _ inner, ui, ctx, args => by
    rw [Schema.call, Schema.call, Schema.call_descriptors s c ds inner]
  | .uncallable _, _, _, _ => rfl

end Rehandle

/-! ## Installing the wrapped handler -/

def Invocation.install (inv : Invocation) (name : String) (h : Handler) : Invocation :=
  { inv with handlers := Function.update inv.handlers name (some h) }

theorem Invocation.commandUi_install (inv : Invocation) (name : String) (h : Handler) (s : Schema)
    (c : Catalog) (ds : List Descriptor) (ns : Namespace) (settings : Settings) :
    (inv.install name h).commandUi { s with catalog := c, descriptors := ds } ns settings =
      inv.commandUi s ns settings := rfl

theorem Invocation.commandContext_install (inv : Invocation) (name : String) (h : Handler)
    (caps : CapabilitySet) (s : Schema) (c : Catalog) (ds : List Descriptor) (ns : Namespace)
    (settings : Settings) :
    (inv.install name h).commandContext caps { s with catalog := c, descriptors := ds } ns settings =
      inv.commandContext caps s ns settings := rfl

def installedFor (name : String) (h : Handler) (d : Descriptor) : Handler :=
  if d.nameText? = some name then h else d.handler

def referenceOrder (a b : Descriptor) : Bool := decide ((a.nameText?).getD "" ≤ (b.nameText?).getD "")

theorem referenceCatalog_eq (handlers : String → Option Handler) (failures : String → Option Value) :
    referenceCatalog handlers failures =
      ⟨((referenceDescriptors handlers failures).mergeSort referenceOrder).map .descriptor⟩ :=
  rfl

/-- No reference command is named like a built-in one. -/
theorem referenceCommand_not_builtin {r : ReferenceCommand} (hr : r ∈ referenceCommands) :
    r.name ≠ "help" ∧ r.name ≠ "version" := by
  have hnodup := referenceNames_nodup
  rw [referenceNames, List.nodup_append] at hnodup
  have hmem : r.name ∈ referenceCommands.flatMap fun r => r.name :: r.aliases ++ r.hiddenAliases :=
    List.mem_flatMap.mpr ⟨r, hr, List.mem_cons_self⟩
  exact ⟨hnodup.2.2 _ hmem _ (by simp), hnodup.2.2 _ hmem _ (by simp)⟩

section Install

variable {handlers : String → Option Handler} {failures : String → Option Value} {name : String}
  {h : Handler}

theorem ReferenceCommand.rehandle_installedFor (r : ReferenceCommand) (x : Handler) :
    (r.descriptor x).rehandle (installedFor name h) = r.descriptor (if r.name = name then h else x) := by
  by_cases hr : r.name = name <;>
    simp [Descriptor.rehandle, installedFor, ReferenceCommand.descriptor, Descriptor.nameText?,
      Value.asString?, hr]

theorem referenceDescriptors_install (hname : name ≠ "help" ∧ name ≠ "version")
    (htruthy : h.truthy = true) :
    referenceDescriptors (Function.update handlers name (some h)) failures =
      (referenceDescriptors handlers failures).map (·.rehandle (installedFor name h)) := by
  simp only [referenceDescriptors, List.map_append, List.map_map, List.map_cons, List.map_nil]
  congr 1
  · refine List.map_congr_left fun r _ => ?_
    rw [Function.comp_apply, ReferenceCommand.rehandle_installedFor]
    congr 1
    split_ifs with hr
    · -- a handler that is true as a condition is taken as it is
      subst hr
      exact referenceHandler_of_truthy (Function.update_self ..) htruthy
    · exact referenceHandler_congr (Function.update_of_ne hr _ _)
  · simp [Descriptor.rehandle, installedFor, helpDescriptor, versionDescriptor, Descriptor.nameText?,
      Value.asString?, Ne.symm hname.1, Ne.symm hname.2]

/-- Installing a handler that is true as a condition for a reference command changes that
command's handler in the catalog and nothing else. -/
theorem referenceCatalog_install (hname : name ≠ "help" ∧ name ≠ "version")
    (htruthy : h.truthy = true) :
    referenceCatalog (Function.update handlers name (some h)) failures =
      ⟨(((referenceDescriptors handlers failures).mergeSort referenceOrder).map
        (·.rehandle (installedFor name h))).map .descriptor⟩ := by
  -- sorting by name commutes with changing handlers, which keeps names
  have hsort := List.map_mergeSort (r := referenceOrder) (s := referenceOrder)
    (f := fun d : Descriptor => d.rehandle (installedFor name h))
    (l := referenceDescriptors handlers failures) fun _ _ _ _ => rfl
  rw [referenceCatalog_eq, referenceDescriptors_install hname htruthy, hsort]

/-- A command of the reference schema whose handler is a renamed one is a reference command that
has it installed. -/
theorem reference_renamed_of_mem {caps : CapabilitySet} {s : Schema} {d : Descriptor}
    {old new program : String}
    (hs : Schema.build (referenceCatalog handlers failures) caps {} = .ok s) (hd : d ∈ s.descriptors)
    (hren : d.handler = .renamed old new program h) :
    ∃ n, d.name = .str n ∧ handlers n = some (.renamed old new program h) ∧
      n ≠ "help" ∧ n ≠ "version" := by
  have href := referenceSchema_descriptors hs hd
  simp only [referenceDescriptors, List.mem_append, List.mem_map, List.mem_cons, List.not_mem_nil,
    or_false] at href
  rcases href with ⟨r, hr, rfl⟩ | rfl | rfl
  · refine ⟨r.name, rfl, ?_, referenceCommand_not_builtin hr⟩
    simp only [ReferenceCommand.descriptor] at hren
    -- a stand-in for a missing handler is not a renamed handler
    rcases @referenceHandler_installed_or_missing handlers failures r.name with hinst | hmissing
    · rwa [hren] at hinst
    · rw [hmissing] at hren
      cases hren
  · simp [helpDescriptor] at hren
  · simp [versionDescriptor] at hren

end Install

/-! ## The run of a reached command -/

namespace Invocation

variable {inv : Invocation} {caps : CapabilitySet} {s : Schema} {ns : Namespace}
  {settings : Settings} {warnings : List String} {d : Descriptor} {args : Args}

/-- With `--debug` off and a level other than `DEBUG`, the configuration leaves diagnostics
off and nothing written. -/
theorem settle_run_quiet (hdebug : flagOf ns "global_debug" = false)
    (hlevel : settings.level ≠ "DEBUG") :
    (settle ns settings warnings).run.run {} = (.ok (), { warnings := warnings }) := by
  rw [settle_run_eq]
  by_cases hwarning : settings.level = "WARNING" <;> simp [hdebug, hwarning, hlevel]

theorem debugLog_run_quiet {o : Output} (hq : o.showDebug = false) (logger message : String) :
    (debugLog logger message).run.run o = (.ok (), o) := by
  rw [debugLog_run, hq]
  rfl

theorem decodeAs_run_quiet (hargs : Schema.decodeArgs d.args ns = .ok args) {o : Output}
    (hq : o.showDebug = false) : (Schema.decodeAs d ns).run.run o = (.ok ⟨d.name, args⟩, o) := by
  rw [Schema.decodeAs, hargs, liftFault_ok, pure_bind, Action.run_bind, debugLog_run_quiet hq]
  rfl

theorem invoke_run_quiet {β : Type} (k : Value → Action β) (R : Fault → Action β) (cmd : Command)
    (ui : Ui) (ctx : CommandContext) {o : Output} (hq : o.showDebug = false) :
    (tryCatch (s.invoke d cmd ui ctx >>= k) R).run.run o =
      (tryCatch (s.call d.handler ui ctx cmd.args >>= k) R).run.run o := by
  rw [Schema.invoke, bind_assoc]
  exact Action.run_tryCatch_bind R (debugLog_run_quiet hq _ _)

/-- What a run does once it has decoded a command: calls the handler and takes its result as
the exit status, and reports a fault through the recovery. -/
def reachedRun (inv : Invocation) (caps : CapabilitySet) (s : Schema) (ns : Namespace)
    (settings : Settings) (h : Handler) (args : Args) : Action Value :=
  tryCatch (s.call h (inv.commandUi s ns settings) (inv.commandContext caps s ns settings) args >>=
      fun result => pure (exitStatusOf result))
    (recover (inv.commandUi s ns settings) (flagOf ns "global_verbose" || settings.verbose))

theorem reachedRun_appending {h : Handler} (hh : h.Appending) (inv : Invocation)
    (caps : CapabilitySet) (s : Schema) (ns : Namespace) (settings : Settings) (args : Args) :
    (inv.reachedRun caps s ns settings h args).Appending :=
  ((s.call_appending hh _ _ args).bind fun result => appending_pure (exitStatusOf result)).tryCatch
    (recover_appending _ _)

/-- With debug diagnostics off, a run that reaches an enabled command whose arguments decode
runs its handler from the output the configuration leaves: the loading's warnings and nothing
written. -/
theorem run_reaching {v : Value} (hm : inv.Matched caps s ns)
    (hload : inv.loaded = (.ok settings, warnings)) (hcmd : ns.get? "command" = some v)
    (hv : v ≠ .none) (hd : d ∈ s.descriptors) (hname : d.name ≠ .none)
    (hnamed : ns.get? commandNameKey = some d.name) (hargs : Schema.decodeArgs d.args ns = .ok args)
    (hdebug : flagOf ns "global_debug" = false) (hlevel : settings.level ≠ "DEBUG") :
    inv.run.run.run {} = (inv.reachedRun caps s ns settings d.handler args).run.run { warnings := warnings } := by
  have hs := Schema.build_wellBuilt hm.built
  rw [reachedRun, run_command hm hload hcmd hv, seqRight_eq_bind,
    Action.run_bind_ok (settle_run_quiet hdebug hlevel), hs.parse_enabled hd hname hnamed,
    Action.run_tryCatch_bind _ (decodeAs_run_quiet hargs rfl), hs.dispatch_enabled hd,
    invoke_run_quiet _ _ _ _ _ rfl]

end Invocation

/-- A renamed handler writes its two warnings, then runs the handler it wraps from there. -/
theorem Schema.run_call_renamed {β : Type} (s : Schema) {ui : Ui}
    (hstyle : Style.Resolves ui.styles.warning) (old new program : String) (inner : Handler)
    (ctx : CommandContext) (args : Args) (k : Value → Action β) (R : Fault → Action β) (o : Output) :
    (tryCatch (s.call (.renamed old new program inner) ui ctx args >>= k) R).run.run o =
      (tryCatch (s.call inner ui ctx args >>= k) R).run.run { o with
        writes := o.writes ++ (((Handler.renameWarnings old new program).map fun w =>
          ui.console.render (Styled.labelled "Warning: " ui.styles.warning w)).map fun t =>
            (Channel.err, t)).toArray } := by
  have hcall : s.call (.renamed old new program inner) ui ctx args =
      (forIn (Handler.renameWarnings old new program) PUnit.unit fun w _ => do
        ui.warning w
        pure (ForInStep.yield PUnit.unit)) >>= fun _ => s.call inner ui ctx args := rfl
  rw [hcall, bind_assoc, List.map_map]
  exact Action.run_tryCatch_bind R (forIn_writes _ _ (fun w _ o => by
    rw [Action.run_bind, ui.warning_run hstyle]
    rfl) o)

/-! ## The warnings as printed -/

def renameNotice (ui : Ui) (old new program : String) : String :=
  String.join ((Handler.renameWarnings old new program).map fun w =>
    ui.console.render (Styled.labelled "Warning: " ui.styles.warning w))

def renameLines (old new program : String) : String :=
  String.join ((Handler.renameWarnings old new program).map fun w => "Warning: " ++ w ++ "\n")

theorem warningLine_plain {w : String} (hw : Unstripped w) (style : String) :
    (Styled.labelled "Warning: " style w).plain = "Warning: " ++ w := by
  rw [Styled.labelled, Styled.append_plain, Styled.append_plain, sanitize_eq_self hw,
    sanitize_eq_self (by simp [Unstripped, strippedControl] : Unstripped "Warning: ")]
  rfl

/-- How the warnings print: as the plain lines on a console without colors, at least one
column wide, that shows them as they are; as those lines in colors on such a console that
writes colors; not at all on a console without a single column. -/
structure NoticePrinted (ui : Ui) (old new program : String) : Prop where
  plain : ui.console.colored = false → 0 < ui.columns →
    (∀ w ∈ Handler.renameWarnings old new program,
      Unstripped w ∧ ui.console.LaysOutAsIs ("Warning: " ++ w)) →
    renameNotice ui old new program = renameLines old new program
  colored : ui.console.colored = true → 0 < ui.columns →
    (∀ w ∈ Handler.renameWarnings old new program,
      Unstripped w ∧ ui.console.LaysOutAsIs ("Warning: " ++ w)) →
    WrittenInColors (renameNotice ui old new program) (renameLines old new program)
  blank : ui.columns = 0 → renameNotice ui old new program = ""

theorem noticePrinted (ui : Ui) (old new program : String) : NoticePrinted ui old new program where
  plain hc hwidth hlines := by
    unfold renameNotice renameLines
    congr 1
    refine List.map_congr_left fun w hw => ?_
    have hplain := warningLine_plain (hlines w hw).1 ui.styles.warning
    rw [Console.render_uncolored (Nat.pos_iff_ne_zero.mp hwidth) hc,
      ui.console.layout_plain (by rw [hplain]; exact (hlines w hw).2), hplain]
  colored _ hwidth hlines := by
    unfold renameNotice renameLines
    refine writtenInColors_join fun w hw => ?_
    have hplain := warningLine_plain (hlines w hw).1 ui.styles.warning
    rw [← hplain]
    exact Console.render_line_written (Nat.pos_iff_ne_zero.mp hwidth)
      (by rw [hplain]; exact (hlines w hw).2)
  blank hzero := by
    simp [renameNotice, Handler.renameWarnings, Ui.console, Console.ofChoice, Console.render, hzero]

/-! ## The two runs compared -/

/-- The warning style of the reference presentation resolves. -/
theorem referenceSchema_warning_resolves {handlers : String → Option Handler}
    {failures : String → Option Value} {caps : CapabilitySet} {s : Schema}
    (hs : Schema.build (referenceCatalog handlers failures) caps {} = .ok s) (inv : Invocation)
    (ns : Namespace) (settings : Settings) :
    Style.Resolves (inv.commandUi s ns settings).styles.warning := by
  rw [show (inv.commandUi s ns settings).styles = s.presentation.styles from rfl,
    referenceSchema_presentation hs]
  decide +kernel

/-- Installing the wrapped handler for a reference command gives a run that matches the line
as before, against the same schema but for that command's handler. -/
theorem Invocation.Matched.install {inv : Invocation} {caps : CapabilitySet} {s : Schema}
    {ns : Namespace} (hm : inv.Matched caps s ns) {name : String}
    (hname : name ≠ "help" ∧ name ≠ "version") {h : Handler} (htruthy : h.truthy = true) :
    (inv.install name h).Matched caps { s with
      catalog := referenceCatalog (Function.update inv.handlers name (some h)) inv.failures
      descriptors := s.descriptors.map (·.rehandle (installedFor name h)) } ns := by
  have hb := hm.built
  rw [referenceCatalog_eq] at hb
  have hbuild := Schema.build_rehandle (installedFor name h) hb
  rw [← referenceCatalog_install hname htruthy] at hbuild
  exact ⟨hm.features, hbuild, hm.matched⟩

section Reached

variable {inv : Invocation} {caps : CapabilitySet} {s : Schema} {ns : Namespace}
  {settings : Settings} {warnings : List String} {v : Value} {d : Descriptor} {args : Args}
  {old new program : String} {h : Handler}
  (hm : inv.Matched caps s ns) (hload : inv.loaded = (.ok settings, warnings))
  (hcmd : ns.get? "command" = some v) (hv : v ≠ .none)
  (hd : d ∈ s.descriptors) (hnamed : ns.get? commandNameKey = some d.name)
  (hargs : Schema.decodeArgs d.args ns = .ok args)
  (hdebug : flagOf ns "global_debug" = false) (hlevel : settings.level ≠ "DEBUG")
include hm hload hcmd hv hd hnamed hargs hdebug hlevel

/-- With diagnostics off, a run that reaches a renamed command writes the two warnings, then
runs the wrapped handler. -/
theorem Invocation.run_renamed (hren : d.handler = .renamed old new program h) :
    inv.run.run.run {} =
      (inv.reachedRun caps s ns settings h args).run.run { ({ warnings := warnings } : Output) with
          writes := #[] ++ (((Handler.renameWarnings old new program).map fun w =>
            (inv.commandUi s ns settings).console.render
              (Styled.labelled "Warning: " (inv.commandUi s ns settings).styles.warning w)).map fun t =>
                (Channel.err, t)).toArray } := by
  obtain ⟨n, hdn, -, -⟩ := reference_renamed_of_mem hm.built hd hren
  rw [Invocation.run_reaching hm hload hcmd hv hd (by simp [hdn]) hnamed hargs hdebug hlevel, hren]
  unfold Invocation.reachedRun
  rw [Schema.run_call_renamed s (referenceSchema_warning_resolves hm.built inv ns settings)]

/-- With diagnostics off, a run that reaches a command named `name` runs the handler installed
for it in its place. -/
theorem Invocation.run_install {name : String} (hdn : d.name = .str name)
    (hname : name ≠ "help" ∧ name ≠ "version") (htruthy : h.truthy = true) :
    (inv.install name h).run.run.run {} =
      (inv.reachedRun caps s ns settings h args).run.run { warnings := warnings } := by
  have hinstalled : (d.rehandle (installedFor name h)).handler = h := by
    simp [installedFor, Descriptor.nameText?, hdn, Value.asString?]
  rw [Invocation.run_reaching (hm.install hname htruthy) hload hcmd hv (List.mem_map_of_mem hd)
    (by simp [hdn]) hnamed hargs hdebug hlevel, hinstalled]
  unfold Invocation.reachedRun
  rw [Schema.call_descriptors, Invocation.commandUi_install, Invocation.commandContext_install]

end Reached

/-- Two runs compared: the first with a renamed command installed, the second with the handler
it wraps installed in its place. The wrapper has the identity of the handler it wraps; both
runs end alike, with the same standard output and the same warnings raised; when errors are
not reported with their traceback (`verbose` off), the first writes the two warnings to
standard error before everything the second writes there; and the warnings print as
`NoticePrinted` says. A traceback is left out of the comparison: the wrapper adds a frame of
its own to it, and the frames are not modelled (`Fault.traceback`). -/
structure RenamedRuns (inv inv' : Invocation) (ui : Ui) (verbose : Bool) (old new program : String)
    (h : Handler) : Prop where
  identity : (Handler.renamed old new program h).identity = h.identity
  outcome : (inv.run.run.run {}).1 = (inv'.run.run.run {}).1
  stdout : (inv.run.run.run {}).2.stdout = (inv'.run.run.run {}).2.stdout
  stderr : verbose = false → (inv.run.run.run {}).2.stderr =
    renameNotice ui old new program ++ (inv'.run.run.run {}).2.stderr
  warnings : (inv.run.run.run {}).2.warnings = (inv'.run.run.run {}).2.warnings
  notice : NoticePrinted ui old new program

theorem renamed_command_runs_as_new {inv : Invocation} {caps : CapabilitySet} {s : Schema}
    {ns : Namespace} {settings : Settings} {warnings : List String} {v : Value} {d : Descriptor}
    {args : Args} {old new program : String} {h : Handler}
    (hm : inv.Matched caps s ns) (hload : inv.loaded = (.ok settings, warnings))
    (hcmd : ns.get? "command" = some v) (hv : v ≠ .none)
    (hd : d ∈ s.descriptors) (hnamed : ns.get? commandNameKey = some d.name)
    (hren : d.handler = .renamed old new program h) (hargs : Schema.decodeArgs d.args ns = .ok args)
    (hdebug : flagOf ns "global_debug" = false) (hlevel : settings.level ≠ "DEBUG")
    (hh : h.Appending) (htruthy : h.truthy = true) :
    ∃ n, d.name = .str n ∧ inv.handlers n = some (.renamed old new program h) ∧
      RenamedRuns inv (inv.install n h) (inv.commandUi s ns settings)
        (flagOf ns "global_verbose" || settings.verbose) old new program h := by
  obtain ⟨n, hdn, hinst, hbuiltin⟩ := reference_renamed_of_mem hm.built hd hren
  refine ⟨n, hdn, hinst, ?_⟩
  -- both runs call the wrapped handler, the first after the warnings; what follows only appends
  obtain ⟨houtcome, hstdout, hwarnings, rest, hrest, hwarned⟩ :=
    (Invocation.reachedRun_appending hh inv caps s ns settings args).after_errors
      { warnings := warnings } ((Handler.renameWarnings old new program).map fun w =>
        (inv.commandUi s ns settings).console.render
          (Styled.labelled "Warning: " (inv.commandUi s ns settings).styles.warning w))
  have hrun₁ := Invocation.run_renamed hm hload hcmd hv hd hnamed hargs hdebug hlevel hren
  have hrun₂ := Invocation.run_install (h := h) hm hload hcmd hv hd hnamed hargs hdebug hlevel hdn
    hbuiltin htruthy
  rw [← hrun₁, ← hrun₂] at houtcome hstdout hwarnings
  rw [← hrun₂] at hrest
  rw [← hrun₁] at hwarned
  refine ⟨rfl, houtcome, hstdout, fun _ => ?_, hwarnings, noticePrinted _ _ _ _⟩
  -- nothing was written before the command, so both runs' standard error starts with it
  rw [hwarned, hrest]
  rfl

/-! ## The old name of `evolog` -/

def evologHandler : Handler := .plugin "cmd_evolog" true fun _ _ _ => pure .none

/-- A line typing `obslog`, the hidden alias of `evolog`, whose installed handler is renamed
from `obslog`; in an empty home directory, on a console of the given width. -/
def obslogRun (columns : Nat) : Invocation where
  argv := ["obslog"]
  handlers n := if n = "evolog" then some (.renamed "obslog" "evolog" "jj" evologHandler) else none
  disk := Disk.ofEntries [] []
  cwd := ["home"]
  userConfig := ["home", "config.toml"]
  columns := columns

/-- The line reaches the renamed handler of `evolog`, with diagnostics off, whatever the width. -/
theorem obslogRun_reaches (columns : Nat) :
    ∃ caps s ns d, (obslogRun columns).Matched caps s ns ∧
      (obslogRun columns).loaded = (.ok {}, []) ∧ ns.get? "command" = some (.str "obslog") ∧
      d ∈ s.descriptors ∧ ns.get? commandNameKey = some d.name ∧
      d.handler = .renamed "obslog" "evolog" "jj" evologHandler ∧
      Schema.decodeArgs d.args ns = .ok (.raw []) ∧ flagOf ns "global_debug" = false := by
  obtain ⟨s, hs⟩ := referenceCatalog_builds (obslogRun columns).handlers
    (obslogRun columns).failures .standard
  have hwb := Schema.build_wellBuilt hs
  -- the descriptor of `evolog` carries the renamed handler installed for it
  let d := (referenceCommands.get ⟨13, by decide⟩).descriptor
    (.renamed "obslog" "evolog" "jj" evologHandler)
  have hd : d ∈ s.descriptors := by
    obtain ⟨ds, hperm, hreg⟩ := referenceSchema_registers hs
    rw [hreg.descriptors]
    exact List.mem_filter.mpr ⟨hperm.mem_iff.mpr
      (List.mem_append_left _ (List.mem_map.mpr ⟨_, List.get_mem _ _, rfl⟩)), rfl⟩
  have hmatch := hwb.matchArgs_raw hd rfl
    (List.mem_cons_of_mem _ (List.mem_append_right _ (List.mem_singleton.mpr rfl)))
    (by simp) (List.forall_mem_nil _) (List.forall_mem_nil _) columns false
  -- the line sets no global option
  obtain ⟨sections, listed, htop⟩ := hwb.top
  have hraw := rawMatch_merge [] [] s.program s.presentation.styles sections listed
    (s.names.filterMap (·.1.asString?)) "obslog" d.name
  rw [← htop] at hraw
  simp only [List.map_nil] at hmatch hraw
  refine ⟨.standard, s, _, d, ⟨rfl, hs, congrArg Prod.fst hmatch⟩, rfl, ?_, hd, ?_, rfl, ?_, ?_⟩
  · rw [Namespace.get?_merge]
    simp [Value.lookup, commandNameKey]
  · rw [Namespace.get?_merge]
    simp [Value.lookup]
  · show Schema.decodeArgs .raw _ = _
    simp only [Schema.decodeArgs, hraw.argv, Option.getD_some, Schema.itemsOf_list]
    rfl
  · simp [flagOf, hraw.debug, Value.truthy]

/-- On a console eighty columns wide, typing `obslog` runs the handler of `evolog` after the
two warnings. -/
theorem obslog_runs_as_evolog :
    ∃ caps s ns d, (obslogRun 80).Matched caps s ns ∧
      (obslogRun 80).loaded = (.ok {}, []) ∧ ns.get? "command" = some (.str "obslog") ∧
      d ∈ s.descriptors ∧ ns.get? commandNameKey = some d.name ∧
      d.handler = .renamed "obslog" "evolog" "jj" evologHandler ∧
      Schema.decodeArgs d.args ns = .ok (.raw []) ∧ flagOf ns "global_debug" = false ∧
      ∃ n, d.name = .str n ∧
        (obslogRun 80).handlers n = some (.renamed "obslog" "evolog" "jj" evologHandler) ∧
        RenamedRuns (obslogRun 80) ((obslogRun 80).install n evologHandler)
          ((obslogRun 80).commandUi s ns {}) (flagOf ns "global_verbose" || ({} : Settings).verbose)
          "obslog" "evolog" "jj" evologHandler := by
  obtain ⟨caps, s, ns, d, hm, hload, hcmd, hd, hnamed, hren, hargs, hdebug⟩ := obslogRun_reaches 80
  exact ⟨caps, s, ns, d, hm, hload, hcmd, hd, hnamed, hren, hargs, hdebug,
    renamed_command_runs_as_new hm hload hcmd (by simp) hd hnamed hren hargs hdebug (by decide)
      (fun _ _ _ => appending_pure _) rfl⟩

/-- On a console without a single column, typing `obslog` ends with status 0 and writes
nothing to standard error: not even the two warnings. -/
theorem obslog_warns_nothing_at_width_zero :
    ((obslogRun 0).run.run.run {}).1 = .ok (.int 0) ∧ ((obslogRun 0).run.run.run {}).2.stderr = "" := by
  obtain ⟨caps, s, ns, d, hm, hload, hcmd, hd, hnamed, hren, hargs, hdebug⟩ := obslogRun_reaches 0
  have hcall : ∀ ui ctx args, s.call evologHandler ui ctx args = pure .none := fun _ _ _ => rfl
  rw [Invocation.run_renamed hm hload hcmd (by simp) hd hnamed hargs hdebug (by decide) hren,
    Invocation.reachedRun, hcall, pure_bind, Action.run_tryCatch, Action.run_pure]
  -- the handler returns nothing, which is status 0, and the warnings print as nothing
  constructor
  · rfl
  · simp [Output.stderr, Output.channel, Console.render, Ui.console, Console.ofChoice,
      Invocation.commandUi, obslogRun, Handler.renameWarnings]

end CommandLine
