import CommandLine.Proofs.ConfigLayers

/-!
# Configuration errors

Loading fails in two ways of its own: a file that is not TOML, and a value it refuses (a color
that is not one of the choices, a level that names no level). Both are configuration errors
that name the file (`CliError.AboutFile`).

* Whatever the files hold, a load that succeeds has a color among the choices and a level
  among the levels (`Settings.load_valid`), from a guarantee of each step (`Loading.Ensures`).
* Faults of the language can escape loading all the same: a color that cannot be a key (a
  list or a table), a section that is not a table, a value too long to be written. When no
  file holds such a thing (`FileShaped`), loading fails exactly when a file is refused
  (`Settings.load_refused_iff`), with the error of the first refused file, the user file
  before the repository file (`Settings.load_first_refused`).
* A run whose line matched reports that error and exits with status 1
  (`config_errors_reported`).
-/

namespace CommandLine

/-! ## What a step can return -/

namespace Loading

/-- Every result a step returns, whatever warnings came before, satisfies `P`. -/
def Ensures {α : Type} (x : Loading α) (P : α → Prop) : Prop :=
  ∀ ws a ws', x.run.run ws = (.ok a, ws') → P a

variable {α β : Type} {P Q : α → Prop}

theorem ensures_pure {a : α} (h : P a) : (pure a : Loading α).Ensures P := by
  intro ws a' ws' hrun
  cases hrun
  exact h

theorem ensures_throw (f : Fault) : (throw f : Loading α).Ensures P := by
  intro ws a ws' hrun
  cases hrun

theorem ensures_any (x : Loading α) : x.Ensures fun _ => True := fun _ _ _ _ => trivial

theorem ensures_lift (r : Except Fault α) : (Loading.lift r).Ensures fun a => r = .ok a := by
  intro ws a ws' hrun
  cases r with
  | error f => cases hrun
  | ok a' =>
    cases hrun
    rfl

/-- A guarantee of the first step that the second keeps is a guarantee of the bind. -/
theorem Ensures.bind {x : Loading α} {f : α → Loading β} {R : β → Prop} (hx : x.Ensures Q)
    (hf : ∀ a, Q a → (f a).Ensures R) : (x >>= f).Ensures R := by
  intro ws b ws'' hrun
  rw [run_bind] at hrun
  rcases hx₀ : x.run.run ws with ⟨_ | a, ws'⟩ <;> rw [hx₀] at hrun
  · cases hrun
  · exact hf a (hx ws a ws' hx₀) ws' b ws'' hrun

/-- An invariant of the accumulator that every step of a fold keeps holds after the fold. -/
theorem ensures_foldlM {γ : Type} {f : β → γ → Loading β} (I : β → Prop) :
    ∀ {l : List γ} {b : β}, I b → (∀ b, I b → ∀ c ∈ l, (f b c).Ensures I) →
      (l.foldlM f b).Ensures I
  | [], _, hb, _ => ensures_pure hb
  | c :: l, b, hb, hstep => by
    rw [List.foldlM_cons]
    exact (hstep b hb c (List.mem_cons_self ..)).bind fun b' hb' =>
      ensures_foldlM I hb' fun b'' hb'' c' hc' => hstep b'' hb'' c' (List.mem_cons_of_mem _ hc')

theorem run_bind_error {x : Loading α} {f : α → Loading β} {ws ws' : List String} {e : Fault}
    (h : x.run.run ws = (.error e, ws')) : (x >>= f).run.run ws = (.error e, ws') := by
  rw [run_bind, h]

end Loading

/-! ## A successful load is valid -/

/-- Settings whose color is one of the choices and whose level is a level. -/
structure Settings.Valid (s : Settings) : Prop where
  color : s.color ∈ colorValues
  level : s.level ∈ logLevels

theorem Settings.valid_default : ({} : Settings).Valid := ⟨by decide, by decide⟩

/-- A level a value names is one of the levels. -/
theorem levelOf?_mem {v : Value} {l : String} (h : levelOf? v = .ok (some l)) :
    l ∈ logLevels := by
  unfold levelOf? at h
  cases hd : v.displayChecked with
  | error e => rw [hd] at h; cases h
  | ok shown =>
    rw [hd] at h
    have hfilter : (Text.upperAscii? shown).filter logLevels.contains = some l :=
      Except.ok.inj h
    exact List.contains_iff_mem.mp (Option.filter_eq_some_iff.mp hfilter).2

theorem ensures_rejectValue {α : Type} {P : α → Prop} (key : String) (v : Value)
    (choices : List String) (source : String) :
    (rejectValue key v choices source : Loading α).Ensures P :=
  (Loading.ensures_any _).bind fun _ _ => Loading.ensures_throw _

namespace Settings

variable {s : Settings} (hs : s.Valid) (source : String)
include hs

theorem mergeColor_valid (color : Value) : (s.mergeColor color source).Ensures Valid := by
  unfold mergeColor
  dsimp only
  split
  · exact (Loading.ensures_throw (P := fun _ => False) _).bind fun _ h => h.elim
  · split
    · split
      case isTrue hc =>
        exact Loading.ensures_pure
          ⟨by simpa using List.contains_iff_mem.mp hc, by simpa using hs.level⟩
      case isFalse => exact ensures_rejectValue _ _ _ _
    · exact ensures_rejectValue _ _ _ _

theorem mergeUi_valid (ui : Value) : (s.mergeUi ui source).Ensures Valid := by
  -- the verbosity, merged last, keeps the color and the level
  have hverbose : ∀ s₁ : Settings, s₁.Valid → ((if sectionHas ui "verbose" = true then do
          let verbose ← Loading.lift (sectionGet ui "verbose")
          pure ({ s₁ with verbose := verbose.truthy }.setSource "ui.verbose" source)
        else pure s₁ : Loading Settings)).Ensures Valid := by
    intro s₁ hs₁
    split
    · exact (Loading.ensures_any _).bind fun _ _ =>
        Loading.ensures_pure ⟨by simpa using hs₁.color, by simpa using hs₁.level⟩
    · exact Loading.ensures_pure hs₁
  unfold mergeUi
  dsimp only
  refine (Loading.ensures_any _).bind fun _ _ => ?_
  split
  · exact (Loading.ensures_any _).bind fun c _ =>
      (mergeColor_valid hs source c).bind fun s₁ hs₁ => hverbose s₁ hs₁
  · exact (Loading.ensures_pure hs).bind fun s₁ hs₁ => hverbose s₁ hs₁

theorem mergeLogging_valid (logging : Value) : (s.mergeLogging logging source).Ensures Valid := by
  unfold mergeLogging
  refine (Loading.ensures_any _).bind fun _ _ => ?_
  split
  · refine (Loading.ensures_any _).bind fun level _ =>
      (Loading.ensures_lift (levelOf? level)).bind fun r hr => ?_
    split
    · exact Loading.ensures_pure ⟨by simpa using hs.color, by simpa using levelOf?_mem hr⟩
    · exact ensures_rejectValue _ _ _ _
  · exact Loading.ensures_pure hs

theorem merge_valid (doc : Value) : (s.merge doc source).Ensures Valid := by
  -- the logging section, merged last, keeps validity whether a ui section came before or not
  have hlogging : ∀ s₁ : Settings, s₁.Valid →
      ((doc.section? "logging").elim (pure s₁) fun logging =>
        s₁.mergeLogging logging source).Ensures Valid := by
    intro s₁ hs₁
    cases doc.section? "logging" with
    | none => exact Loading.ensures_pure hs₁
    | some logging => exact mergeLogging_valid hs₁ source logging
  rw [merge_eq]
  refine (Loading.ensures_any _).bind fun _ _ => ?_
  cases doc.section? "ui" with
  | none => exact (Loading.ensures_pure hs).bind hlogging
  | some ui => exact (mergeUi_valid hs source ui).bind hlogging

end Settings

/-- Whatever the files hold, a load that succeeds has a color among the choices and a level
among the levels. -/
theorem Settings.load_valid (disk : Disk) (start userConfig : DiskPath) (depth : Nat) :
    (Settings.load disk start userConfig depth).Ensures Valid := by
  rw [load_eq_foldlM]
  exact Loading.ensures_foldlM _ valid_default fun s hs p _ =>
    (Loading.ensures_any _).bind fun doc _ => merge_valid hs _ doc

/-! ## Refused documents -/

namespace Value

/-- A document whose merge can raise nothing but a configuration error: `ui` and `logging` are
tables where present, the color can be a key and be written, and the level can be written. -/
structure WellShaped (doc : Value) : Prop where
  ui_table : ∀ ui, doc.section? "ui" = some ui → ∃ es, ui = .table es
  logging_table : ∀ logging, doc.section? "logging" = some logging → ∃ es, logging = .table es
  color : ∀ v, doc.setting? "ui" "color" = some v → v.hashable = true ∧ v.writable = true
  level : ∀ v, doc.setting? "logging" "level" = some v → v.writable = true

/-- A document loading refuses: it sets a color that is not one of the choices, or a level
whose text in upper case is not a level. -/
def Rejects (doc : Value) : Prop :=
  (∃ v, doc.setting? "ui" "color" = some v ∧ ¬ ∃ c ∈ colorValues, v = .str c) ∨
    ∃ v, doc.setting? "logging" "level" = some v ∧ levelOf? v = .ok Option.none

end Value

/-- The level a value that can be written names: its text in upper case, when that is a
level. -/
theorem levelOf?_of_writable {v : Value} (hw : v.writable = true) :
    levelOf? v = .ok ((Text.upperAscii? v.display).filter logLevels.contains) := by
  simp only [levelOf?, Value.displayChecked, hw, if_true]
  rfl

/-- A well-shaped document that loading does not refuse is sound. -/
theorem Value.WellShaped.soundConfig {doc : Value} (h : doc.WellShaped) (hr : ¬ doc.Rejects) :
    doc.SoundConfig where
  ui_table := h.ui_table
  logging_table := h.logging_table
  color v hv := Classical.byContradiction fun hbad => hr (.inl ⟨v, hv, hbad⟩)
  level v hv := by
    rw [levelOf?_of_writable (h.level v hv)]
    cases hl : (Text.upperAscii? v.display).filter logLevels.contains with
    | some l => exact ⟨l, rfl⟩
    | none => exact absurd (.inr ⟨v, hv, by rw [levelOf?_of_writable (h.level v hv), hl]⟩) hr

/-- A configuration error about a file: it names the file as its context. -/
structure CliError.AboutFile (e : CliError) (file : String) : Prop where
  kind : e.kind = .config
  context : e.context = [("file", .str file)]

/-- The configuration error for an invalid value that can be written. -/
theorem invalidValue_ok {v : Value} (hw : v.writable = true) (key : String) (choices : List String)
    (source : String) :
    invalidValue key v choices source = .ok
      { kind := .config
        message := "Invalid value for " ++ key ++ ": " ++ v.literal
        context := [("file", .str source)]
        suggestions := List.map .str ["Use one of: " ++ ", ".intercalate choices] } := by
  simp only [invalidValue, Value.literalChecked, hw, if_true]
  rfl

theorem rejectValue_run {α : Type} {v : Value} (hw : v.writable = true) (key : String)
    (choices : List String) (source : String) (ws : List String) :
    ∃ e, (rejectValue key v choices source : Loading α).run.run ws = (.error (.cli e), ws) ∧
      e.AboutFile source :=
  ⟨_, by unfold rejectValue; rw [Loading.run_bind, invalidValue_ok hw]; rfl, rfl, rfl⟩

namespace Settings

variable (s : Settings) (source : String)

theorem mergeColor_rejects {v : Value} (hh : v.hashable = true) (hw : v.writable = true)
    (hbad : ¬ ∃ c ∈ colorValues, v = .str c) (ws : List String) :
    ∃ e, (s.mergeColor v source).run.run ws = (.error (.cli e), ws) ∧ e.AboutFile source := by
  unfold mergeColor
  dsimp only
  simp only [hh, Bool.not_true, Bool.false_eq_true, if_false]
  split
  case h_1 c =>
    have hc : colorValues.contains c = false :=
      Bool.eq_false_iff.mpr fun hc => hbad ⟨c, List.contains_iff_mem.mp hc, rfl⟩
    simp only [hc, Bool.false_eq_true, if_false]
    exact rejectValue_run hw _ _ _ _
  case h_2 => exact rejectValue_run hw _ _ _ _

theorem mergeUi_rejects (es : List (String × Value)) {v : Value}
    (hv : Value.lookup es "color" = some v) (hh : v.hashable = true) (hw : v.writable = true)
    (hbad : ¬ ∃ c ∈ colorValues, v = .str c) (ws : List String) :
    ∃ e ws', (s.mergeUi (.table es) source).run.run ws = (.error (.cli e), ws') ∧
      e.AboutFile source := by
  unfold mergeUi
  rw [Loading.run_bind, warnUnknownKeys_table]
  dsimp only
  rw [run_sectionGet_of_lookup hv]
  obtain ⟨e, hrun, he⟩ := s.mergeColor_rejects source hh hw hbad _
  exact ⟨e, _, Loading.run_bind_error hrun, he⟩

theorem mergeLogging_rejects (es : List (String × Value)) {v : Value}
    (hv : Value.lookup es "level" = some v) (hw : v.writable = true)
    (hnone : levelOf? v = .ok none) (ws : List String) :
    ∃ e ws', (s.mergeLogging (.table es) source).run.run ws = (.error (.cli e), ws') ∧
      e.AboutFile source := by
  unfold mergeLogging
  rw [Loading.run_bind, warnUnknownKeys_table]
  dsimp only
  rw [run_sectionGet_of_lookup hv, Loading.run_bind, hnone, Loading.run_lift_ok]
  obtain ⟨e, hrun, he⟩ := rejectValue_run (α := Settings) hw "logging.level" logLevels source _
  exact ⟨e, _, hrun, he⟩

/-- A well-shaped document that loading refuses fails its merge with a configuration error
about its file: the color's when the color is refused, else the level's. -/
theorem merge_rejects {doc : Value} (h : doc.WellShaped) (hr : doc.Rejects) (ws : List String) :
    ∃ e ws', (s.merge doc source).run.run ws = (.error (.cli e), ws') ∧ e.AboutFile source := by
  rw [merge_eq, Loading.run_bind, warnUnknownSections_run]
  dsimp only
  by_cases hcolor :
      ∃ v, doc.setting? "ui" "color" = some v ∧ ¬ ∃ c ∈ colorValues, v = .str c
  · -- the color is refused in the ui section, before the level is read
    obtain ⟨v, hv, hbad⟩ := hcolor
    obtain ⟨ui, hu, hv'⟩ := Option.bind_eq_some_iff.mp hv
    obtain ⟨es, rfl⟩ := h.ui_table ui hu
    obtain ⟨e, ws', hrun, he⟩ :=
      s.mergeUi_rejects source es hv' (h.color v hv).1 (h.color v hv).2 hbad _
    refine ⟨e, ws', ?_, he⟩
    rw [hu, Option.elim]
    exact Loading.run_bind_error hrun
  · -- otherwise the level is refused, once the ui section has merged
    obtain ⟨v, hv, hnone⟩ := hr.resolve_left hcolor
    obtain ⟨lg, hl, hv'⟩ := Option.bind_eq_some_iff.mp hv
    obtain ⟨es', rfl⟩ := h.logging_table lg hl
    have hlogging : ∀ (s₁ : Settings) ws, ∃ e ws', ((doc.section? "logging").elim (pure s₁)
        fun logging => s₁.mergeLogging logging source).run.run ws = (.error (.cli e), ws') ∧
          e.AboutFile source := by
      intro s₁ ws
      rw [hl, Option.elim]
      exact s₁.mergeLogging_rejects source es' hv' (h.level v hv) hnone ws
    cases hu : doc.section? "ui" with
    | none =>
      obtain ⟨e, ws', hrun, he⟩ := hlogging s _
      exact ⟨e, ws', by rw [Option.elim, Loading.run_bind, Loading.run_pure]; exact hrun, he⟩
    | some ui =>
      obtain ⟨es, rfl⟩ := h.ui_table ui hu
      obtain ⟨s₁, hrun₁, -⟩ := s.mergeUi_table es source _ fun v' hv'' =>
        Classical.byContradiction fun hbad =>
          hcolor ⟨v', by simp [Value.setting?, hu, hv'', Value.tableEntries], hbad⟩
      obtain ⟨e, ws', hrun, he⟩ := hlogging s₁ _
      exact ⟨e, ws', by rw [Option.elim, Loading.run_bind, hrun₁]; exact hrun, he⟩

end Settings

/-! ## Refused files -/

/-- A configuration file whose loading can raise nothing but a configuration error: it reads as
a well-shaped document, or it is text that is not TOML. -/
def FileShaped (disk : Disk) (depth : Nat) (path : DiskPath) : Prop :=
  (∃ doc, readDocument disk path (depth + 3) = .ok doc ∧ doc.WellShaped) ∨
    ∃ message, readDocument disk path (depth + 3) = .error (.cli (invalidToml path message))

/-- A configuration file loading refuses: text that is not TOML, or a document it refuses. -/
def FileRefused (disk : Disk) (depth : Nat) (path : DiskPath) : Prop :=
  (∃ message, readDocument disk path (depth + 3) = .error (.cli (invalidToml path message))) ∨
    ∃ doc, readDocument disk path (depth + 3) = .ok doc ∧ doc.Rejects

namespace Settings

variable (s : Settings) {disk : Disk} {depth : Nat} {path : DiskPath}

theorem mergeFile_refused (hshape : FileShaped disk depth path) (hr : FileRefused disk depth path)
    (ws : List String) :
    ∃ e ws', (s.mergeFile disk path depth).run.run ws = (.error (.cli e), ws') ∧
      e.AboutFile path.text := by
  rcases hr with ⟨message, hmsg⟩ | ⟨doc, hdoc, hrej⟩
  · refine ⟨invalidToml path message, ws, ?_, rfl, rfl⟩
    rw [mergeFile, Loading.run_bind, hmsg, Loading.run_lift_error]
  · rcases hshape with ⟨doc', hdoc', hwell⟩ | ⟨message, hmsg⟩
    · obtain rfl : doc' = doc := Except.ok.inj (hdoc'.symm.trans hdoc)
      obtain ⟨e, ws', hrun, he⟩ := s.merge_rejects path.text hwell hrej ws
      refine ⟨e, ws', ?_, he⟩
      rw [mergeFile, Loading.run_bind, hdoc, Loading.run_lift_ok]
      exact hrun
    · rw [hdoc] at hmsg
      cases hmsg

theorem mergeFile_accepted (hshape : FileShaped disk depth path)
    (hr : ¬ FileRefused disk depth path) (ws : List String) :
    ∃ s' ws', (s.mergeFile disk path depth).run.run ws = (.ok s', ws') := by
  rcases hshape with ⟨doc, hdoc, hwell⟩ | ⟨message, hmsg⟩
  · have hsound := hwell.soundConfig fun hrej => hr (.inr ⟨doc, hdoc, hrej⟩)
    obtain ⟨s', hrun, -⟩ := s.merge_sound hsound path.text ws
    refine ⟨s', ws ++ doc.configWarnings path.text, ?_⟩
    rw [mergeFile, Loading.run_bind, hdoc, Loading.run_lift_ok]
    exact hrun
  · exact absurd (.inl ⟨message, hmsg⟩) hr

/-- Files that load without refusal merge one after another. -/
theorem foldlM_mergeFile_accepted (disk : Disk) (depth : Nat) :
    ∀ (files : List DiskPath),
    (∀ p ∈ files, FileShaped disk depth p ∧ ¬ FileRefused disk depth p) →
    ∀ (s : Settings) (ws : List String), ∃ s' ws',
      (files.foldlM (fun (s : Settings) p => s.mergeFile disk p depth) s).run.run ws = (.ok s', ws')
  | [], _, s, ws => ⟨s, ws, rfl⟩
  | p :: files, h, s, ws => by
    obtain ⟨hshape, hr⟩ := h p (List.mem_cons_self ..)
    obtain ⟨s₁, ws₁, hrun₁⟩ := s.mergeFile_accepted hshape hr ws
    obtain ⟨s', ws', hrun'⟩ := foldlM_mergeFile_accepted disk depth files
      (fun q hq => h q (List.mem_cons_of_mem _ hq)) s₁ ws₁
    refine ⟨s', ws', ?_⟩
    rw [List.foldlM_cons, Loading.run_bind, hrun₁]
    exact hrun'

/-- The first refused file ends the merging with its configuration error. -/
theorem foldlM_mergeFile_refused {pre post : List DiskPath}
    (hpre : ∀ q ∈ pre, FileShaped disk depth q ∧ ¬ FileRefused disk depth q)
    (hshape : FileShaped disk depth path) (hr : FileRefused disk depth path) (ws : List String) :
    ∃ e ws', ((pre ++ path :: post).foldlM (fun (s : Settings) p => s.mergeFile disk p depth)
        s).run.run ws = (.error (.cli e), ws') ∧ e.AboutFile path.text := by
  obtain ⟨s₁, ws₁, hrun₁⟩ := foldlM_mergeFile_accepted disk depth pre hpre s ws
  obtain ⟨e, ws', hrun, he⟩ := s₁.mergeFile_refused hshape hr ws₁
  refine ⟨e, ws', ?_, he⟩
  rw [List.foldlM_append, Loading.run_bind, hrun₁]
  dsimp only
  rw [List.foldlM_cons]
  exact Loading.run_bind_error hrun

end Settings

section Loading

variable {disk : Disk} {start userConfig : DiskPath} {depth : Nat}

theorem Settings.load_accepted
    (h : ∀ p ∈ configFiles disk start userConfig,
      FileShaped disk depth p ∧ ¬ FileRefused disk depth p) :
    ∃ s ws, (Settings.load disk start userConfig depth).run.run [] = (.ok s, ws) := by
  rw [Settings.load_eq_foldlM]
  exact Settings.foldlM_mergeFile_accepted disk depth _ h {} []

theorem Settings.load_first_refused {pre post : List DiskPath} {path : DiskPath}
    (hfiles : configFiles disk start userConfig = pre ++ path :: post)
    (hpre : ∀ q ∈ pre, FileShaped disk depth q ∧ ¬ FileRefused disk depth q)
    (hshape : FileShaped disk depth path) (hr : FileRefused disk depth path) :
    ∃ e ws, (Settings.load disk start userConfig depth).run.run [] = (.error (.cli e), ws) ∧
      e.AboutFile path.text := by
  rw [Settings.load_eq_foldlM, hfiles]
  exact Settings.foldlM_mergeFile_refused {} hpre hshape hr []

/-- Among files that load with configuration errors only, loading fails exactly when one of
them is refused. -/
theorem Settings.load_refused_iff
    (hshape : ∀ p ∈ configFiles disk start userConfig, FileShaped disk depth p) :
    (∃ e ws, (Settings.load disk start userConfig depth).run.run [] = (.error (.cli e), ws)) ↔
      ∃ p ∈ configFiles disk start userConfig, FileRefused disk depth p := by
  classical
  constructor
  · rintro ⟨e, ws, herr⟩
    refine Classical.byContradiction fun hnone => ?_
    obtain ⟨s, ws', hok⟩ := @Settings.load_accepted disk start userConfig depth fun p hp =>
      ⟨hshape p hp, fun hr => hnone ⟨p, hp, hr⟩⟩
    rw [herr] at hok
    cases hok
  · rintro ⟨p, hp, hr⟩
    -- the first refused file decides the error
    obtain ⟨q, hq⟩ : ∃ q, (configFiles disk start userConfig).find?
        (fun q => decide (FileRefused disk depth q)) = some q :=
      Option.isSome_iff_exists.mp (List.find?_isSome.mpr ⟨p, hp, decide_eq_true hr⟩)
    obtain ⟨hqr, pre, post, hsplit, hpre⟩ := List.find?_eq_some_iff_append.mp hq
    have hqmem : q ∈ configFiles disk start userConfig := by simp [hsplit]
    obtain ⟨e, ws, hload, -⟩ := Settings.load_first_refused hsplit
      (fun q' hq' => ⟨hshape q' (by simp [hsplit, hq']), by simpa using hpre q' hq'⟩)
      (hshape q hqmem) (of_decide_eq_true hqr)
    exact ⟨e, ws, hload⟩

end Loading

/-- What loading a run's configuration ends in, and how the run reports a refusal. A load that
succeeds has a color among the choices and a level among the levels, whatever the files hold.
When every file the run reads is text that is not TOML or a well-shaped document, loading
fails exactly when a file is refused; the first refused file, the user file before the
repository file, gives the configuration error, which names it; a run whose line matched
reports that error and exits with status 1; and when no file is refused loading succeeds. -/
structure Invocation.ConfigChecked (inv : Invocation) : Prop where
  valid : ∀ s ws, inv.loaded = (.ok s, ws) → s.Valid
  loads : (∀ p ∈ configFiles inv.disk inv.cwd inv.userConfig,
      FileShaped inv.disk (inv.entryDepth + 1) p ∧ ¬ FileRefused inv.disk (inv.entryDepth + 1) p) →
    ∃ s ws, inv.loaded = (.ok s, ws)
  refused_iff : (∀ p ∈ configFiles inv.disk inv.cwd inv.userConfig,
      FileShaped inv.disk (inv.entryDepth + 1) p) →
    ((∃ e ws, inv.loaded = (.error (.cli e), ws)) ↔
      ∃ p ∈ configFiles inv.disk inv.cwd inv.userConfig,
        FileRefused inv.disk (inv.entryDepth + 1) p)
  first_refused : ∀ pre p post, configFiles inv.disk inv.cwd inv.userConfig = pre ++ p :: post →
    (∀ q ∈ pre,
      FileShaped inv.disk (inv.entryDepth + 1) q ∧ ¬ FileRefused inv.disk (inv.entryDepth + 1) q) →
    FileShaped inv.disk (inv.entryDepth + 1) p → FileRefused inv.disk (inv.entryDepth + 1) p →
    ∃ e ws, inv.loaded = (.error (.cli e), ws) ∧ e.AboutFile p.text ∧
      ∀ caps s ns, inv.Matched caps s ns →
        inv.run = (modify (fun o => { o with warnings := o.warnings ++ ws }) *>
          printError inv.plainUi (.cli e) (flagOf ns "global_verbose") *> pure (.int exitFailure))

theorem config_errors_reported (inv : Invocation) : inv.ConfigChecked where
  valid s ws h := Settings.load_valid inv.disk inv.cwd inv.userConfig (inv.entryDepth + 1) [] s ws h
  loads h := Settings.load_accepted h
  refused_iff h := Settings.load_refused_iff h
  first_refused _ _ _ hfiles hpre hshape hr := by
    obtain ⟨e, ws, hload, he⟩ := Settings.load_first_refused hfiles hpre hshape hr
    exact ⟨e, ws, hload, he, fun _ _ _ hm => Invocation.run_config_error hm hload⟩

end CommandLine
