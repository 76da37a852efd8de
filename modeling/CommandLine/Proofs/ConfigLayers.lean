import CommandLine.Proofs.Outcome

/-!
# Configuration layers

Loading reads up to two files, the user file and then the repository file, and merges each
into the settings so far. This module shows what a file does when its document is sound
(`Value.SoundConfig`: its `ui` and `logging` entries are tables where present, its color is
one of the choices and its level names a level): its unknown keys only add warnings
(`Value.configWarnings`), and each setting it gives replaces the earlier one and names the
file as its source (`Settings.Over`, `Settings.merge_sound`). Merging files one after another
lays them over the defaults (`Settings.LaidOver`, `Settings.load_layers`): each setting is the
one the last file that gives it gives.

A run then takes each setting from the command line where it is given there
(`Invocation.TakesSettings`).

`settings_follow_precedence` puts the layers in order: command line, then repository file,
then user file, then defaults.
-/

namespace CommandLine

/-! ## Running a loading step -/

namespace Loading

theorem run_bind {α β : Type} (x : Loading α) (f : α → Loading β) (ws : List String) :
    (x >>= f).run.run ws = match x.run.run ws with
      | (.ok a, ws') => (f a).run.run ws'
      | (.error e, ws') => (.error e, ws') := by
  show (ExceptT.bind x f).run.run ws = _
  simp only [ExceptT.bind, ExceptT.run, ExceptT.mk, StateT.run, bind, StateT.bind, ExceptT.bindCont]
  rcases x ws with ⟨_ | a, ws'⟩ <;> rfl

@[simp] theorem run_pure {α : Type} (a : α) (ws : List String) :
    (pure a : Loading α).run.run ws = (.ok a, ws) := rfl

@[simp] theorem run_throw {α : Type} (f : Fault) (ws : List String) :
    (throw f : Loading α).run.run ws = (.error f, ws) := rfl

@[simp] theorem run_lift_ok {α : Type} (a : α) (ws : List String) :
    (Loading.lift (.ok a : Except Fault α)).run.run ws = (.ok a, ws) := rfl

@[simp] theorem run_lift_pure {α : Type} (a : α) (ws : List String) :
    (Loading.lift (pure a : Except Fault α)).run.run ws = (.ok a, ws) := rfl

@[simp] theorem run_lift_error {α : Type} (f : Fault) (ws : List String) :
    (Loading.lift (.error f : Except Fault α)).run.run ws = (.error f, ws) := rfl

/-- Steps that each only warn, run one after another, only warn. -/
theorem run_forM_warns {α : Type} (f : α → Loading Unit) (w : α → List String)
    (hf : ∀ a ws, (f a).run.run ws = (.ok (), ws ++ w a)) :
    ∀ (l : List α) (ws : List String), (forM l f).run.run ws = (.ok (), ws ++ l.flatMap w)
  | [], ws => by simp only [List.forM_nil, run_pure, List.flatMap_nil, List.append_nil]
  | a :: l, ws => by
    rw [List.forM_cons, run_bind, hf]
    dsimp only
    rw [run_forM_warns f w hf l]
    simp

end Loading

@[simp] theorem run_warn (m : String) (ws : List String) :
    (warn m).run.run ws = (.ok (), ws ++ [m]) := rfl

/-! ## What a document sets -/

namespace Value

def section? (doc : Value) (name : String) : Option Value := Value.lookup doc.tableEntries name

def setting? (doc : Value) (name key : String) : Option Value :=
  (doc.section? name).bind fun body => Value.lookup body.tableEntries key

def colorSetting? (doc : Value) : Option String := (doc.setting? "ui" "color").bind asString?

/-- The verbosity a document sets: the truth of its value. -/
def verboseSetting? (doc : Value) : Option Bool := (doc.setting? "ui" "verbose").map truthy

/-- The level a document sets: its value's text in upper case, when that is a level. -/
def levelSetting? (doc : Value) : Option String :=
  (doc.setting? "logging" "level").bind fun v => (levelOf? v).toOption.join

/-- A document whose settings all load: `ui` and `logging` are tables where present, the color
is one of the choices and the level, in upper case, names a level. -/
structure SoundConfig (doc : Value) : Prop where
  ui_table : ∀ ui, doc.section? "ui" = some ui → ∃ es, ui = .table es
  logging_table : ∀ logging, doc.section? "logging" = some logging → ∃ es, logging = .table es
  color : ∀ v, doc.setting? "ui" "color" = some v → ∃ c ∈ colorValues, v = .str c
  level : ∀ v, doc.setting? "logging" "level" = some v → ∃ l, levelOf? v = .ok (some l)

def isTable : Value → Bool
  | .table _ => true
  | _ => false

theorem isTable_iff (v : Value) : v.isTable = true ↔ ∃ es, v = .table es := by
  cases v <;> simp [isTable]

def isColorChoice (v : Value) : Bool := (v.asString?.map colorValues.contains).getD false

theorem isColorChoice_iff (v : Value) :
    v.isColorChoice = true ↔ ∃ c ∈ colorValues, v = .str c := by
  cases v <;> simp [isColorChoice, asString?]

def namesLevel (v : Value) : Bool := ((levelOf? v).toOption.join).isSome

theorem namesLevel_iff (v : Value) : v.namesLevel = true ↔ ∃ l, levelOf? v = .ok (some l) := by
  cases h : levelOf? v with
  | error => simp [namesLevel, h, Except.toOption]
  | ok o => cases o <;> simp [namesLevel, h, Except.toOption]

theorem soundConfig_iff (doc : Value) :
    doc.SoundConfig ↔ ((doc.section? "ui").all isTable && (doc.section? "logging").all isTable &&
      (doc.setting? "ui" "color").all isColorChoice &&
      (doc.setting? "logging" "level").all namesLevel) = true := by
  simp only [Bool.and_eq_true, Option.all_eq_true, isTable_iff, isColorChoice_iff, namesLevel_iff]
  exact ⟨fun h => ⟨⟨⟨h.1, h.2⟩, h.3⟩, h.4⟩,
    fun ⟨⟨⟨hu, hl⟩, hc⟩, hv⟩ => ⟨hu, hl, hc, hv⟩⟩

instance : DecidablePred SoundConfig := fun doc => decidable_of_iff _ (soundConfig_iff doc).symm

end Value

/-- The warnings for the entries of a table whose keys are not among the known ones, each named
by its dotted path. -/
def unknownKeys (known : List String) (path source : String) (es : List (String × Value)) :
    List String :=
  es.flatMap fun e =>
    if e.1 ∈ known then [] else ["Unknown config key '" ++ path ++ e.1 ++ "' in " ++ source]

/-- The warnings a document's unknown keys give, in the order loading finds them: its entries
other than `ui` and `logging`, then the keys of `ui` other than `color` and `verbose`, then
those of `logging` other than `level`. -/
def Value.configWarnings (doc : Value) (source : String) : List String :=
  unknownKeys ["ui", "logging"] "" source doc.tableEntries ++
    ((doc.section? "ui").map fun ui =>
      unknownKeys ["color", "verbose"] "ui." source ui.tableEntries).getD [] ++
    ((doc.section? "logging").map fun l =>
      unknownKeys ["level"] "logging." source l.tableEntries).getD []

/-! ## Settings given over settings -/

/-- The settings one file gives, each where it gives it. -/
structure Overrides where
  color : Option String := none
  verbose : Option Bool := none
  level : Option String := none

namespace Overrides

def sets (o : Overrides) (key : String) : Bool :=
  (key == "ui.color" && o.color.isSome) || (key == "ui.verbose" && o.verbose.isSome) ||
    (key == "logging.level" && o.level.isSome)

/-- Overrides followed by more: the later ones win. -/
def andThen (o o' : Overrides) : Overrides :=
  ⟨o'.color.or o.color, o'.verbose.or o.verbose, o'.level.or o.level⟩

theorem sets_andThen (o o' : Overrides) (key : String) :
    (o.andThen o').sets key = (o'.sets key || o.sets key) := by
  simp only [sets, andThen, Option.isSome_or, Bool.and_or_distrib_left]
  ac_rfl

end Overrides

def Value.overrides (doc : Value) : Overrides :=
  ⟨doc.colorSetting?, doc.verboseSetting?, doc.levelSetting?⟩

namespace Settings

@[simp] theorem setSource_color (s : Settings) (key file : String) :
    (s.setSource key file).color = s.color := by
  unfold setSource; split <;> rfl

@[simp] theorem setSource_verbose (s : Settings) (key file : String) :
    (s.setSource key file).verbose = s.verbose := by
  unfold setSource; split <;> rfl

@[simp] theorem setSource_level (s : Settings) (key file : String) :
    (s.setSource key file).level = s.level := by
  unfold setSource; split <;> rfl

/-- Recording a source answers for that setting and leaves the others' sources. -/
@[simp] theorem sourceOf_setSource (s : Settings) (key file k : String) :
    (s.setSource key file).sourceOf k = if k = key then file else s.sourceOf k := by
  unfold setSource sourceOf
  split
  case isTrue hany =>
    -- the sources keep their keys, so the same entry is found, with the new file for `key`
    have hkeys : ((fun (p : String × String) => p.1 == k) ∘
        fun (p : String × String) => if p.1 == key then (p.1, file) else (p.1, p.2)) =
        fun p => p.1 == k := by
      funext p
      simp only [Function.comp]
      split <;> rfl
    simp only [List.find?_map, hkeys]
    by_cases hk : k = key
    · subst hk
      obtain ⟨p, hp⟩ :=
        Option.isSome_iff_exists.mp (List.find?_isSome.mpr (List.any_eq_true.mp hany))
      have hp1 : p.1 = k := by simpa using List.find?_some hp
      simp [hp, hp1]
    · cases hf : s.sources.find? (·.1 == k) with
      | none => simp [hk]
      | some p =>
        have hp1 : p.1 = k := by simpa using List.find?_some hf
        have hne : p.1 ≠ key := hp1 ▸ hk
        simp [hk, hne]
  case isFalse hany =>
    rw [List.find?_append]
    by_cases hk : k = key
    · subst hk
      have hnone : s.sources.find? (·.1 == k) = none :=
        List.find?_eq_none.mpr fun p hp h => hany (List.any_eq_true.mpr ⟨p, hp, h⟩)
      simp [hnone]
    · cases s.sources.find? (·.1 == k) <;> simp [hk, Ne.symm hk]

/-- `s'` is `s` with the overrides of one file laid over it: each setting the file gives
replaces the earlier one and names the file as its source. -/
structure Over (s : Settings) (o : Overrides) (source : String) (s' : Settings) : Prop where
  color : s'.color = o.color.getD s.color
  verbose : s'.verbose = o.verbose.getD s.verbose
  level : s'.level = o.level.getD s.level
  source : ∀ k, s'.sourceOf k = if o.sets k then source else s.sourceOf k

theorem Over.refl (s : Settings) (source : String) : s.Over {} source s :=
  ⟨rfl, rfl, rfl, fun k => by simp [Overrides.sets]⟩

theorem Over.trans {s s₁ s₂ : Settings} {o o' : Overrides} {source : String}
    (h : s.Over o source s₁) (h' : s₁.Over o' source s₂) :
    s.Over (o.andThen o') source s₂ where
  color := by rw [h'.color, h.color, Overrides.andThen, Option.getD_or]
  verbose := by rw [h'.verbose, h.verbose, Overrides.andThen, Option.getD_or]
  level := by rw [h'.level, h.level, Overrides.andThen, Option.getD_or]
  source k := by
    rw [h'.source, h.source, Overrides.sets_andThen]
    cases o'.sets k <;> cases o.sets k <;> rfl

end Settings

/-! ## Merging one document -/

theorem Value.lookup_isSome (es : List (String × Value)) (key : String) :
    (Value.lookup es key).isSome = es.any (·.1 == key) := by
  induction es with
  | nil => rfl
  | cons e es ih =>
    obtain ⟨k, v⟩ := e
    rw [Matching.Value.lookup_cons, Option.isSome_or, ih, List.any_cons, Bool.or_comm]
    by_cases hk : k = key <;> simp [hk]

theorem sectionHas_table (es : List (String × Value)) (key : String) :
    sectionHas (.table es) key = (Value.lookup es key).isSome := by
  rw [Value.lookup_isSome]
  rfl

/-- Asking a table section for a key it has: the test passes and the read gives the key's
value. -/
theorem run_sectionGet_of_lookup {α : Type} {es : List (String × Value)} {key : String}
    {v : Value} (hv : Value.lookup es key = some v) (f : Value → Loading α) (g : Loading α)
    (ws : List String) :
    (if sectionHas (.table es) key = true then Loading.lift (sectionGet (.table es) key) >>= f
      else g).run.run ws = (f v).run.run ws := by
  rw [sectionHas_table, hv, Option.isSome_some, if_pos rfl, Loading.run_bind]
  simp only [sectionGet, hv, Option.getD_some, Loading.run_lift_pure]

theorem warnUnknownKeys_table (known : List String) (name source : String)
    (es : List (String × Value)) (ws : List String) :
    (warnUnknownKeys (.table es) known name source).run.run ws =
      (.ok (), ws ++ unknownKeys known (name ++ ".") source es) := by
  -- a key of a table is text: it is hashable and can be written
  have hkey : ∀ (e : String × Value) ws,
      (warnUnknownKey known name source (.str e.1)).run.run ws =
        (.ok (), ws ++ if e.1 ∈ known then [] else
          ["Unknown config key '" ++ (name ++ ".") ++ e.1 ++ "' in " ++ source]) := by
    intro ⟨k, _⟩ ws
    have hany : (known.any fun k' => (Value.str k).same (.str k')) = decide (k ∈ known) :=
      Bool.eq_iff_iff.mpr (by
        rw [List.any_eq_true, decide_eq_true_iff]
        exact ⟨fun ⟨k', hk', h⟩ => by simp [Value.same] at h; exact h ▸ hk',
          fun h => ⟨k, h, by simp [Value.same]⟩⟩)
    have hshown : (Value.str k).displayChecked = .ok k := rfl
    by_cases hk : k ∈ known
    · simp only [warnUnknownKey, Value.hashable, hany, hk, Bool.not_true, Bool.false_eq_true,
        if_false, decide_true, if_true, List.append_nil]
      rfl
    · simp only [warnUnknownKey, Value.hashable, hany, hk, Bool.not_true, Bool.false_eq_true,
        if_false, decide_false, Bool.not_false, if_true, hshown, String.append_assoc]
      rfl
  simp only [warnUnknownKeys, Value.iterate]
  rw [Loading.run_bind, Loading.run_lift_pure]
  dsimp only
  rw [List.forM_eq_forM, List.forM_map, Loading.run_forM_warns _ _ hkey]
  rfl

theorem warnUnknownSections_run (es : List (String × Value)) (source : String)
    (ws : List String) :
    (warnUnknownSections es source).run.run ws =
      (.ok (), ws ++ unknownKeys ["ui", "logging"] "" source es) := by
  refine Loading.run_forM_warns _ _ (fun e ws => ?_) es ws
  by_cases hk : e.1 ∈ ["ui", "logging"]
  · have hknown : (e.1 != "ui" && e.1 != "logging") = false := by
      simp only [List.mem_cons, List.not_mem_nil, or_false] at hk
      rcases hk with hk | hk <;> simp [hk]
    simp [warnUnknownSection, hknown, hk]
    rfl
  · have hknown : (e.1 != "ui" && e.1 != "logging") = true := by
      simp only [List.mem_cons, List.not_mem_nil, or_false, not_or] at hk
      simp [hk.1, hk.2]
    simp [warnUnknownSection, hknown, hk]


theorem Settings.mergeColor_mem (s : Settings) {c : String} (hc : c ∈ colorValues)
    (source : String) (ws : List String) :
    (s.mergeColor (.str c) source).run.run ws =
      (.ok ({ s with color := c }.setSource "ui.color" source), ws) := by
  have hcon : colorValues.contains c = true := List.contains_iff_mem.mpr hc
  simp only [Settings.mergeColor, Value.hashable, Bool.not_true, Bool.false_eq_true, if_false, hcon,
    if_true]
  rfl

theorem Settings.over_color (s : Settings) (c source : String) :
    s.Over ⟨some c, none, none⟩ source ({ s with color := c }.setSource "ui.color" source) :=
  ⟨by simp, by simp, by simp, fun k => by simp [Overrides.sets]; rfl⟩

theorem Settings.over_verbose (s : Settings) (b : Bool) (source : String) :
    s.Over ⟨none, some b, none⟩ source
      ({ s with verbose := b }.setSource "ui.verbose" source) :=
  ⟨by simp, by simp, by simp, fun k => by simp [Overrides.sets]; rfl⟩

theorem Settings.over_level (s : Settings) (l source : String) :
    s.Over ⟨none, none, some l⟩ source
      ({ s with level := l }.setSource "logging.level" source) :=
  ⟨by simp, by simp, by simp, fun k => by simp [Overrides.sets]; rfl⟩

theorem Settings.mergeUi_table (s : Settings) (es : List (String × Value)) (source : String)
    (ws : List String)
    (hcolor : ∀ v, Value.lookup es "color" = some v → ∃ c ∈ colorValues, v = .str c) :
    ∃ s', (s.mergeUi (.table es) source).run.run ws =
        (.ok s', ws ++ unknownKeys ["color", "verbose"] "ui." source es) ∧
      s.Over ⟨(Value.lookup es "color").bind Value.asString?,
        (Value.lookup es "verbose").map Value.truthy, none⟩ source s' := by
  -- the verbosity is merged last, whether a color came before or not
  have hverbose : ∀ s₁ ws, ∃ s₂,
      ((if sectionHas (Value.table es) "verbose" = true then do
          let verbose ← Loading.lift (sectionGet (Value.table es) "verbose")
          pure ({ s₁ with verbose := verbose.truthy }.setSource "ui.verbose" source)
        else pure s₁ : Loading Settings)).run.run ws = (.ok s₂, ws) ∧
      s₁.Over ⟨none, (Value.lookup es "verbose").map Value.truthy, none⟩ source s₂ := by
    intro s₁ ws
    cases hv : Value.lookup es "verbose" with
    | none => exact ⟨s₁, by rw [sectionHas_table, hv]; rfl, Settings.Over.refl s₁ source⟩
    | some v =>
      exact ⟨_, by rw [run_sectionGet_of_lookup hv]; rfl,
        Settings.over_verbose s₁ v.truthy source⟩
  unfold Settings.mergeUi
  rw [Loading.run_bind, warnUnknownKeys_table]
  dsimp only
  cases hc : Value.lookup es "color" with
  | none =>
    obtain ⟨s₂, hrun, hover⟩ :=
      hverbose s (ws ++ unknownKeys ["color", "verbose"] "ui." source es)
    refine ⟨s₂, ?_, hover⟩
    rw [sectionHas_table, hc]
    simp only [Option.isSome_none, Bool.false_eq_true, if_false]
    rw [Loading.run_bind]
    exact hrun
  | some v =>
    obtain ⟨c, hmem, rfl⟩ := hcolor v hc
    obtain ⟨s₂, hrun, hover⟩ := hverbose ({ s with color := c }.setSource "ui.color" source)
      (ws ++ unknownKeys ["color", "verbose"] "ui." source es)
    refine ⟨s₂, ?_, ?_⟩
    · rw [run_sectionGet_of_lookup hc, Loading.run_bind, Settings.mergeColor_mem s hmem]
      exact hrun
    · simpa [Overrides.andThen, Value.asString?] using (Settings.over_color s c source).trans hover

theorem Settings.mergeLogging_table (s : Settings) (es : List (String × Value)) (source : String)
    (ws : List String)
    (hlevel : ∀ v, Value.lookup es "level" = some v → ∃ l, levelOf? v = .ok (some l)) :
    ∃ s', (s.mergeLogging (.table es) source).run.run ws =
        (.ok s', ws ++ unknownKeys ["level"] "logging." source es) ∧
      s.Over ⟨none, none, (Value.lookup es "level").bind fun v => (levelOf? v).toOption.join⟩
        source s' := by
  unfold Settings.mergeLogging
  rw [Loading.run_bind, warnUnknownKeys_table]
  dsimp only
  cases hv : Value.lookup es "level" with
  | none => exact ⟨s, by rw [sectionHas_table, hv]; rfl, Settings.Over.refl s source⟩
  | some v =>
    obtain ⟨l, hl⟩ := hlevel v hv
    refine ⟨{ s with level := l }.setSource "logging.level" source, ?_, ?_⟩
    · rw [run_sectionGet_of_lookup hv, Loading.run_bind, hl, Loading.run_lift_ok]
      rfl
    · simpa [Except.toOption, hl] using Settings.over_level s l source

/-- Merging a document: the warnings for its unknown entries, then its `ui` section, then its
`logging` section, each where it is present. -/
theorem Settings.merge_eq (s : Settings) (doc : Value) (source : String) :
    s.merge doc source = (do
      warnUnknownSections doc.tableEntries source
      let s ← (doc.section? "ui").elim (pure s) fun ui => s.mergeUi ui source
      (doc.section? "logging").elim (pure s) fun logging => s.mergeLogging logging source) := by
  unfold Settings.merge Value.section?
  dsimp only
  cases Value.lookup doc.tableEntries "ui" <;> cases Value.lookup doc.tableEntries "logging" <;> rfl

/-- The logging section of a sound document, where there is one, warns of its unknown keys and
lays its level over the settings. -/
theorem Settings.mergeLoggingSection_sound (s : Settings) {doc : Value} (h : doc.SoundConfig)
    (source : String) (ws : List String) :
    ∃ s', ((doc.section? "logging").elim (pure s) fun logging =>
        s.mergeLogging logging source).run.run ws =
        (.ok s', ws ++ ((doc.section? "logging").map fun l =>
          unknownKeys ["level"] "logging." source l.tableEntries).getD []) ∧
      s.Over ⟨none, none, doc.levelSetting?⟩ source s' := by
  cases hl : doc.section? "logging" with
  | none =>
    have hnone : doc.levelSetting? = none := by simp [Value.levelSetting?, Value.setting?, hl]
    exact ⟨s, by simp; rfl, hnone ▸ Settings.Over.refl s source⟩
  | some logging =>
    obtain ⟨es, rfl⟩ := h.logging_table _ hl
    obtain ⟨s', hrun, hover⟩ := s.mergeLogging_table es source ws fun v hv =>
      h.level v (by simp [Value.setting?, hl, hv, Value.tableEntries])
    refine ⟨s', by simpa [Value.tableEntries] using hrun, ?_⟩
    simpa [Value.levelSetting?, Value.setting?, hl, Value.tableEntries] using hover

/-- A sound document merges: its unknown keys give their warnings, and its settings are laid
over the earlier ones. -/
theorem Settings.merge_sound (s : Settings) {doc : Value} (h : doc.SoundConfig) (source : String)
    (ws : List String) :
    ∃ s', (s.merge doc source).run.run ws = (.ok s', ws ++ doc.configWarnings source) ∧
      s.Over doc.overrides source s' := by
  rw [Settings.merge_eq, Loading.run_bind, warnUnknownSections_run]
  dsimp only
  cases hu : doc.section? "ui" with
  | none =>
    obtain ⟨s₂, hrun, hover⟩ := s.mergeLoggingSection_sound h source
      (ws ++ unknownKeys ["ui", "logging"] "" source doc.tableEntries)
    refine ⟨s₂, ?_, ?_⟩
    · rw [Option.elim, Loading.run_bind, Loading.run_pure]
      simpa [Value.configWarnings, hu] using hrun
    · have hnone : doc.colorSetting? = none ∧ doc.verboseSetting? = none := by
        simp [Value.colorSetting?, Value.verboseSetting?, Value.setting?, hu]
      simpa [Value.overrides, hnone, Overrides.andThen] using
        (Settings.Over.refl s source).trans hover
  | some ui =>
    obtain ⟨es, rfl⟩ := h.ui_table _ hu
    obtain ⟨s₁, hrun₁, hover₁⟩ := s.mergeUi_table es source
      (ws ++ unknownKeys ["ui", "logging"] "" source doc.tableEntries) fun v hv =>
        h.color v (by simp [Value.setting?, hu, hv, Value.tableEntries])
    obtain ⟨s₂, hrun₂, hover₂⟩ := s₁.mergeLoggingSection_sound h source
      (ws ++ unknownKeys ["ui", "logging"] "" source doc.tableEntries ++
        unknownKeys ["color", "verbose"] "ui." source es)
    refine ⟨s₂, ?_, ?_⟩
    · rw [Option.elim, Loading.run_bind, hrun₁]
      simpa [Value.configWarnings, hu, Value.tableEntries] using hrun₂
    · simpa [Value.overrides, Value.colorSetting?, Value.verboseSetting?, Value.setting?, hu,
        Value.tableEntries, Overrides.andThen] using hover₁.trans hover₂

/-! ## Loading the files -/

/-- The configuration files loading reads, in order: the user file when it is a regular file,
then the repository file found from the start directory. -/
def configFiles (disk : Disk) (start userConfig : DiskPath) : List DiskPath :=
  (if (disk.file? userConfig).isSome then [userConfig] else []) ++
    (findRepoConfig disk start).toList

theorem Settings.load_eq_foldlM (disk : Disk) (start userConfig : DiskPath) (depth : Nat) :
    Settings.load disk start userConfig depth =
      (configFiles disk start userConfig).foldlM (fun s p => s.mergeFile disk p depth) {} := by
  unfold Settings.load configFiles
  cases findRepoConfig disk start <;> by_cases hu : (disk.file? userConfig).isSome <;> simp [hu]

namespace Settings

/-- `s'` is `s` with the documents of some files laid over it in order: each setting is the one
the last file that gives it gives, and names that file as its source. -/
structure LaidOver (s : Settings) (layers : List (DiskPath × Value)) (s' : Settings) : Prop where
  color : s'.color = (layers.reverse.findSome? (·.2.colorSetting?)).getD s.color
  verbose : s'.verbose = (layers.reverse.findSome? (·.2.verboseSetting?)).getD s.verbose
  level : s'.level = (layers.reverse.findSome? (·.2.levelSetting?)).getD s.level
  source : ∀ k, s'.sourceOf k = (layers.reverse.findSome? fun l =>
    if l.2.overrides.sets k then some l.1.text else none).getD (s.sourceOf k)

theorem LaidOver.nil (s : Settings) : s.LaidOver [] s :=
  ⟨rfl, rfl, rfl, fun _ => rfl⟩

/-- Laying a file over the settings, then more files over the result. -/
theorem LaidOver.cons {s s₁ s' : Settings} {l : DiskPath × Value}
    {layers : List (DiskPath × Value)} (h : s.Over l.2.overrides l.1.text s₁)
    (h' : s₁.LaidOver layers s') : s.LaidOver (l :: layers) s' where
  color := by
    rw [h'.color, h.color, List.reverse_cons, List.findSome?_append, Option.getD_or,
      List.findSome?_singleton]
    rfl
  verbose := by
    rw [h'.verbose, h.verbose, List.reverse_cons, List.findSome?_append, Option.getD_or,
      List.findSome?_singleton]
    rfl
  level := by
    rw [h'.level, h.level, List.reverse_cons, List.findSome?_append, Option.getD_or,
      List.findSome?_singleton]
    rfl
  source k := by
    rw [h'.source, h.source, List.reverse_cons, List.findSome?_append, Option.getD_or,
      List.findSome?_singleton]
    cases l.2.overrides.sets k <;> rfl

/-- Files of sound documents merge one after another: each adds its warnings, and the settings
are the files' laid over the first ones. -/
theorem foldlM_mergeFile_sound (disk : Disk) (depth : Nat) :
    ∀ (layers : List (DiskPath × Value)),
    (∀ l ∈ layers, readDocument disk l.1 (depth + 3) = .ok l.2 ∧ l.2.SoundConfig) →
    ∀ (s : Settings) (ws : List String), ∃ s',
      ((layers.map Prod.fst).foldlM (fun (s : Settings) p => s.mergeFile disk p depth) s).run.run
          ws =
        (.ok s', ws ++ layers.flatMap fun l => l.2.configWarnings l.1.text) ∧ s.LaidOver layers s'
  | [], _, s, ws => ⟨s, by simp; rfl, LaidOver.nil s⟩
  | l :: layers, hread, s, ws => by
    obtain ⟨hdoc, hsound⟩ := hread l (List.mem_cons_self ..)
    obtain ⟨s₁, hrun₁, hover₁⟩ := s.merge_sound hsound l.1.text ws
    obtain ⟨s', hrun', hlaid'⟩ := foldlM_mergeFile_sound disk depth layers
      (fun l' hl' => hread l' (List.mem_cons_of_mem _ hl')) s₁ (ws ++ l.2.configWarnings l.1.text)
    refine ⟨s', ?_, hlaid'.cons hover₁⟩
    rw [List.map_cons, List.foldlM_cons, Loading.run_bind, mergeFile, Loading.run_bind, hdoc,
      Loading.run_lift_ok]
    dsimp only
    rw [hrun₁]
    dsimp only
    rw [hrun', List.flatMap_cons, List.append_assoc]

/-- Files of sound documents load: the warnings of their unknown keys, file by file, and their
settings laid over the defaults. -/
theorem load_layers {disk : Disk} {start userConfig : DiskPath} {depth : Nat}
    {layers : List (DiskPath × Value)}
    (hfiles : layers.map Prod.fst = configFiles disk start userConfig)
    (hread : ∀ l ∈ layers, readDocument disk l.1 (depth + 3) = .ok l.2 ∧ l.2.SoundConfig) :
    ∃ s, (Settings.load disk start userConfig depth).run.run [] =
        (.ok s, layers.flatMap fun l => l.2.configWarnings l.1.text) ∧
      ({} : Settings).LaidOver layers s := by
  obtain ⟨s, hrun, hlaid⟩ := foldlM_mergeFile_sound disk depth layers hread {} []
  rw [hfiles] at hrun
  exact ⟨s, by rw [load_eq_foldlM, hrun, List.nil_append], hlaid⟩

end Settings

/-! ## The command line over the files -/

namespace Invocation

/-- How a run past its configuration takes each setting: from the command line where it is
given there, else from the last configuration file that gives it, else its default. The
terminal takes the `--color` choice, else the files' color; an error of the command is
reported verbosely when `--verbose` is given or the files ask for it; debug diagnostics are
shown for `--debug`, else as the files' level says when it is not `WARNING`. -/
structure TakesSettings (inv : Invocation) (caps : CapabilitySet) (s : Schema)
    (ns : Matching.Namespace) (layers : List (DiskPath × Value)) (settings : Settings)
    (warnings : List String) : Prop where
  color : (inv.commandUi s ns settings).color =
    (((ns.get? "global_color").bind Value.asString?).or
      (layers.reverse.findSome? (·.2.colorSetting?))).getD "auto"
  verbose : ∀ v, ns.get? "command" = some v → v ≠ .none →
    inv.run = (settle ns settings warnings *>
      tryCatch (do
          let cmd ← s.parse ns
          let result ← s.dispatch cmd (inv.commandUi s ns settings)
            (inv.commandContext caps s ns settings)
          pure (exitStatusOf result))
        (recover (inv.commandUi s ns settings) (flagOf ns "global_verbose" ||
          (layers.reverse.findSome? (·.2.verboseSetting?)).getD false)))
  debug : ∀ o, ((settle ns settings warnings).run.run o).2.showDebug =
    let level := (layers.reverse.findSome? (·.2.levelSetting?)).getD "WARNING"
    if flagOf ns "global_debug" then true
    else if level = "WARNING" then o.showDebug else decide (level = "DEBUG")

end Invocation

/-- Settings follow the precedence command line, then repository file, then user file, then
defaults. When the configuration files a run reads are sound documents, loading succeeds: each
setting is the one the last file that gives it gives, with that file as its source, or the
default with `default` as its source, and the unknown keys of each file only add their
warnings. The run then takes each setting from the command line where it is given there. -/
theorem settings_follow_precedence (inv : Invocation) (layers : List (DiskPath × Value))
    (hfiles : layers.map Prod.fst = configFiles inv.disk inv.cwd inv.userConfig)
    (hread : ∀ l ∈ layers,
      readDocument inv.disk l.1 (inv.entryDepth + 1 + 3) = .ok l.2 ∧ l.2.SoundConfig) :
    ∃ settings,
      inv.loaded = (.ok settings, layers.flatMap fun l => l.2.configWarnings l.1.text) ∧
      ({} : Settings).LaidOver layers settings ∧
      ∀ caps s ns, inv.Matched caps s ns →
        inv.TakesSettings caps s ns layers settings
          (layers.flatMap fun l => l.2.configWarnings l.1.text) := by
  obtain ⟨settings, hload, hlaid⟩ := Settings.load_layers hfiles hread
  refine ⟨settings, hload, hlaid, fun caps s ns hm =>
    ⟨?_, fun v hcmd hv => ?_, fun o => ?_⟩⟩
  · -- the command line's color, else the files', else the default
    show ((ns.get? "global_color").bind Value.asString?).getD settings.color = _
    rw [hlaid.color, Option.getD_or]
  · rw [← show settings.verbose = _ from hlaid.verbose]
    exact Invocation.run_command hm hload hcmd hv
  · rw [Invocation.settle_run_eq, ← show settings.level = _ from hlaid.level]

theorem readDocument_eq_ok {disk : Disk} {path : DiskPath} {depth : Nat}
    (h : (readDocument disk path depth).toOption.isSome) :
    readDocument disk path depth = .ok ((readDocument disk path depth).toOption.getD .none) := by
  revert h
  cases readDocument disk path depth <;> simp [Except.toOption]

/-- A user file that asks for no colors and for verbose output, under a repository whose file
asks for colors always and for debug logging, and names an editor nobody reads. -/
def layeredDisk : Disk :=
  Disk.ofEntries
    [(["user", "config.toml"], .text "[ui]\ncolor = \"never\"\nverbose = true\n"),
     (["repo", ".jj-cli.toml"],
       .text "editor = \"vi\"\n[ui]\ncolor = \"always\"\n[logging]\nlevel = \"debug\"\n")]
    [["repo", ".git"], ["repo", "src"]]

def layeredRun : Invocation :=
  { argv := ["log"], disk := layeredDisk, cwd := ["repo", "src"]
    userConfig := ["user", "config.toml"] }

def layeredFiles : List (DiskPath × Value) :=
  [["user", "config.toml"], ["repo", ".jj-cli.toml"]].map fun p =>
    (p, (readDocument layeredDisk p 9).toOption.getD .none)

theorem repository_settings_over_user :
    (layeredFiles.map Prod.fst =
        configFiles layeredRun.disk layeredRun.cwd layeredRun.userConfig ∧
      ∀ l ∈ layeredFiles,
        readDocument layeredRun.disk l.1 (layeredRun.entryDepth + 1 + 3) = .ok l.2 ∧ l.2.SoundConfig) ∧
    ∃ settings, layeredRun.loaded =
        (.ok settings, layeredFiles.flatMap fun l => l.2.configWarnings l.1.text) ∧
      ({} : Settings).LaidOver layeredFiles settings ∧
      ∀ caps s ns, layeredRun.Matched caps s ns →
        layeredRun.TakesSettings caps s ns layeredFiles settings
          (layeredFiles.flatMap fun l => l.2.configWarnings l.1.text) := by
  have hfiles : layeredFiles.map Prod.fst =
      configFiles layeredRun.disk layeredRun.cwd layeredRun.userConfig := by decide +kernel
  have hread : ∀ l ∈ layeredFiles,
      readDocument layeredRun.disk l.1 (layeredRun.entryDepth + 1 + 3) = .ok l.2 ∧ l.2.SoundConfig := by
    simp only [layeredFiles, List.map_cons, List.map_nil, List.mem_cons, List.not_mem_nil,
      or_false, forall_eq_or_imp, forall_eq]
    exact ⟨⟨readDocument_eq_ok (by decide +kernel), by decide +kernel⟩,
      readDocument_eq_ok (by decide +kernel), by decide +kernel⟩
  exact ⟨⟨hfiles, hread⟩, settings_follow_precedence layeredRun layeredFiles hfiles hread⟩

end CommandLine
