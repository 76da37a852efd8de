import CommandLine.Proofs.Registration

/-!
# Exactly the enabled commands

Building a schema from a catalog of descriptors registers exactly the names of the commands
the enabled features let in. The build fails with a catalog error exactly when those names,
taken in catalog order, repeat one, and the error names the first repeated name, the command
that registered it first and the command registering it again. Otherwise the schema resolves
each name of an enabled command to that command's canonical name and every other text to
nothing, finds each enabled command by its canonical name and leads every name of a command to
the command's own grammar.

After the names, building lays out the listing of the top-level help, which measures and joins
the names and aliases it shows: a listed command whose name or alias is not text makes the
build fail there, with a type error. The descriptors of a catalog hold texts by their type, so
this failure lies outside it.

`build_registers_enabled_names` states all of it; a lone command named by a number fails to
build (`listing_rejects_number_name`).
-/

namespace CommandLine

namespace Descriptor

/-- A descriptor whose names can all be keys, whose requirement is none or a capability, and
whose argument schema adds its arguments. -/
structure Registrable (d : Descriptor) : Prop where
  plain : d.PlainRequirement
  hashable : ∀ x ∈ d.allNames, x.hashable = true
  args : d.args ≠ .bad

theorem Registrable.buildable {d : Descriptor} (h : d.Registrable) (caps : CapabilitySet) :
    d.Buildable caps :=
  ⟨h.plain, fun _ => h.hashable, fun _ => h.args⟩

/-- A command whose canonical name and listed aliases are texts, as the listing shows them. -/
def TextNames (d : Descriptor) : Prop :=
  (∃ t, d.name = .str t) ∧ ∀ a ∈ d.aliases, ∃ t, a = .str t

end Descriptor

def enabledNames (caps : CapabilitySet) (ds : List Descriptor) : List Value :=
  (ds.filter (·.enabledIn caps)).flatMap Descriptor.allNames

theorem enabledRegistrations_map_fst (caps : CapabilitySet) (ds : List Descriptor) :
    (enabledRegistrations caps ds).map Prod.fst = enabledNames caps ds := by
  simp [enabledRegistrations, enabledNames, List.map_flatMap, Descriptor.registrations_map_fst]

/-- A fault the language raises by itself (a type or attribute error), as opposed to one of
the command line's own errors. -/
def Fault.IsRuntime (f : Fault) : Prop := ∃ k m, f = .runtime k m

/-! ## The listing of the default presentation -/

theorem orderedCategories_default :
    Presentation.orderedCategories {} = .ok (HelpCategory.all.map .category) := rfl

/-- Under the default presentation the listing always exists, and each of its sections is a
category holding commands that are not hidden. -/
theorem listingOf_default (ds : List Descriptor) :
    ∃ listing, listingOf {} ds = .ok listing ∧
      ∀ pe ∈ listing, (∃ c, pe.1 = .category c) ∧ ∀ d ∈ pe.2, d ∈ ds ∧ d.hidden = false := by
  simp only [listingOf, orderedCategories_default, Except.ok_bind]
  refine ⟨_, rfl, fun pe hpe => ?_⟩
  obtain ⟨p, hp, hsome⟩ := List.mem_filterMap.mp hpe
  obtain ⟨c, -, rfl⟩ := List.mem_map.mp hp
  split at hsome
  · cases hsome
  · cases hsome
    refine ⟨⟨c, rfl⟩, fun d hd => ?_⟩
    simp only [List.mem_filter, Bool.and_eq_true, Bool.not_eq_eq_eq_not, Bool.not_true] at hd
    exact ⟨hd.1, hd.2.2⟩

theorem nameLength_error {v : Value} {f : Fault} (h : nameLength v = .error f) :
    f.IsRuntime ∧ ∀ t, v ≠ .str t := by
  unfold nameLength at h
  split at h
  · cases h
  · next hv =>
    cases h
    exact ⟨⟨_, _, rfl⟩, fun t ht => hv t ht⟩

theorem joinTexts_error {sep : String} {vs : List Value} {f : Fault}
    (h : joinTexts sep vs = .error f) : f.IsRuntime ∧ ∃ v ∈ vs, ∀ t, v ≠ .str t := by
  unfold joinTexts at h
  rcases Except.bind_eq_error.mp h with h | ⟨_, -, h⟩
  · obtain ⟨⟨v, i⟩, hmem, h⟩ := Except.mapM_eq_error h
    refine ⟨?_, v, List.fst_mem_of_mem_zipIdx hmem, fun t ht => ?_⟩
    · cases v <;> simp at h <;> exact ⟨_, _, h.symm⟩
    · subst ht
      simp at h
  · cases h

/-- Laying out listing rows fails only on a command whose name or listed alias is not text,
and then with a type error. -/
theorem listingRows_error {entries : List Descriptor} {f : Fault}
    (h : listingRows entries = .error f) : f.IsRuntime ∧ ∃ d ∈ entries, ¬ d.TextNames := by
  unfold listingRows at h
  rcases Except.bind_eq_error.mp h with h | ⟨_, -, h⟩
  · obtain ⟨d, hd, h⟩ := Except.mapM_eq_error h
    obtain ⟨hrun, hname⟩ := nameLength_error h
    exact ⟨hrun, d, hd, fun ⟨⟨t, ht⟩, _⟩ => hname t ht⟩
  · obtain ⟨d, hd, h⟩ := Except.mapM_eq_error h
    simp only at h
    split at h
    · simp at h
    · rcases Except.bind_eq_error.mp h with h | ⟨_, -, h⟩
      · obtain ⟨hrun, v, hv, hnot⟩ := joinTexts_error h
        exact ⟨hrun, d, hd, fun ⟨_, halias⟩ => by
          obtain ⟨t, ht⟩ := halias v hv
          exact hnot t ht⟩
      · simp at h

/-- Listing rows are laid out for commands with text names and aliases. -/
theorem listingRows_ok {entries : List Descriptor} (h : ∀ d ∈ entries, d.TextNames) :
    ∃ rows, listingRows entries = .ok rows := by
  cases hrows : listingRows entries with
  | ok rows => exact ⟨rows, rfl⟩
  | error f =>
    obtain ⟨-, d, hd, hnot⟩ := listingRows_error hrows
    exact absurd (h d hd) hnot

/-- Laying out the sections of a listing of categories fails only on a listed command whose
name or alias is not text, and then with a type error. -/
theorem listingSections_error {listing : List (Placement × List Descriptor)} {f : Fault}
    (hcat : ∀ pe ∈ listing, ∃ c, pe.1 = .category c) (h : listingSections listing = .error f) :
    f.IsRuntime ∧ ∃ pe ∈ listing, ∃ d ∈ pe.2, ¬ d.TextNames := by
  obtain ⟨⟨p, entries⟩, hpe, h⟩ := Except.mapM_eq_error h
  obtain ⟨c, rfl⟩ := hcat _ hpe
  simp only [Placement.heading, Except.pure_eq_ok, Except.ok_bind] at h
  rcases Except.bind_eq_error.mp h with h | ⟨_, -, h⟩
  · obtain ⟨hrun, d, hd, hnot⟩ := listingRows_error h
    exact ⟨hrun, _, hpe, d, hd, hnot⟩
  · simp at h

/-! ## The build under the default presentation -/

section Default

variable {cat : Catalog} {caps : CapabilitySet}

/-- Once the walk over the catalog succeeds, the build can still fail only in the listing,
with a type error, on a listed command whose name or alias is not text. -/
theorem Schema.build_error_of_walk {r : Registry} {f : Fault}
    (hr : cat.entries.foldlM (Registry.add "jj" {} caps) {} = .ok r)
    (h : Schema.build cat caps {} = .error f) :
    f.IsRuntime ∧ ∃ d ∈ r.descriptors, d.hidden = false ∧ ¬ d.TextNames := by
  obtain ⟨listing, hl, hlisting⟩ := listingOf_default r.descriptors
  rw [@Schema.build_of_walk cat caps {} r listing hr hl] at h
  cases hsec : listingSections listing with
  | ok sections =>
    rw [hsec] at h
    cases h
  | error f' =>
    rw [hsec] at h
    cases h
    obtain ⟨hrun, pe, hpe, d, hd, hnot⟩ :=
      listingSections_error (fun pe hpe => (hlisting pe hpe).1) hsec
    obtain ⟨hmem, hvis⟩ := (hlisting pe hpe).2 d hd
    exact ⟨hrun, d, hmem, hvis, hnot⟩

/-- Once the walk over the catalog succeeds, the schema is built when every listed command
has text names. -/
theorem Schema.build_ok_of_walk {r : Registry}
    (hr : cat.entries.foldlM (Registry.add "jj" {} caps) {} = .ok r)
    (htext : ∀ d ∈ r.descriptors, d.hidden = false → d.TextNames) :
    ∃ s, Schema.build cat caps {} = .ok s := by
  cases hb : Schema.build cat caps {} with
  | ok s => exact ⟨s, rfl⟩
  | error f =>
    obtain ⟨-, d, hd, hvis, hnot⟩ := Schema.build_error_of_walk hr hb
    exact absurd (htext d hd hvis) hnot

end Default

/-! ## Lookups of texts that are not registered -/

theorem Schema.resolve?_str_of_not_mem {s : Schema} {t : String}
    (h : .str t ∉ s.matchableNames) : s.resolve? (.str t) = .ok none :=
  Schema.resolve?_eq_none rfl fun y hy => by
    cases hs : y.1.same (.str t)
    · rfl
    · exact absurd (List.mem_map.mpr ⟨y, hy, (Value.same_str_iff _ _).mp hs⟩) h

/-- A text that is no command's canonical name finds no command. -/
theorem Schema.get?_str_of_not_mem {s : Schema} {t : String}
    (h : ∀ d ∈ s.descriptors, d.name ≠ .str t) : s.get? (.str t) = .ok none := by
  have hnone : s.descriptors.find? (·.name.same (.str t)) = none :=
    find?_same_eq_none (fun d : Descriptor => d.name) fun d hd => by
      cases hs : d.name.same (.str t)
      · rfl
      · exact absurd ((Value.same_str_iff _ _).mp hs) (h d hd)
  simp [Schema.get?, Value.hashable, hnone]

theorem Schema.grammarFor?_str_of_not_mem {s : Schema} {t : String}
    (h : .str t ∉ s.matchableNames) : s.grammarFor? (.str t) = .ok none := by
  simp [Schema.grammarFor?, Schema.resolve?_str_of_not_mem h]

/-! ## What a built schema registers -/

/-- What a schema built from a list of descriptors registers, against the descriptors the
enabled features let in: exactly their names, each leading to its own command. -/
structure Schema.RegistersExactly (caps : CapabilitySet) (ds : List Descriptor) (s : Schema) :
    Prop where
  /-- The commands are the enabled descriptors, in catalog order. -/
  descriptors : s.descriptors = ds.filter (·.enabledIn caps)
  /-- The matchable names are the enabled names, in catalog order. -/
  names : s.matchableNames = enabledNames caps ds
  /-- Every name of a command resolves to its canonical name. -/
  resolve_name : ∀ d ∈ s.descriptors, ∀ x ∈ d.allNames, s.resolve? x = .ok (some d.name)
  /-- Every other text resolves to nothing. -/
  resolve_other : ∀ t : String, .str t ∉ enabledNames caps ds → s.resolve? (.str t) = .ok none
  /-- Every command is found by its canonical name. -/
  get_name : ∀ d ∈ s.descriptors, s.get? d.name = .ok (some d)
  /-- A text that is no canonical name finds nothing. -/
  get_other : ∀ t : String, (∀ d ∈ s.descriptors, d.name ≠ .str t) → s.get? (.str t) = .ok none
  /-- Every name of a command whose canonical name is true leads to the command's grammar. -/
  grammar_name : ∀ d ∈ s.descriptors, d.name.truthy = true → ∀ x ∈ d.allNames,
    ∃ g, d.grammar s.program s.presentation.styles = .ok g ∧ s.grammarFor? x = .ok (some g)
  /-- Every other text leads to no grammar. -/
  grammar_other : ∀ t : String, .str t ∉ enabledNames caps ds → s.grammarFor? (.str t) = .ok none

/-- A well-built schema of a catalog of descriptors registers exactly the enabled ones. -/
theorem Schema.WellBuilt.registersExactly {s : Schema} (hs : s.WellBuilt) {ds : List Descriptor}
    (hcat : s.catalog.entries = ds.map .descriptor) : s.RegistersExactly s.capabilities ds := by
  have hdesc : s.descriptors = ds.filter (·.enabledIn s.capabilities) := by
    obtain ⟨ds', hds', -, hfilter⟩ := hs.catalog
    have hsame : ds' = ds :=
      (List.map_inj_right fun _ _ h => Entry.descriptor.inj h).mp (hds'.symm.trans hcat)
    rw [hfilter, hsame]
  have hnames : s.matchableNames = enabledNames s.capabilities ds := by
    show s.names.map Prod.fst = _
    rw [hs.names, hdesc, ← enabledRegistrations_map_fst]
    rfl
  exact {
    descriptors := hdesc
    names := hnames
    resolve_name := fun _ hd _ hx => hs.resolve?_of_mem hd hx
    resolve_other := fun _ ht => Schema.resolve?_str_of_not_mem (hnames ▸ ht)
    get_name := fun _ hd => hs.get?_of_mem hd
    get_other := fun _ ht => Schema.get?_str_of_not_mem ht
    grammar_name := fun _ hd htrue _ hx => hs.grammarFor?_of_mem hd htrue hx
    grammar_other := fun _ ht => Schema.grammarFor?_str_of_not_mem (hnames ▸ ht) }

/-- A schema built from a catalog of descriptors registers exactly the enabled ones. -/
theorem Schema.build_registersExactly {ds : List Descriptor} {caps : CapabilitySet}
    {pres : Presentation} {verify : Bool} {s : Schema}
    (h : Schema.build ⟨ds.map .descriptor⟩ caps pres verify = .ok s) :
    s.RegistersExactly caps ds := by
  have hs := Schema.build_wellBuilt h
  obtain ⟨r, listing, sections, -, -, rfl⟩ := Schema.build_eq_ok h
  exact hs.registersExactly rfl

/-! ## Building a catalog of descriptors -/

section Descriptors

variable {ds : List Descriptor} {caps : CapabilitySet} (hb : ∀ d ∈ ds, d.Buildable caps)
include hb

/-- A repeated enabled name fails the build with the first repeat the walk meets. -/
theorem Schema.build_of_repeat {x first o : Value}
    (hfr : firstRepeat [] (enabledRegistrations caps ds) = some (x, first, o))
    (pres : Presentation) :
    Schema.build ⟨ds.map .descriptor⟩ caps pres = .error (.cli (duplicateName x first o)) := by
  apply Schema.build_of_walk_error
  rw [foldlM_add _ _ _ ds {} hb]
  simp [hfr]

/-- With distinct enabled names the walk registers the enabled descriptors. -/
theorem walk_of_distinct (hd : Distinct (enabledNames caps ds)) (program : String)
    (styles : Styles) :
    (ds.map Entry.descriptor).foldlM (Registry.add program styles caps) {} = .ok
      { descriptors := ds.filter (·.enabledIn caps)
        names := enabledRegistrations caps ds
        grammars := (ds.filter (·.enabledIn caps)).filterMap (·.grammarOf? program styles) } := by
  have hfr : firstRepeat [] (enabledRegistrations caps ds) = none := by
    rw [firstRepeat_eq_none_iff [] _ (by simp [Distinct]), List.nil_append,
      enabledRegistrations_map_fst]
    exact hd
  rw [foldlM_add _ _ _ ds {} hb]
  simp [hfr]

/-- Under the default presentation, the build fails with a catalog error exactly when an
enabled name repeats. -/
theorem Schema.build_catalog_error_iff :
    (∃ e, Schema.build ⟨ds.map .descriptor⟩ caps {} = .error (.cli e) ∧ e.kind = .catalog) ↔
      ¬ Distinct (enabledNames caps ds) := by
  have hiff := firstRepeat_eq_none_iff [] (enabledRegistrations caps ds) (by simp [Distinct])
  rw [List.nil_append, enabledRegistrations_map_fst] at hiff
  cases hfr : firstRepeat [] (enabledRegistrations caps ds) with
  | some t =>
    obtain ⟨x, first, o⟩ := t
    refine iff_of_true ⟨_, Schema.build_of_repeat hb hfr {}, rfl⟩ fun hd => ?_
    rw [hiff.mpr hd] at hfr
    cases hfr
  | none =>
    have hd := hiff.mp hfr
    refine iff_of_false ?_ fun hn => hn hd
    rintro ⟨e, he, -⟩
    -- past the walk only the listing can fail, and it fails with a type error
    obtain ⟨⟨k, m, hkm⟩, -⟩ := Schema.build_error_of_walk (walk_of_distinct hb hd _ _) he
    cases hkm

/-- The first repeated name is the one reported, with the command that registered it first
and the command registering it again. -/
theorem Schema.build_first_repeat {pre post : List (Value × Value)} {x o y first : Value}
    (hsplit : enabledRegistrations caps ds = pre ++ (x, o) :: post)
    (hpre : Distinct (pre.map Prod.fst)) (hfind : pre.find? (·.1.same x) = some (y, first))
    (pres : Presentation) :
    Schema.build ⟨ds.map .descriptor⟩ caps pres = .error (.cli (duplicateName x first o)) := by
  have hfr : firstRepeat [] (enabledRegistrations caps ds) = some (x, first, o) := by
    rw [hsplit]
    exact firstRepeat_of_split [] pre post x o y first hpre hfind
  exact Schema.build_of_repeat hb hfr pres

/-- Under the default presentation, distinct enabled names and text names for every listed
command build the schema. -/
theorem Schema.build_ok_of_distinct (hd : Distinct (enabledNames caps ds))
    (htext : ∀ d ∈ ds, d.enabledIn caps = true → d.hidden = false → d.TextNames) :
    ∃ s, Schema.build ⟨ds.map .descriptor⟩ caps {} = .ok s :=
  Schema.build_ok_of_walk (walk_of_distinct hb hd _ _) fun d hd' hvis =>
    have hmem := List.mem_filter.mp hd'
    htext d hmem.1 hmem.2 hvis

end Descriptors

/-- What building a catalog of descriptors does under the default presentation, as the names
of its enabled commands decide it. -/
structure RegistersEnabledNames (caps : CapabilitySet) (ds : List Descriptor) : Prop where
  /-- The build fails with a catalog error exactly when an enabled name repeats. -/
  catalog_error_iff :
    (∃ e, Schema.build ⟨ds.map .descriptor⟩ caps {} = .error (.cli e) ∧ e.kind = .catalog) ↔
      ¬ Distinct (enabledNames caps ds)
  /-- The error names the first repeated name, with the command that registered it first and
  the command registering it again. -/
  first_repeat : ∀ pre post x o y first, enabledRegistrations caps ds = pre ++ (x, o) :: post →
    Distinct (pre.map Prod.fst) → pre.find? (·.1.same x) = some (y, first) →
    Schema.build ⟨ds.map .descriptor⟩ caps {} = .error (.cli (duplicateName x first o))
  /-- A built schema registers exactly the enabled names. -/
  registers : ∀ s, Schema.build ⟨ds.map .descriptor⟩ caps {} = .ok s → s.RegistersExactly caps ds
  /-- With distinct names, and text names for every listed command, the schema is built. -/
  builds : Distinct (enabledNames caps ds) →
    (∀ d ∈ ds, d.enabledIn caps = true → d.hidden = false → d.TextNames) →
    ∃ s, Schema.build ⟨ds.map .descriptor⟩ caps {} = .ok s

/-- Building a catalog of registrable descriptors registers exactly the names of the enabled
ones: it fails with a catalog error exactly when one repeats, reporting the first repeat, and
otherwise builds a schema that resolves each of them to its command, once the listed names
are texts. -/
theorem build_registers_enabled_names (ds : List Descriptor) (caps : CapabilitySet)
    (hreg : ∀ d ∈ ds, d.Registrable) : RegistersEnabledNames caps ds := by
  have hb : ∀ d ∈ ds, d.Buildable caps := fun d hd => (hreg d hd).buildable caps
  exact ⟨Schema.build_catalog_error_iff hb,
    fun _ _ _ _ _ _ hsplit hpre hfind => Schema.build_first_repeat hb hsplit hpre hfind {},
    fun _ => Schema.build_registersExactly,
    Schema.build_ok_of_distinct hb⟩

/-- A catalog of a command with an alias and a command whose feature is off. -/
theorem build_registers_log_not_bench :
    (∀ d ∈ ([{ name := .str "log", handler := .help, args := .raw, aliases := [.str "l"] },
        { name := .str "bench", handler := .version, args := .none,
          requires := .needs .bench }] : List Descriptor), d.Registrable) ∧
    RegistersEnabledNames .standard
      [{ name := .str "log", handler := .help, args := .raw, aliases := [.str "l"] },
        { name := .str "bench", handler := .version, args := .none,
          requires := .needs .bench }] := by
  refine ⟨?reg, build_registers_enabled_names _ _ ?reg⟩
  simp only [List.mem_cons, List.not_mem_nil, or_false]
  rintro d (rfl | rfl) <;>
    exact ⟨(fun _ h => by cases h), by simp [Descriptor.allNames, Value.hashable], by decide⟩

/-- A lone command named by a number: it can be registered and its name repeats nothing, but
the listing measures the name as text and the build fails with a type error. -/
theorem listing_rejects_number_name :
    (∀ d ∈ ([{ name := .int 1, handler := .version, args := .none }] : List Descriptor),
      d.Registrable) ∧
    Distinct (enabledNames .standard [{ name := .int 1, handler := .version, args := .none }]) ∧
    Schema.build ⟨[.descriptor { name := .int 1, handler := .version, args := .none }]⟩
      .standard {} = .error (.runtime .type "object of type 'int' has no len()") := by
  refine ⟨?_, by decide, rfl⟩
  simp only [List.mem_cons, List.not_mem_nil, or_false]
  rintro d rfl
  exact ⟨(fun _ h => by cases h), by simp [Descriptor.allNames, Value.hashable], by decide⟩

end CommandLine
