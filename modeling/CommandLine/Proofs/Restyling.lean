import CommandLine.Proofs.MatchAlike
import CommandLine.Proofs.DisabledCommands

/-!
# Presentation never changes matching

A presentation chooses the styles of help and the order of the listing's categories; a
catalog's help texts and categories only feed the help pages and the listing. Restyling a
catalog (`Catalog.Restyled`: other help texts, other categories) and building it with a
presentation of the same program name gives a schema that matches every line as before.

The build keeps the names and arguments of the commands, so the two schemas have the same
names, command grammars that match alike, and top-level grammars that match alike
(`Schema.build_restyled`). For the top level this needs the listed names of the two listings
to be the same names, in another order: a listing whose sections all have headings lists
exactly the enabled commands that are not hidden and sit in a category, whatever the order of
the categories (`mem_listedNames_iff`). Matching then runs alike by `Grammar.parse_alike`, and
decoding finds commands that differ only in their help texts and categories, which it does not
read.

`Schema.MatchAlike` says what it means for two schemas to match and decode alike, and
`presentation_never_changes_matching` that restyled builds do.
-/

namespace CommandLine

open Matching ScanM

/-! ## Relating lists element by element -/

section Forall₂

variable {α β γ : Type} {R : α → β → Prop} {l₁ : List α} {l₂ : List β}

theorem forall₂_map_eq {f : α → γ} {g : β → γ} (h : List.Forall₂ R l₁ l₂)
    (hfg : ∀ a b, R a b → f a = g b) : l₁.map f = l₂.map g := by
  have hmap : List.Forall₂ (· = ·) (l₁.map f) (l₂.map g) := List.rel_map hfg h
  rwa [List.forall₂_eq_eq_eq] at hmap

/-- Related lists find related members, or none, with predicates that agree on related
members. -/
theorem forall₂_find? {p : α → Bool} {q : β → Bool} (h : List.Forall₂ R l₁ l₂)
    (hpq : ∀ a b, R a b → p a = q b) :
    (l₁.find? p = none ∧ l₂.find? q = none) ∨
      ∃ a b, R a b ∧ l₁.find? p = some a ∧ l₂.find? q = some b := by
  induction h with
  | nil => exact .inl ⟨rfl, rfl⟩
  | @cons a b l₁ l₂ hab _ ih =>
    rw [List.find?_cons, List.find?_cons, hpq a b hab]
    cases q b with
    | true => exact .inr ⟨a, b, hab, rfl, rfl⟩
    | false => exact ih

theorem forall₂_exists_iff {P : α → Prop} {Q : β → Prop} (h : List.Forall₂ R l₁ l₂)
    (hPQ : ∀ a b, R a b → (P a ↔ Q b)) : (∃ a ∈ l₁, P a) ↔ (∃ b ∈ l₂, Q b) := by
  induction h with
  | nil => simp
  | @cons a b l₁ l₂ hab _ ih => simp only [List.mem_cons, exists_eq_or_imp, hPQ a b hab, ih]

end Forall₂

/-! ## Restyled catalogs -/

/-- Two placements a restyling may exchange: any two categories, or the very same other
value. -/
def Placement.Restyled : Placement → Placement → Prop
  | .category _, .category _ => True
  | .other v, .other w => v = w
  | _, _ => False

/-- Two descriptors that differ at most in their help text and in the category they are
listed under. -/
structure Descriptor.Restyled (d₁ d₂ : Descriptor) : Prop where
  name : d₁.name = d₂.name
  handler : d₁.handler = d₂.handler
  args : d₁.args = d₂.args
  aliases : d₁.aliases = d₂.aliases
  hiddenAliases : d₁.hiddenAliases = d₂.hiddenAliases
  hidden : d₁.hidden = d₂.hidden
  placement : d₁.placement.Restyled d₂.placement
  requires : d₁.requires = d₂.requires

/-- Two catalog entries a restyling may exchange. -/
def Entry.Restyled : Entry → Entry → Prop
  | .descriptor d₁, .descriptor d₂ => d₁.Restyled d₂
  | .foreign v, .foreign w => v = w
  | _, _ => False

/-- Two catalogs that differ at most in the help texts of their commands and in the
categories they are listed under. -/
def Catalog.Restyled (c₁ c₂ : Catalog) : Prop := List.Forall₂ Entry.Restyled c₁.entries c₂.entries

namespace Descriptor.Restyled

variable {d₁ d₂ : Descriptor} (h : d₁.Restyled d₂)
include h

theorem enabledIn (caps : CapabilitySet) : d₁.enabledIn caps = d₂.enabledIn caps := by
  simp [Descriptor.enabledIn, Descriptor.capability?, h.requires]

theorem registrations : d₁.registrations = d₂.registrations := by
  simp [Descriptor.registrations, Descriptor.allNames, h.name, h.aliases, h.hiddenAliases]

theorem isCategory : d₁.category?.isSome = d₂.category?.isSome := by
  have hp := h.placement
  unfold Descriptor.category?
  cases hp₁ : d₁.placement <;> cases hp₂ : d₂.placement <;>
    simp_all [Placement.Restyled]

/-- A restyled command's grammar matches as the command's grammar did: only the description
(its help text) and the styles change. -/
theorem grammarOf? (program : String) (sty₁ sty₂ : Styles) :
    Option.Rel (fun a b => a.1 = b.1 ∧ a.2.Restyled b.2)
      (d₁.grammarOf? program sty₁) (d₂.grammarOf? program sty₂) := by
  unfold Descriptor.grammarOf? Descriptor.grammar
  rw [h.args, h.name]
  cases d₂.args with
  | bad => exact .none
  | _ => exact .some ⟨rfl, rfl, rfl, rfl, rfl, rfl, rfl, rfl, rfl, fun _ => Iff.rfl⟩

theorem decodeAs (ns : Namespace) : Schema.decodeAs d₁ ns = Schema.decodeAs d₂ ns := by
  simp only [Schema.decodeAs, Descriptor.label, h.args, h.name]

end Descriptor.Restyled

/-! ## The listing -/

theorem HelpCategory.mem_all (c : HelpCategory) : c ∈ HelpCategory.all := by
  cases c <;> simp [HelpCategory.all]

/-- Every category has a place in the order of the listing, whatever order the presentation
chooses. -/
theorem Presentation.category_mem_orderedCategories {pres : Presentation}
    {order : List Placement} (h : pres.orderedCategories = .ok order) (c : HelpCategory) :
    .category c ∈ order := by
  unfold Presentation.orderedCategories at h
  obtain ⟨firsts, -, h⟩ := Except.bind_eq_ok.mp h
  cases h
  by_cases hc : firsts.any (·.same (.category c)) = true
  · -- a placement the same as a category is that category
    obtain ⟨p, hp, hsame⟩ := List.any_eq_true.mp hc
    have hpc : p = .category c := by
      cases p <;> simp_all [Placement.same]
    exact List.mem_append_left _ (hpc ▸ hp)
  · refine List.mem_append_right _ (List.mem_map.mpr ⟨c, List.mem_filter.mpr ⟨c.mem_all, ?_⟩, rfl⟩)
    simpa using hc

/-- A listing whose sections all have headings has only categories. -/
theorem listingSections_categories {listing : List (Placement × List Descriptor)}
    {sections : List (String × List String)} (h : listingSections listing = .ok sections) :
    ∀ pe ∈ listing, ∃ c, pe.1 = .category c := by
  intro pe hpe
  obtain ⟨r, hr⟩ := Except.ok_of_mapM_ok h pe hpe
  obtain ⟨p, entries⟩ := pe
  cases p with
  | category c => exact ⟨c, rfl⟩
  | other v => simp [Placement.heading] at hr

theorem Descriptor.category?_isSome_iff {d : Descriptor} :
    d.category?.isSome ↔ ∃ c, d.placement = .category c := by
  unfold Descriptor.category?
  cases d.placement <;> simp

theorem Placement.identical_category_iff {p : Placement} {c : HelpCategory} :
    p.identical (.category c) ↔ p = .category c := by
  cases p <;> simp [Placement.identical]

/-- A listing whose sections all have headings lists exactly the names of the commands that
are not hidden and sit in a category, whatever the order of the categories. -/
theorem mem_listedNames_iff {pres : Presentation} {ds : List Descriptor}
    {listing : List (Placement × List Descriptor)} {sections : List (String × List String)}
    (hl : listingOf pres ds = .ok listing) (hs : listingSections listing = .ok sections)
    (x : String) :
    x ∈ listedNames listing ↔
      ∃ d ∈ ds, d.hidden = false ∧ d.category?.isSome ∧ .str x ∈ d.name :: d.aliases := by
  have hcat := listingSections_categories hs
  rw [mem_listedNames_iff_entries]
  unfold listingOf at hl
  obtain ⟨order, hord, hl⟩ := Except.bind_eq_ok.mp hl
  cases hl
  constructor
  · rintro ⟨pe, hpe, d, hd, hx⟩
    obtain ⟨c, hc⟩ := hcat pe hpe
    obtain ⟨p, -, hsome⟩ := List.mem_filterMap.mp hpe
    dsimp only at hsome
    split at hsome
    · cases hsome
    · cases hsome
      dsimp only at hc
      subst hc
      simp only [List.mem_filter, Bool.and_eq_true, Bool.not_eq_eq_eq_not, Bool.not_true,
        Placement.identical_category_iff] at hd
      obtain ⟨hd, hident, hhidden⟩ := hd
      exact ⟨d, hd, hhidden, Descriptor.category?_isSome_iff.mpr ⟨c, hident⟩, hx⟩
  · rintro ⟨d, hd, hhidden, hsits, hx⟩
    obtain ⟨c, hc⟩ := Descriptor.category?_isSome_iff.mp hsits
    -- the command's own category collects it
    have hmem : d ∈ ds.filter fun d' => d'.placement.identical (.category c) && !d'.hidden := by
      simp [hd, hc, hhidden, Placement.identical]
    have hne : (ds.filter fun d' => d'.placement.identical (.category c) && !d'.hidden).isEmpty =
        false := List.isEmpty_eq_false_iff_exists_mem.mpr ⟨d, hmem⟩
    refine ⟨((.category c, ds.filter fun d' => d'.placement.identical (.category c) && !d'.hidden) :
      Placement × List Descriptor), ?_, d, hmem, hx⟩
    refine List.mem_filterMap.mpr ⟨.category c, Presentation.category_mem_orderedCategories hord c, ?_⟩
    dsimp only
    rw [hne]
    rfl

/-! ## Restyled builds -/

/-- Two schemas whose commands match alike: the same names, grammars that match alike command
by command, top-level grammars that match alike, and commands that differ at most in their
help texts and categories. -/
structure Schema.Restyled (s₁ s₂ : Schema) : Prop where
  names : s₁.names = s₂.names
  grammars : List.Forall₂ (fun a b => a.1 = b.1 ∧ a.2.Restyled b.2) s₁.grammars s₂.grammars
  top : s₁.top.Restyled s₂.top
  descriptors : List.Forall₂ Descriptor.Restyled s₁.descriptors s₂.descriptors

/-- A restyled catalog built with a presentation of the same program name gives a schema whose
commands match alike. -/
theorem Schema.build_restyled {cat₁ cat₂ : Catalog} {caps : CapabilitySet}
    {pres₁ pres₂ : Presentation} {verify₁ verify₂ : Bool} {s₁ s₂ : Schema}
    (hcat : cat₁.Restyled cat₂) (hprog : pres₁.program = pres₂.program)
    (h₁ : Schema.build cat₁ caps pres₁ verify₁ = .ok s₁)
    (h₂ : Schema.build cat₂ caps pres₂ verify₂ = .ok s₂) : s₁.Restyled s₂ := by
  obtain ⟨ds₁, L₁, secs₁, he₁, -, -, hl₁, hs₁, rfl⟩ := Schema.build_parts h₁
  obtain ⟨ds₂, L₂, secs₂, he₂, -, -, hl₂, hs₂, rfl⟩ := Schema.build_parts h₂
  have hds : List.Forall₂ Descriptor.Restyled ds₁ ds₂ := by
    unfold Catalog.Restyled at hcat
    rwa [he₁, he₂, List.forall₂_map_left_iff, List.forall₂_map_right_iff] at hcat
  have hen : List.Forall₂ Descriptor.Restyled (ds₁.filter (·.enabledIn caps))
      (ds₂.filter (·.enabledIn caps)) :=
    List.rel_filter (fun d₁ d₂ hd => by simp only [hd.enabledIn caps]) hds
  have hnames : enabledRegistrations caps ds₁ = enabledRegistrations caps ds₂ := by
    unfold enabledRegistrations
    rw [List.flatMap_def, List.flatMap_def,
      forall₂_map_eq hen fun d₁ d₂ hd => hd.registrations]
  -- the two listings list the same names
  have hlisted : ∀ x, x ∈ listedNames L₁ ↔ x ∈ listedNames L₂ := by
    intro x
    rw [mem_listedNames_iff hl₁ hs₁, mem_listedNames_iff hl₂ hs₂]
    refine forall₂_exists_iff hen fun d₁ d₂ hd => ?_
    rw [hd.hidden, hd.isCategory, hd.name, hd.aliases]
  refine ⟨hnames, ?_, ?_, hen⟩
  · dsimp only
    rw [hprog]
    exact List.rel_filterMap (fun d₁ d₂ hd => hd.grammarOf? _ _ _) hen
  · dsimp only
    rw [hprog, hnames]
    exact ⟨rfl, rfl, rfl, rfl, rfl, rfl, rfl, rfl, hlisted⟩

namespace Schema.Restyled

variable {s₁ s₂ : Schema} (h : s₁.Restyled s₂)
include h

/-- A command name hands the rest of the line to grammars that match alike, or to none on
both schemas. -/
theorem subcommand_alike (columns : Int) (name : String) (rest : List String) :
    Alike columns (s₁.subcommand columns name rest) (s₂.subcommand columns name rest) := by
  unfold Schema.subcommand
  rw [h.names]
  cases s₂.names.find? (·.1.same (.str name)) with
  | none => exact alike_of_eq rfl
  | some entry =>
    obtain ⟨_, canonical⟩ := entry
    simp only [Option.bind_some]
    rcases forall₂_find? (p := (·.1.same canonical)) (q := (·.1.same canonical)) h.grammars
        (fun a b hab => by rw [hab.1]) with ⟨hf₁, hf₂⟩ | ⟨⟨_, g₁⟩, ⟨_, g₂⟩, ⟨-, hg⟩, hf₁, hf₂⟩
    · rw [hf₁, hf₂]
      exact alike_of_eq rfl
    · rw [hf₁, hf₂]
      exact Grammar.parseKnown_alike hg (fun _ _ => alike_of_eq rfl) rest

theorem matchArgs_alike (columns : Int) (argv : List String) (terminal : Bool) :
    RunsAlike columns (s₁.matchArgs columns argv terminal) (s₂.matchArgs columns argv terminal) :=
  Grammar.parse_alike h.top (h.subcommand_alike columns) argv { terminal }

/-- Decoding reads of a command only its name and arguments, which a restyling keeps. -/
theorem parse_eq (ns : Namespace) : s₁.parse ns = s₂.parse ns := by
  by_cases hnone : commandNameIn ns = .none
  · rw [Schema.parse_nothing hnone, Schema.parse_nothing hnone]
  · rw [Schema.parse_named hnone, Schema.parse_named hnone]
    cases hh : (commandNameIn ns).hashable with
    | false => rw [Schema.get?_unhashable hh, Schema.get?_unhashable hh]
    | true =>
      simp only [Schema.get?, hh, Bool.not_true, Bool.false_eq_true, if_false]
      rcases forall₂_find? (p := (·.name.same (commandNameIn ns)))
          (q := (·.name.same (commandNameIn ns))) h.descriptors
          (fun d₁ d₂ hd => by rw [hd.name]) with ⟨hf₁, hf₂⟩ | ⟨d₁, d₂, hd, hf₁, hf₂⟩
      · rw [hf₁, hf₂]
      · rw [hf₁, hf₂]
        simp only [liftFault, Except.pure_eq_ok, pure_bind, hd.decodeAs]

end Schema.Restyled

/-- Two schemas that cannot be told apart by matching and decoding: every line matches alike
on them (to the same namespace, usage error, page or fault, in the same state, unless each
prints a help page of its own), and every namespace decodes to the same command, or fails
alike. -/
structure Schema.MatchAlike (s₁ s₂ : Schema) : Prop where
  matchArgs : ∀ columns argv terminal,
    RunsAlike columns (s₁.matchArgs columns argv terminal) (s₂.matchArgs columns argv terminal)
  parse : ∀ ns, s₁.parse ns = s₂.parse ns

/-- Restyling a catalog's help texts and categories, and changing a presentation's styles and
category order but not its program name, never changes how lines match and decode. -/
theorem presentation_never_changes_matching {cat₁ cat₂ : Catalog} {caps : CapabilitySet}
    {pres₁ pres₂ : Presentation} {verify₁ verify₂ : Bool} {s₁ s₂ : Schema}
    (hcat : cat₁.Restyled cat₂) (hprog : pres₁.program = pres₂.program)
    (h₁ : Schema.build cat₁ caps pres₁ verify₁ = .ok s₁)
    (h₂ : Schema.build cat₂ caps pres₂ verify₂ = .ok s₂) : s₁.MatchAlike s₂ where
  matchArgs := (Schema.build_restyled hcat hprog h₁ h₂).matchArgs_alike
  parse := (Schema.build_restyled hcat hprog h₁ h₂).parse_eq

/-- A command given another help text and another category, built with another category
order and other styles. -/
theorem restyled_log_matches_alike :
    ∃ s₁ s₂,
      Schema.build
        ⟨[.descriptor
          { name := .str "log", handler := .version, args := .flag,
            help := .str "Show the log", placement := .category .common }]⟩
        .standard {} = .ok s₁ ∧
      Schema.build
        ⟨[.descriptor
          { name := .str "log", handler := .version, args := .flag,
            help := .str "History", placement := .category .review }]⟩
        .standard { categoryOrder := [.category .review], styles := { header := "bold" } } =
        .ok s₂ ∧
      Catalog.Restyled
        ⟨[.descriptor
          { name := .str "log", handler := .version, args := .flag,
            help := .str "Show the log", placement := .category .common }]⟩
        ⟨[.descriptor
          { name := .str "log", handler := .version, args := .flag,
            help := .str "History", placement := .category .review }]⟩ ∧
      Presentation.program {} =
        Presentation.program { categoryOrder := [.category .review], styles := { header := "bold" } } ∧
      s₁.MatchAlike s₂ := by
  have h₁ : Schema.build
      ⟨[.descriptor
        { name := .str "log", handler := .version, args := .flag,
          help := .str "Show the log", placement := .category .common }]⟩
      .standard {} = .ok _ := rfl
  have h₂ : Schema.build
      ⟨[.descriptor
        { name := .str "log", handler := .version, args := .flag,
          help := .str "History", placement := .category .review }]⟩
      .standard { categoryOrder := [.category .review], styles := { header := "bold" } } = .ok _ :=
    rfl
  have hcat : Catalog.Restyled
      ⟨[.descriptor
        { name := .str "log", handler := .version, args := .flag,
          help := .str "Show the log", placement := .category .common }]⟩
      ⟨[.descriptor
        { name := .str "log", handler := .version, args := .flag,
          help := .str "History", placement := .category .review }]⟩ :=
    .cons ⟨rfl, rfl, rfl, rfl, rfl, rfl, trivial, rfl⟩ .nil
  have hprog : Presentation.program {} =
      Presentation.program { categoryOrder := [.category .review], styles := { header := "bold" } } :=
    rfl
  exact ⟨_, _, h₁, h₂, hcat, hprog, presentation_never_changes_matching hcat hprog h₁ h₂⟩

end CommandLine
