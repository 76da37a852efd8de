import CommandLine.Proofs.EnabledCommands
import CommandLine.Schema.Invoke

/-!
# Disabled commands are absent

The build skips a descriptor whose feature is disabled before registering any of its names,
so building a catalog gives what building it without its disabled descriptors gives, but for
the catalog the schema keeps (`Schema.build_withoutDisabled`): the two builds fail with the
same error or both succeed. Only the checks of a schema against its catalog read that
catalog, so no command line tells the two schemas apart: matching, decoding, dispatching,
the lookups, the listing and the help agree (`Schema.Indistinguishable`).

A text that no enabled command answers to, among them every name of a disabled command that
no enabled command shares, resolves to nothing, is no choice of the command positional, is
not listed and is never offered as a similar command (`Schema.Unregistered`).

`disabled_commands_absent` states the build equation and what follows from it. A listed
command named by a number makes both builds fail with one type error, which is not a catalog
error (`number_name_fails_both_builds`).
-/

namespace CommandLine

open Matching

/-! ## The catalog without its disabled descriptors -/

/-- Whether an entry stays when the disabled descriptors are removed: every entry but a
descriptor the enabled features do not let in. -/
def Entry.keptIn (caps : CapabilitySet) : Entry → Bool
  | .descriptor d => d.enabledIn caps
  | .foreign _ => true

def Catalog.withoutDisabled (cat : Catalog) (caps : CapabilitySet) : Catalog :=
  ⟨cat.entries.filter (Entry.keptIn caps)⟩

/-- The walk over a catalog steps over a disabled descriptor as if it were not there. -/
theorem foldlM_add_filter (program : String) (styles : Styles) (caps : CapabilitySet) :
    ∀ (entries : List Entry) (r : Registry),
    (∀ d, .descriptor d ∈ entries → d.PlainRequirement) →
    entries.foldlM (Registry.add program styles caps) r =
      (entries.filter (Entry.keptIn caps)).foldlM (Registry.add program styles caps) r
  | [], _, _ => rfl
  | .foreign v :: es, r, _ => by simp [List.filter_cons, Entry.keptIn, Registry.add]
  | .descriptor d :: es, r, h => by
    have hd : d.PlainRequirement := h d (by simp)
    have hes : ∀ d', .descriptor d' ∈ es → d'.PlainRequirement := fun d' hd' => h d' (by simp [hd'])
    cases hon : d.enabledIn caps with
    | false =>
      rw [List.foldlM_cons, Registry.add_of_disabled _ _ _ _ hd hon, Except.ok_bind,
        foldlM_add_filter program styles caps es r hes]
      simp [Entry.keptIn, hon]
    | true =>
      simp only [List.filter_cons, Entry.keptIn, hon, if_true, List.foldlM_cons]
      congr 1
      funext r'
      exact foldlM_add_filter program styles caps es r' hes

/-- Building a catalog builds it without its disabled descriptors, but for the catalog the
schema keeps. -/
theorem Schema.build_withoutDisabled (cat : Catalog) (caps : CapabilitySet)
    (pres : Presentation) (hplain : ∀ d, .descriptor d ∈ cat.entries → d.PlainRequirement) :
    Schema.build cat caps pres =
      (Schema.build (cat.withoutDisabled caps) caps pres).map ({ · with catalog := cat }) := by
  simp only [Schema.build, Bool.false_eq_true, if_false, Catalog.withoutDisabled]
  rw [foldlM_add_filter _ _ _ cat.entries {} hplain]
  -- the rest of the build reads the registry only, never the catalog
  cases (cat.entries.filter (Entry.keptIn caps)).foldlM
      (Registry.add pres.program pres.styles caps) {} with
  | error f => rfl
  | ok r =>
    simp only [Except.ok_bind]
    cases listingOf pres r.descriptors with
    | error f => rfl
    | ok listing =>
      simp only [Except.ok_bind]
      cases listingSections listing <;> rfl

/-! ## Everything but the catalog -/

/-- Calling a handler does not read the schema's catalog. -/
theorem Schema.call_catalog (s : Schema) (c : Catalog) :
    ∀ (h : Handler) (ui : Ui) (ctx : CommandContext) (args : Args),
    ({ s with catalog := c }).call h ui ctx args = s.call h ui ctx args
  | .help, _, _, _ => rfl
  | .version, _, _, _ => rfl
  | .missing .., _, _, _ => rfl
  | .plugin .., _, _, _ => rfl
  | .renamed _ _ _ inner, ui, ctx, args => by
    simp only [Schema.call, Schema.call_catalog s c inner]
  | .uncallable _, _, _, _ => rfl

/-- Two schemas that no command line tells apart: they match every argument vector alike
(the same namespace, or the same usage error or exit), decode and dispatch alike, and have
the same lookups, commands, listing and help. -/
structure Schema.Indistinguishable (s s' : Schema) : Prop where
  matchArgs : ∀ columns argv terminal,
    s.matchArgs columns argv terminal = s'.matchArgs columns argv terminal
  parse : ∀ ns, s.parse ns = s'.parse ns
  dispatch : ∀ cmd ui ctx, s.dispatch cmd ui ctx = s'.dispatch cmd ui ctx
  resolve : ∀ x, s.resolve? x = s'.resolve? x
  get : ∀ x, s.get? x = s'.get? x
  grammarFor : ∀ x, s.grammarFor? x = s'.grammarFor? x
  descriptors : s.descriptors = s'.descriptors
  listing : s.listing = s'.listing
  formatHelp : ∀ columns, s.top.formatHelp columns = s'.top.formatHelp columns

/-- A schema with another catalog is told apart from it by no command line. -/
theorem Schema.indistinguishable_catalog (s : Schema) (c : Catalog) :
    ({ s with catalog := c }).Indistinguishable s where
  matchArgs _ _ _ := rfl
  parse _ := rfl
  dispatch cmd ui ctx := by
    simp only [Schema.dispatch, Schema.invoke, Schema.call_catalog]
    rfl
  resolve _ := rfl
  get _ := rfl
  grammarFor _ := rfl
  descriptors := rfl
  listing := rfl
  formatHelp _ := rfl

/-! ## Suggestions come from the listed names -/

/-- A left fold that at each step keeps its choice or takes the current item ends with its
start or with an item of the list. -/
theorem foldl_keeps_or_takes {α : Type} (f : Option α → α → Option α)
    (hf : ∀ b a, f b a = b ∨ f b a = some a) :
    ∀ (l : List α) (b : Option α) (y : α), l.foldl f b = some y → b = some y ∨ y ∈ l
  | [], _, _, h => .inl h
  | a :: l, b, y, h => by
    rcases foldl_keeps_or_takes f hf l (f b a) y h with h | h
    · rcases hf b a with hb | hb
      · exact .inl (hb ▸ h)
      · exact .inr (by simp_all)
    · exact .inr (List.mem_cons_of_mem a h)

/-- The most similar candidate is a candidate. -/
theorem Matching.closestMatch_mem {word y : String} {candidates : List String}
    (h : closestMatch word candidates = some y) : y ∈ candidates := by
  unfold closestMatch at h
  obtain ⟨⟨r, x⟩, hpick, rfl⟩ := Option.map_eq_some_iff.mp h
  -- the fold keeps the best so far or takes the scored candidate at hand
  rcases foldl_keeps_or_takes _ (fun b a => by
      rcases b with _ | ⟨s, y⟩
      · exact .inr rfl
      · dsimp only
        split <;> simp) _ none _ hpick with h | h
  · cases h
  · obtain ⟨x', hx', hsome⟩ := List.mem_filterMap.mp h
    split at hsome
    · dsimp only at hsome
      split at hsome
      · cases hsome
        exact hx'
      · cases hsome
    · cases hsome

/-- A usage error offers as a similar command only a listed name of its grammar. -/
theorem Matching.Grammar.usageError_similar {g : Grammar} {columns : Int} {message t : String}
    (h : Value.str ("a similar subcommand exists: '" ++ t ++ "'") ∈
      (g.usageError columns message).suggestions) : t ∈ g.listedNames := by
  unfold Grammar.usageError at h
  split at h
  · next name _ =>
    simp only [List.map_append, List.mem_append, List.mem_map, List.mem_cons,
      List.not_mem_nil, or_false, Value.str.injEq] at h
    rcases h with ⟨text, htext, rfl⟩ | ⟨text, rfl, heq⟩
    · cases hc : closestMatch name g.listedNames with
      | none => simp [hc] at htext
      | some y =>
        simp only [hc, Option.map_some, Option.toList_some, List.mem_cons, List.not_mem_nil,
          or_false, String.append_left_inj, String.append_right_inj] at htext
        exact htext ▸ closestMatch_mem hc
    · -- the pointer to the help starts with another letter
      have hhead := congrArg (fun s : String => s.toList.head?) heq
      simp [String.toList_append] at hhead
  · simp at h

/-! ## Names no enabled command answers to -/

/-- Every command of a listing is one of the listed commands, and not hidden. -/
theorem listingOf_entries {pres : Presentation} {ds : List Descriptor}
    {listing : List (Placement × List Descriptor)} (h : listingOf pres ds = .ok listing) :
    ∀ pe ∈ listing, ∀ d ∈ pe.2, d ∈ ds ∧ d.hidden = false := by
  unfold listingOf at h
  obtain ⟨order, -, h⟩ := Except.bind_eq_ok.mp h
  cases h
  intro pe hpe d hd
  obtain ⟨p, -, hsome⟩ := List.mem_filterMap.mp hpe
  dsimp only at hsome
  split at hsome
  · cases hsome
  · cases hsome
    simp only [List.mem_filter, Bool.and_eq_true, Bool.not_eq_eq_eq_not, Bool.not_true] at hd
    exact ⟨hd.1, hd.2.2⟩

/-- A listed name is the canonical name or a listed alias of a command of the listing, and
each of those is listed. -/
theorem mem_listedNames_iff_entries (listing : List (Placement × List Descriptor)) (x : String) :
    x ∈ listedNames listing ↔ ∃ pe ∈ listing, ∃ d ∈ pe.2, .str x ∈ d.name :: d.aliases := by
  simp only [listedNames, List.mem_flatMap, List.mem_filterMap, Value.asString?_eq_some_iff,
    exists_eq_right]

theorem mem_listedNames {listing : List (Placement × List Descriptor)} {t : String}
    (h : t ∈ listedNames listing) : ∃ pe ∈ listing, ∃ d ∈ pe.2, .str t ∈ d.name :: d.aliases :=
  (mem_listedNames_iff_entries listing t).mp h

theorem Schema.WellBuilt.mem_matchableNames {s : Schema} (hs : s.WellBuilt) {x : Value} :
    x ∈ s.matchableNames ↔ ∃ d ∈ s.descriptors, x ∈ d.allNames := by
  show x ∈ s.names.map Prod.fst ↔ _
  rw [hs.names, List.map_flatMap]
  simp [Descriptor.registrations_map_fst]

/-- A text no command answers to: it resolves to nothing, finds no command and no grammar, is
no choice of the command positional, is not listed, and no usage error offers it as a
similar command. -/
structure Schema.Unregistered (s : Schema) (t : String) : Prop where
  resolve : s.resolve? (.str t) = .ok none
  get : s.get? (.str t) = .ok none
  grammarFor : s.grammarFor? (.str t) = .ok none
  not_choice : t ∉ s.top.commandNames
  not_listed : t ∉ s.top.listedNames
  not_suggested : ∀ columns message, Value.str ("a similar subcommand exists: '" ++ t ++ "'") ∉
    (s.top.usageError columns message).suggestions

/-- In a built schema, a text that no command answers to is unregistered. -/
theorem Schema.build_unregistered {cat : Catalog} {caps : CapabilitySet} {pres : Presentation}
    {verify : Bool} {s : Schema} (h : Schema.build cat caps pres verify = .ok s) {t : String}
    (ht : ∀ d ∈ s.descriptors, .str t ∉ d.allNames) : s.Unregistered t := by
  have hs := Schema.build_wellBuilt h
  have hmatch : .str t ∉ s.matchableNames := fun hmem => by
    obtain ⟨d, hd, hx⟩ := hs.mem_matchableNames.mp hmem
    exact ht d hd hx
  obtain ⟨r, listing, sections, -, hl, rfl⟩ := Schema.build_eq_ok h
  have hlisted : t ∉ listedNames listing := fun hmem => by
    obtain ⟨pe, hpe, d, hd, hx⟩ := mem_listedNames hmem
    exact ht d (listingOf_entries hl pe hpe d hd).1 (List.mem_append_left _ hx)
  refine ⟨Schema.resolve?_str_of_not_mem hmatch,
    Schema.get?_str_of_not_mem fun d hd hname => ht d hd (by simp [Descriptor.allNames, hname]),
    Schema.grammarFor?_str_of_not_mem hmatch, fun hchoice => ?_, hlisted,
    fun _ _ hsug => hlisted (Grammar.usageError_similar hsug)⟩
  -- the choices are the registered names that are texts
  obtain ⟨⟨x, o⟩, hxo, hstr⟩ := List.mem_filterMap.mp hchoice
  exact hmatch (List.mem_map.mpr ⟨(x, o), hxo, (Value.asString?_eq_some_iff _ _).mp hstr⟩)

/-! ## Disabled commands are absent -/

/-- What building a catalog does with its disabled commands, for the enabled features and a
presentation. -/
structure DisabledAbsent (cat : Catalog) (caps : CapabilitySet) (pres : Presentation) :
    Prop where
  /-- The build is the build without the disabled descriptors, but for the catalog kept:
  the same error, or schemas that differ in the catalog only. -/
  build_eq : Schema.build cat caps pres =
    (Schema.build (cat.withoutDisabled caps) caps pres).map ({ · with catalog := cat })
  /-- No command line tells the two schemas apart. -/
  indistinguishable : ∀ s s', Schema.build cat caps pres = .ok s →
    Schema.build (cat.withoutDisabled caps) caps pres = .ok s' → s.Indistinguishable s'
  /-- A text no enabled command answers to, such as a name of a disabled command, is
  unregistered. -/
  unregistered : ∀ s, Schema.build cat caps pres = .ok s →
    ∀ t : String, (∀ d ∈ s.descriptors, .str t ∉ d.allNames) → s.Unregistered t

/-- Disabled commands are observationally absent, for every catalog whose requirements are
none or a capability. -/
theorem disabled_commands_absent (cat : Catalog) (caps : CapabilitySet) (pres : Presentation)
    (hplain : ∀ d, .descriptor d ∈ cat.entries → d.PlainRequirement) :
    DisabledAbsent cat caps pres := by
  have heq := Schema.build_withoutDisabled cat caps pres hplain
  refine ⟨heq, fun s s' hs hs' => ?_, fun s hs t ht => Schema.build_unregistered hs ht⟩
  rw [heq, hs'] at hs
  cases hs
  exact Schema.indistinguishable_catalog s' cat

/-- A catalog with a command whose feature is off, built with `git` only. -/
theorem disabled_bench_absent :
    (∀ d : Descriptor, .descriptor d ∈
        ([.descriptor { name := .str "log", handler := .help, args := .raw },
          .descriptor { name := .str "bench", handler := .version, args := .none,
                        requires := .needs .bench }] : List Entry) → d.PlainRequirement) ∧
    DisabledAbsent
      ⟨[.descriptor { name := .str "log", handler := .help, args := .raw },
        .descriptor { name := .str "bench", handler := .version, args := .none,
                      requires := .needs .bench }]⟩ .standard {} := by
  refine ⟨?plain, disabled_commands_absent _ _ _ ?plain⟩
  intro d hd v hv
  simp only [List.mem_cons, Entry.descriptor.injEq, List.not_mem_nil, or_false] at hd
  rcases hd with rfl | rfl <;> cases hv

/-- A listed command named by a number, beside a command whose feature is off: the build
fails with a type error with and without the disabled command, so the two builds neither
fail with a catalog error nor succeed. -/
theorem number_name_fails_both_builds :
    Schema.build
        ⟨[.descriptor { name := .int 1, handler := .version, args := .none },
          .descriptor { name := .str "x", handler := .version, args := .none,
                        requires := .needs .bench }]⟩ .standard {} =
      .error (.runtime .type "object of type 'int' has no len()") ∧
    Schema.build
        (Catalog.withoutDisabled
          ⟨[.descriptor { name := .int 1, handler := .version, args := .none },
            .descriptor { name := .str "x", handler := .version, args := .none,
                          requires := .needs .bench }]⟩ .standard) .standard {} =
      .error (.runtime .type "object of type 'int' has no len()") :=
  ⟨rfl, rfl⟩

end CommandLine
