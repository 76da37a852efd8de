import CommandLine.Proofs.Restyling

/-!
# The listing of the top-level help

The top-level help lists the commands that are enabled and not hidden, grouped by help
category. The categories come in the presentation's chosen order, each at its first place
there, then the categories the order leaves out, in declaration order: every category exactly
once (`HelpCategory.shownOrder`). A category whose group is empty is left out, and each group
keeps catalog order (`listingIn`).

So every enabled, non-hidden command that sits in a category is listed exactly once, and no
other command is. The names a mistyped command is compared with are the canonical names and
listed aliases of the listing, in its order.

The order of the categories is read off a chosen order by
`Presentation.orderedCategories_of_categories`, and grouping by a key lists each member with
a key exactly once (`flatMap_groups_perm`); `listing_shows_each_command_once` puts the two
together for the listing of a built schema.
-/

namespace CommandLine

/-! ## Removing repeats -/

section EraseDups

variable {α : Type} [BEq α] [LawfulBEq α]

/-- Removing repeats leaves each member once. -/
theorem eraseDups_nodup : ∀ l : List α, l.eraseDups.Nodup
  | [] => List.nodup_nil
  | a :: l => by
    rw [List.eraseDups_cons, List.nodup_cons]
    refine ⟨fun h => ?_, eraseDups_nodup _⟩
    have := (List.mem_filter.mp (List.mem_eraseDups.mp h)).2
    simp at this
termination_by l => l.length
decreasing_by
  have := List.length_filter_le (fun b => !b == a) l
  simp only [List.length_cons]
  omega

theorem eraseDups_append_singleton (l : List α) (a : α) :
    (l ++ [a]).eraseDups = if a ∈ l then l.eraseDups else l.eraseDups ++ [a] := by
  rw [List.eraseDups_append]
  by_cases h : a ∈ l
  · simp [List.removeAll, h]
  · simp [List.removeAll, h, List.eraseDups_cons]

end EraseDups

/-! ## The order of the categories -/

namespace HelpCategory

theorem nodup_all : all.Nodup := by decide

/-- The categories in the order a listing shows them, for a chosen order: each chosen category
at its first place in the order, then the others in declaration order. -/
def shownOrder (order : List HelpCategory) : List HelpCategory :=
  order.eraseDups ++ all.filter (· ∉ order)

/-- Whatever the chosen order, every category is shown exactly once. -/
theorem shownOrder_perm (order : List HelpCategory) : (shownOrder order).Perm all := by
  have hdisjoint : order.eraseDups.Disjoint (all.filter (· ∉ order)) := by
    intro c hfirst hrest
    simp only [List.mem_filter, decide_eq_true_eq] at hrest
    exact hrest.2 (List.mem_eraseDups.mp hfirst)
  refine (List.perm_ext_iff_of_nodup ((eraseDups_nodup order).append (nodup_all.filter _) hdisjoint)
    nodup_all).mpr fun c => ?_
  by_cases hc : c ∈ order <;> simp [List.mem_eraseDups, hc, mem_all]

end HelpCategory

theorem any_same_category (l : List HelpCategory) (c : HelpCategory) :
    (l.map Placement.category).any (·.same (.category c)) = decide (c ∈ l) := by
  rw [Bool.eq_iff_iff]
  simp [List.any_map, Function.comp_def, Placement.same]

/-- A fold that keeps a category only when it is new keeps the first place of each. The fold
is followed from any prefix already read, whose categories are kept without repeats. -/
theorem foldlM_keep_first {f : List Placement → Placement → Except Fault (List Placement)}
    (hf : ∀ acc c, f acc (.category c) =
      .ok (if acc.any (·.same (.category c)) then acc else acc ++ [.category c])) :
    ∀ order seen : List HelpCategory, (order.map Placement.category).foldlM f
      (seen.eraseDups.map .category) = .ok ((seen ++ order).eraseDups.map .category)
  | [], seen => by simp
  | c :: order, seen => by
    have hstep : f (seen.eraseDups.map Placement.category) (.category c) =
        .ok ((seen ++ [c]).eraseDups.map .category) := by
      rw [hf, any_same_category, eraseDups_append_singleton]
      by_cases hc : c ∈ seen <;> simp [hc, List.mem_eraseDups]
    rw [List.map_cons, List.foldlM_cons, hstep, Except.ok_bind, foldlM_keep_first hf order,
      List.append_assoc, List.singleton_append]

theorem Presentation.dedupe_categories (order : List HelpCategory) :
    Presentation.dedupe (order.map .category) = .ok (order.eraseDups.map .category) := by
  unfold Presentation.dedupe
  exact foldlM_keep_first (fun _ _ => rfl) order []

/-- With a chosen order of categories, the listing shows the categories in `shownOrder`. -/
theorem Presentation.orderedCategories_of_categories {pres : Presentation}
    {order : List HelpCategory} (h : pres.categoryOrder = order.map .category) :
    pres.orderedCategories = .ok ((HelpCategory.shownOrder order).map .category) := by
  unfold Presentation.orderedCategories
  rw [h, Presentation.dedupe_categories]
  simp only [Except.ok_bind, any_same_category, List.mem_eraseDups, Except.pure_eq_ok,
    HelpCategory.shownOrder, List.map_append, decide_not]

/-! ## Groups of commands -/

/-- Two filters by predicates that never hold together, one after the other, are the filter
by either, up to order. -/
theorem filter_append_filter_perm {α : Type} {p q : α → Bool}
    (hpq : ∀ a, p a = true → q a = false) :
    ∀ l : List α, (l.filter p ++ l.filter q).Perm (l.filter fun a => p a || q a)
  | [] => .nil
  | a :: l => by
    have ih := filter_append_filter_perm hpq l
    cases hp : p a <;> cases hq : q a
    · simpa [List.filter_cons, hp, hq] using ih
    · -- the member goes to the second filter: bring it to the front
      simpa [List.filter_cons, hp, hq] using List.perm_middle.trans (ih.cons a)
    · simpa [List.filter_cons, hp, hq] using ih.cons a
    · exact absurd (hpq a hp) (by simp [hq])

/-- Grouping by a key, over distinct keys, lists each member whose key is among them exactly
once, and no other member. The induction is on the keys; each new key takes the members
none of the others takes. -/
theorem flatMap_groups_perm {α κ : Type} [DecidableEq κ] (key : α → Option κ) (l : List α) :
    ∀ cs : List κ, cs.Nodup →
      (cs.flatMap fun c => l.filter fun a => decide (key a = some c)).Perm
        (l.filter fun a => cs.any fun c => decide (key a = some c))
  | [], _ => by simp
  | c :: cs, hnd => by
    obtain ⟨hc, hnd⟩ := List.nodup_cons.mp hnd
    have hdisjoint : ∀ a, decide (key a = some c) = true →
        (cs.any fun c' => decide (key a = some c')) = false := by
      intro a ha
      simp only [decide_eq_true_eq] at ha
      simp only [ha, Option.some.injEq, List.any_eq_false, decide_eq_true_eq]
      rintro c' hc' rfl
      exact hc hc'
    rw [List.flatMap_cons]
    refine ((flatMap_groups_perm key l cs hnd).append_left _).trans ?_
    simpa using filter_append_filter_perm hdisjoint l

/-- Leaving out the keys whose group is empty changes nothing. -/
theorem flatMap_filter_nonempty {α κ : Type} (g : κ → List α) (p : κ → Bool)
    (hp : ∀ c, p c = false → g c = []) : ∀ cs : List κ, (cs.filter p).flatMap g = cs.flatMap g
  | [] => rfl
  | c :: cs => by
    have ih := flatMap_filter_nonempty g p hp cs
    cases hc : p c
    · simp [hc, ih, hp c hc]
    · simp [hc, ih]

namespace Descriptor

/-- Whether a command is listed under a category: it sits in the category and is not hidden. -/
def listedUnder (c : HelpCategory) (d : Descriptor) : Bool :=
  decide (d.category? = some c) && !d.hidden

theorem identical_category_eq (d : Descriptor) (c : HelpCategory) :
    d.placement.identical (.category c) = decide (d.category? = some c) := by
  unfold category?
  rw [Bool.eq_iff_iff]
  cases d.placement <;> simp [Placement.identical]

/-- A command sits in some category exactly when one of all the categories is its own. -/
theorem any_category_eq (d : Descriptor) :
    (HelpCategory.all.any fun c => decide (d.category? = some c)) = d.category?.isSome := by
  cases h : d.category? with
  | none => simp
  | some c =>
    simp only [Option.isSome_some, Option.some.injEq, List.any_eq_true, decide_eq_true_eq]
    exact ⟨c, HelpCategory.mem_all c, rfl⟩

end Descriptor

/-- The listing for the order in which it shows the categories: each category whose group of
listed commands is not empty, with that group in catalog order. -/
def listingIn (shown : List HelpCategory) (ds : List Descriptor) :
    List (Placement × List Descriptor) :=
  (shown.filter fun c => ds.any (·.listedUnder c)).map
    fun c => (.category c, ds.filter (·.listedUnder c))

theorem filterMap_eq_map_filter {α β : Type} {f : α → Option β} {p : α → Bool} {g : α → β}
    (hf : ∀ a, f a = if p a then some (g a) else none) :
    ∀ l : List α, l.filterMap f = (l.filter p).map g
  | [] => rfl
  | a :: l => by
    cases h : p a <;> simp [hf a, h, filterMap_eq_map_filter hf l]

/-- With a chosen order of categories, the listing is `listingIn` over `shownOrder`. -/
theorem listingOf_of_categories {pres : Presentation} {order : List HelpCategory}
    (h : pres.categoryOrder = order.map .category) (ds : List Descriptor) :
    listingOf pres ds = .ok (listingIn (HelpCategory.shownOrder order) ds) := by
  unfold listingOf
  rw [Presentation.orderedCategories_of_categories h]
  simp only [Except.ok_bind, Except.pure_eq_ok, Except.ok.injEq, List.filterMap_map, listingIn]
  refine filterMap_eq_map_filter (fun c => ?_) _
  -- a category's section is its group of listed commands, when that group is not empty
  have hgroup : (ds.filter fun d => d.placement.identical (.category c) && !d.hidden) =
      ds.filter (·.listedUnder c) := by
    simp [Descriptor.identical_category_eq, Descriptor.listedUnder]
  simp only [Function.comp, hgroup]
  cases hc : ds.any (·.listedUnder c)
  · have hempty : (ds.filter (·.listedUnder c)).isEmpty = true := by
      simpa [List.isEmpty_iff, List.filter_eq_nil_iff] using hc
    simp [hempty]
  · have hne : (ds.filter (·.listedUnder c)).isEmpty = false := by
      obtain ⟨d, hd, hl⟩ := List.any_eq_true.mp hc
      exact List.isEmpty_eq_false_iff_exists_mem.mpr ⟨d, List.mem_filter.mpr ⟨hd, hl⟩⟩
    simp [hne]

theorem listingIn_nonempty (shown : List HelpCategory) (ds : List Descriptor) :
    ∀ sec ∈ listingIn shown ds, sec.2 ≠ [] := by
  intro sec hsec
  obtain ⟨c, hc, rfl⟩ := List.mem_map.mp hsec
  obtain ⟨d, hd, hl⟩ := List.any_eq_true.mp (List.mem_filter.mp hc).2
  exact List.ne_nil_of_mem (List.mem_filter.mpr ⟨hd, hl⟩)

/-- When every category is shown once, the listing holds each command that is not hidden and
sits in a category exactly once, and no other command. -/
theorem listingIn_perm {shown : List HelpCategory} (hshown : shown.Perm HelpCategory.all)
    (ds : List Descriptor) :
    ((listingIn shown ds).flatMap Prod.snd).Perm
      (ds.filter fun d => d.category?.isSome && !d.hidden) := by
  -- the empty groups add nothing, and the order of the groups is a permutation of all of them
  have hdrop : (listingIn shown ds).flatMap Prod.snd =
      shown.flatMap fun c => ds.filter (·.listedUnder c) := by
    rw [listingIn, List.flatMap_map]
    refine flatMap_filter_nonempty _ _ (fun c hc => ?_) shown
    simpa [List.filter_eq_nil_iff] using hc
  -- each group takes, among the commands that are not hidden, those of its category
  have hgroups : ∀ c, ds.filter (·.listedUnder c) =
      (ds.filter fun d => !d.hidden).filter fun d => decide (d.category? = some c) := by
    intro c
    simp [List.filter_filter, Descriptor.listedUnder]
  rw [hdrop]
  refine (hshown.flatMap_right _).trans ?_
  simp only [hgroups]
  refine (flatMap_groups_perm Descriptor.category? _ _ HelpCategory.nodup_all).trans ?_
  simp [List.filter_filter, Descriptor.any_category_eq, Bool.and_comm]

/-! ## The listed names -/

/-- Texts joined by a separator were all texts. -/
theorem joinTexts_texts {sep : String} {vs : List Value} {joined : String}
    (h : joinTexts sep vs = .ok joined) : ∀ v ∈ vs, ∃ t, v = .str t := by
  unfold joinTexts at h
  obtain ⟨texts, hmap, -⟩ := Except.bind_eq_ok.mp h
  intro v hv
  obtain ⟨i, hi⟩ := List.mem_iff_getElem?.mp hv
  obtain ⟨t, ht⟩ := Except.ok_of_mapM_ok hmap (v, i) (List.mk_mem_zipIdx_iff_getElem?.mpr hi)
  cases v <;> simp at ht
  exact ⟨_, rfl⟩

/-- Rows are laid out only for commands whose name and listed aliases are texts. -/
theorem listingRows_textNames {entries : List Descriptor} {rows : List String}
    (h : listingRows entries = .ok rows) : ∀ d ∈ entries, d.TextNames := by
  unfold listingRows at h
  obtain ⟨widths, hwidths, h⟩ := Except.bind_eq_ok.mp h
  intro d hd
  refine ⟨?_, fun a ha => ?_⟩
  · obtain ⟨n, hn⟩ := Except.ok_of_mapM_ok hwidths d hd
    unfold nameLength at hn
    cases hname : d.name <;> simp [hname] at hn
    exact ⟨_, rfl⟩
  · obtain ⟨row, hrow⟩ := Except.ok_of_mapM_ok h d hd
    have hne : d.aliases.isEmpty = false := by
      cases hnil : d.aliases with
      | nil => simp [hnil] at ha
      | cons => rfl
    simp only [hne, Bool.false_eq_true, if_false] at hrow
    obtain ⟨joined, hjoined, -⟩ := Except.bind_eq_ok.mp hrow
    exact joinTexts_texts hjoined a ha

/-- Texts read back as values are the values, when all of them are texts. -/
theorem map_str_filterMap_asString? {l : List Value} (h : ∀ v ∈ l, ∃ t, v = .str t) :
    (l.filterMap Value.asString?).map .str = l := by
  induction l with
  | nil => rfl
  | cons v l ih =>
    obtain ⟨t, rfl⟩ := h v (by simp)
    simp [Value.asString?, ih fun w hw => h w (by simp [hw])]

/-- The listed names of a listing laid out as help are the canonical names and listed aliases
of its commands, in its order. -/
theorem listedNames_of_sections {listing : List (Placement × List Descriptor)}
    {sections : List (String × List String)} (h : listingSections listing = .ok sections) :
    (listedNames listing).map .str =
      listing.flatMap fun sec => sec.2.flatMap fun d => d.name :: d.aliases := by
  have htext : ∀ sec ∈ listing, ∀ d ∈ sec.2, d.TextNames := by
    intro sec hsec
    obtain ⟨section', hsection⟩ := Except.ok_of_mapM_ok h sec hsec
    obtain ⟨p, entries⟩ := sec
    obtain ⟨heading, -, hrest⟩ := Except.bind_eq_ok.mp hsection
    obtain ⟨rows, hrows, -⟩ := Except.bind_eq_ok.mp hrest
    exact listingRows_textNames hrows
  simp only [listedNames, List.map_flatMap]
  refine List.flatMap_congr fun sec hsec => List.flatMap_congr fun d hd => ?_
  obtain ⟨⟨t, ht⟩, haliases⟩ := htext sec hsec d hd
  exact map_str_filterMap_asString? fun v hv => by
    rcases List.mem_cons.mp hv with rfl | hv
    · exact ⟨t, ht⟩
    · exact haliases v hv

/-! ## The listing of a built schema -/

/-- How a built schema lists its commands when its presentation chooses the order `order` of
categories. -/
structure ListsEachCommandOnce (order : List HelpCategory) (cat : Catalog) (s : Schema) :
    Prop where
  /-- The categories come in the chosen order, each at its first place there, then the
  categories the order leaves out, in declaration order. -/
  ordered : s.presentation.orderedCategories = .ok ((HelpCategory.shownOrder order).map .category)
  /-- So every category comes exactly once. -/
  every_category_once : (HelpCategory.shownOrder order).Perm HelpCategory.all
  /-- The commands of the schema are the enabled descriptors of the catalog, in catalog
  order. -/
  enabled : ∃ ds : List Descriptor, cat.entries = ds.map .descriptor ∧
    s.descriptors = ds.filter (·.enabledIn s.capabilities)
  /-- Each category in that order whose group is not empty, with the commands listed under it
  in catalog order. -/
  listing : s.listing = .ok (listingIn (HelpCategory.shownOrder order) s.descriptors)
  no_empty_section : ∀ sec ∈ listingIn (HelpCategory.shownOrder order) s.descriptors, sec.2 ≠ []
  /-- Every enabled command that is not hidden and sits in a category is listed exactly once,
  and no other command is listed. -/
  each_once : ((listingIn (HelpCategory.shownOrder order) s.descriptors).flatMap Prod.snd).Perm
    (s.descriptors.filter fun d => d.category?.isSome && !d.hidden)
  /-- The names a mistyped command is compared with are the canonical names and listed aliases
  of the listing, in its order. -/
  listed_names : s.top.listedNames.map .str =
    (listingIn (HelpCategory.shownOrder order) s.descriptors).flatMap
      fun sec => sec.2.flatMap fun d => d.name :: d.aliases

/-- The help listing of a built schema shows each listed command exactly once, in the order of
the presentation, whatever finite sequence of categories the presentation chooses, repeats and
omissions allowed. -/
theorem listing_shows_each_command_once {cat : Catalog} {caps : CapabilitySet}
    {pres : Presentation} {verify : Bool} {s : Schema} {order : List HelpCategory}
    (horder : pres.categoryOrder = order.map .category)
    (hbuild : Schema.build cat caps pres verify = .ok s) : ListsEachCommandOnce order cat s := by
  have hwell := Schema.build_wellBuilt hbuild
  obtain ⟨ds, listing, sections, -, -, -, hlisting, hsections, rfl⟩ := Schema.build_parts hbuild
  have hlisting' := listingOf_of_categories horder (ds.filter (·.enabledIn caps))
  rw [hlisting] at hlisting'
  cases hlisting'
  exact ⟨Presentation.orderedCategories_of_categories horder, HelpCategory.shownOrder_perm order,
    hwell.catalog.imp fun _ h => ⟨h.1, h.2.2⟩, listingOf_of_categories horder _,
    listingIn_nonempty _ _, listingIn_perm (HelpCategory.shownOrder_perm order) _,
    listedNames_of_sections hsections⟩

/-- A catalog of four commands: two common ones, a review command, and a hidden one. -/
def reviewCatalog : Catalog :=
  ⟨[.descriptor { name := .str "log", handler := .help, args := .raw, placement := .category .common },
    .descriptor { name := .str "show", handler := .help, args := .raw, aliases := [.str "s"],
                  placement := .category .common },
    .descriptor { name := .str "diff", handler := .help, args := .raw, placement := .category .review },
    .descriptor { name := .str "run", handler := .help, args := .raw, hidden := true,
                  placement := .category .review }]⟩

/-- Review commands first, then common ones, with review chosen twice. -/
def reviewFirst : Presentation :=
  { categoryOrder := [.category .review, .category .common, .category .review] }

theorem review_first_listing :
    ∃ s, Schema.build reviewCatalog .standard reviewFirst = .ok s ∧
      ListsEachCommandOnce [.review, .common, .review] reviewCatalog s :=
  ⟨_, rfl, @listing_shows_each_command_once reviewCatalog .standard reviewFirst false _
    [.review, .common, .review] rfl rfl⟩

end CommandLine
