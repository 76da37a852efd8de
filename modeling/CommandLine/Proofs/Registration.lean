import CommandLine.Proofs.Keys
import CommandLine.Schema.Build

/-!
# Registering the enabled commands

Building a schema walks the catalog once. A descriptor whose requirement the enabled
features do not meet is left out; an enabled one registers each of its names in order, each
with the command's canonical name, then its grammar. A name that is the same key as one
registered before stops the walk with a catalog error.

The walk is summed up by `firstRepeat`: the first registration whose name repeats an earlier
one. Over a catalog of descriptors the walk fails exactly there, and when no name repeats it
leaves the enabled descriptors in catalog order, every name they answer to and one grammar
each (`foldlM_add`).

The first repeated name is the one reported, and no registration repeats exactly when the names
are `Distinct` (`firstRepeat_eq_none_iff`, `firstRepeat_of_split`).
-/

namespace CommandLine

open Matching

/-! ## Steps of a computation that may fail -/

@[simp] theorem Except.pure_eq_ok {ε α : Type} (a : α) : (pure a : Except ε α) = .ok a := rfl

@[simp] theorem Except.ok_bind {ε α β : Type} (a : α) (f : α → Except ε β) :
    (Except.ok a >>= f) = f a := rfl

@[simp] theorem Except.error_bind {ε α β : Type} (e : ε) (f : α → Except ε β) :
    (Except.error e >>= f) = .error e := rfl

@[simp] theorem Except.map_ok' {ε α β : Type} (a : α) (f : α → β) :
    (f <$> Except.ok a : Except ε β) = .ok (f a) := rfl

@[simp] theorem Except.throw_eq_error {ε α : Type} (e : ε) : (throw e : Except ε α) = .error e :=
  rfl

theorem Except.bind_eq_ok {ε α β : Type} {m : Except ε α} {f : α → Except ε β} {b : β} :
    m >>= f = .ok b ↔ ∃ a, m = .ok a ∧ f a = .ok b := by
  cases m <;> simp

/-- A computation followed by another fails in the first, or in the second after the first
succeeded. -/
theorem Except.bind_eq_error {ε α β : Type} {m : Except ε α} {f : α → Except ε β} {e : ε} :
    m >>= f = .error e ↔ m = .error e ∨ ∃ a, m = .ok a ∧ f a = .error e := by
  cases m <;> simp

/-- Mapping fails only where the function fails on a member. -/
theorem Except.mapM_eq_error {ε α β : Type} {f : α → Except ε β} {e : ε} :
    ∀ {l : List α}, l.mapM f = .error e → ∃ a ∈ l, f a = .error e
  | [], h => by simp at h
  | a :: l, h => by
    rw [List.mapM_cons] at h
    rcases Except.bind_eq_error.mp h with h | ⟨b, -, h⟩
    · exact ⟨a, by simp, h⟩
    · rcases Except.bind_eq_error.mp h with h | ⟨bs, -, h⟩
      · obtain ⟨a', ha', h⟩ := Except.mapM_eq_error h
        exact ⟨a', by simp [ha'], h⟩
      · simp at h

/-- Mapping succeeds when the function succeeds on every member. -/
theorem Except.mapM_ok {ε α β : Type} {f : α → Except ε β} :
    ∀ {l : List α}, (∀ a ∈ l, ∃ b, f a = .ok b) → ∃ bs, l.mapM f = .ok bs
  | [], _ => ⟨[], rfl⟩
  | a :: l, h => by
    obtain ⟨b, hb⟩ := h a (by simp)
    obtain ⟨bs, hbs⟩ := Except.mapM_ok (l := l) fun a' ha' => h a' (by simp [ha'])
    exact ⟨b :: bs, by simp [List.mapM_cons, hb, hbs]⟩

/-- Mapping succeeds only when the function succeeds on every member. -/
theorem Except.ok_of_mapM_ok {ε α β : Type} {f : α → Except ε β} :
    ∀ {l : List α} {bs : List β}, l.mapM f = .ok bs → ∀ a ∈ l, ∃ b, f a = .ok b
  | [], _, _, a, ha => by simp at ha
  | a :: l, bs, h, a', ha' => by
    rw [List.mapM_cons] at h
    obtain ⟨b, hb, h⟩ := Except.bind_eq_ok.mp h
    obtain ⟨bs', hbs', -⟩ := Except.bind_eq_ok.mp h
    rcases List.mem_cons.mp ha' with rfl | ha'
    · exact ⟨b, hb⟩
    · exact Except.ok_of_mapM_ok hbs' a' ha'

namespace Descriptor

def enabledIn (caps : CapabilitySet) (d : Descriptor) : Bool := caps.satisfies d.capability?

def registrations (d : Descriptor) : List (Value × Value) := d.allNames.map (·, d.name)

/-- The entry of a command in the grammar table: its canonical name and its grammar, when its
argument schema gives one. -/
def grammarOf? (program : String) (styles : Styles) (d : Descriptor) :
    Option (Value × Grammar) :=
  (d.grammar program styles).toOption.map (d.name, ·)

/-- A requirement the build can test: none, or a capability. -/
def PlainRequirement (d : Descriptor) : Prop := ∀ v, d.requires ≠ .other v

/-- What building needs of a descriptor: a requirement that is none or a capability and, when
the command is enabled, names that can be keys and an argument schema that adds its
arguments. -/
structure Buildable (caps : CapabilitySet) (d : Descriptor) : Prop where
  plain : d.PlainRequirement
  hashable : d.enabledIn caps = true → ∀ x ∈ d.allNames, x.hashable = true
  args : d.enabledIn caps = true → d.args ≠ .bad

theorem registrations_map_fst (d : Descriptor) : d.registrations.map Prod.fst = d.allNames := by
  simp [registrations, Function.comp_def]

theorem grammar_ok {d : Descriptor} (h : d.args ≠ .bad) (program : String) (styles : Styles) :
    ∃ g, d.grammar program styles = .ok g := by
  cases hargs : d.args with
  | bad => exact absurd hargs h
  | _ => exact ⟨_, by simp [grammar, hargs]; rfl⟩

end Descriptor

def enabledRegistrations (caps : CapabilitySet) (ds : List Descriptor) : List (Value × Value) :=
  (ds.filter (·.enabledIn caps)).flatMap Descriptor.registrations

/-! ## The first repeated name -/

/-- The first of the registrations `next` whose name is the same key as a name registered
before it (in `seen`, or earlier in `next`): that name, the owner of the first earlier name
it repeats, and its own owner. -/
def firstRepeat (seen : List (Value × Value)) :
    List (Value × Value) → Option (Value × Value × Value)
  | [] => none
  | (x, o) :: rest =>
    match seen.find? (·.1.same x) with
    | some (_, first) => some (x, first, o)
    | none => firstRepeat (seen ++ [(x, o)]) rest

theorem firstRepeat_append (seen p q : List (Value × Value)) :
    firstRepeat seen (p ++ q) = (firstRepeat seen p).or (firstRepeat (seen ++ p) q) := by
  induction p generalizing seen with
  | nil => simp [firstRepeat]
  | cons xo p ih =>
    obtain ⟨x, o⟩ := xo
    simp only [List.cons_append, firstRepeat]
    split
    · rfl
    · rw [ih]
      simp

/-- Registering distinct names one by one never meets a repeat, and a repeat is met as soon
as the names are not distinct. -/
theorem firstRepeat_eq_none_iff (seen next : List (Value × Value))
    (hseen : Distinct (seen.map Prod.fst)) :
    firstRepeat seen next = none ↔ Distinct ((seen ++ next).map Prod.fst) := by
  induction next generalizing seen with
  | nil => simp [firstRepeat, hseen]
  | cons xo next ih =>
    obtain ⟨x, o⟩ := xo
    simp only [firstRepeat]
    split
    · next y first hfind =>
      -- an earlier name is the same key as `x`, so the names are not distinct
      simp only [reduceCtorEq, false_iff]
      intro hd
      have hx : Distinct (seen.map Prod.fst ++ [x]) :=
        (show Distinct ((seen.map Prod.fst ++ [x]) ++ next.map Prod.fst) by simpa using hd)
          |>.of_append_left
      have hmem := List.mem_of_find?_eq_some hfind
      have hsame := List.find?_some hfind
      have := (distinct_append_singleton.mp hx).2 (y, first).1 (List.mem_map_of_mem hmem)
      simp_all
    · next hfind =>
      have hseen' : Distinct ((seen ++ [(x, o)]).map Prod.fst) := by
        rw [List.map_append]
        refine distinct_append_singleton.mpr ⟨hseen, fun y hy => ?_⟩
        obtain ⟨⟨y', first⟩, hmem, rfl⟩ := List.mem_map.mp hy
        simpa using List.find?_eq_none.mp hfind _ hmem
      rw [ih _ hseen']
      simp

/-- The first repeated name is the one reported: when the registrations before it are
distinct and its name repeats an earlier one, registering stops there, naming the owner of
the first earlier name it repeats. -/
theorem firstRepeat_of_split (seen pre post : List (Value × Value)) (x o y first : Value)
    (hpre : Distinct ((seen ++ pre).map Prod.fst))
    (hfind : (seen ++ pre).find? (·.1.same x) = some (y, first)) :
    firstRepeat seen (pre ++ (x, o) :: post) = some (x, first, o) := by
  have hseen : Distinct (seen.map Prod.fst) := by
    rw [List.map_append] at hpre
    exact hpre.of_append_left
  rw [firstRepeat_append, (firstRepeat_eq_none_iff seen pre hseen).mpr hpre]
  simp [firstRepeat, hfind]

/-! ## One step of the walk -/

theorem CapabilitySet.admits_of_plain (caps : CapabilitySet) {d : Descriptor}
    (h : d.PlainRequirement) : caps.admits d.requires = .ok (d.enabledIn caps) := by
  cases hreq : d.requires with
  | other v => exact absurd hreq (h v)
  | _ => simp [CapabilitySet.admits, Descriptor.enabledIn, Descriptor.capability?, hreq,
      CapabilitySet.satisfies]

/-- Registering the names of a command stops at the first that repeats an earlier name. -/
theorem Registry.addNames_eq (r : Registry) (d : Descriptor)
    (h : ∀ x ∈ d.allNames, x.hashable = true) :
    r.addNames d =
      match firstRepeat r.names d.registrations with
      | some (x, first, o) => .error (.cli (duplicateName x first o))
      | none => .ok { r with names := r.names ++ d.registrations } := by
  unfold Registry.addNames Descriptor.registrations
  generalize d.allNames = names at h
  induction names generalizing r with
  | nil => simp [firstRepeat]
  | cons x names ih =>
    have hx : x.hashable = true := h x (by simp)
    simp only [List.foldlM_cons, List.map_cons, firstRepeat, Registry.addName, hx,
      Bool.not_true, Bool.false_eq_true, if_false]
    cases hfind : r.names.find? (·.1.same x) with
    | some p => rfl
    | none =>
      show List.foldlM _ { r with names := r.names ++ [(x, d.name)] } names = _
      rw [ih _ fun y hy => h y (by simp [hy])]
      simp

theorem Registry.add_of_disabled (program : String) (styles : Styles) (caps : CapabilitySet)
    (r : Registry) {d : Descriptor} (hplain : d.PlainRequirement)
    (hoff : d.enabledIn caps = false) :
    Registry.add program styles caps r (.descriptor d) = .ok r := by
  have hadm := caps.admits_of_plain hplain
  rw [hoff] at hadm
  simp only [Registry.add, hadm, Except.ok_bind, Bool.not_false, if_true]
  cases hreq : d.requires with
  | other v => exact absurd hreq (hplain v)
  | _ => rfl

theorem Registry.add_of_enabled (program : String) (styles : Styles) (caps : CapabilitySet)
    (r : Registry) {d : Descriptor} (hplain : d.PlainRequirement)
    (hon : d.enabledIn caps = true) :
    Registry.add program styles caps r (.descriptor d) = (do
      let r ← r.addNames d
      let g ← d.grammar program styles
      pure { r with descriptors := r.descriptors ++ [d], grammars := r.grammars ++ [(d.name, g)] }) := by
  have hadm := caps.admits_of_plain hplain
  rw [hon] at hadm
  simp [Registry.add, hadm]

/-! ## The whole walk -/

/-- The walk over a catalog of descriptors: it stops at the first repeated name, and
otherwise registers the enabled descriptors in catalog order, their names and their
grammars. -/
theorem foldlM_add (program : String) (styles : Styles) (caps : CapabilitySet) :
    ∀ (ds : List Descriptor) (r : Registry), (∀ d ∈ ds, d.Buildable caps) →
    (ds.map Entry.descriptor).foldlM (Registry.add program styles caps) r =
      match firstRepeat r.names (enabledRegistrations caps ds) with
      | some (x, first, o) => .error (.cli (duplicateName x first o))
      | none => .ok
          { descriptors := r.descriptors ++ ds.filter (·.enabledIn caps)
            names := r.names ++ enabledRegistrations caps ds
            grammars := r.grammars ++
              (ds.filter (·.enabledIn caps)).filterMap (·.grammarOf? program styles) }
  | [], r, _ => by simp [enabledRegistrations, firstRepeat]
  | d :: ds, r, h => by
    have hd := h d (by simp)
    have hds : ∀ d ∈ ds, d.Buildable caps := fun d' hd' => h d' (by simp [hd'])
    rw [List.map_cons, List.foldlM_cons]
    cases hon : d.enabledIn caps with
    | false =>
      rw [Registry.add_of_disabled program styles caps r hd.plain hon]
      simp only [enabledRegistrations, List.filter_cons, hon, Bool.false_eq_true, if_false]
      exact foldlM_add program styles caps ds r hds
    | true =>
      have hreg : enabledRegistrations caps (d :: ds) =
          d.registrations ++ enabledRegistrations caps ds := by
        simp [enabledRegistrations, hon]
      obtain ⟨g, hg⟩ := Descriptor.grammar_ok (hd.args hon) program styles
      rw [Registry.add_of_enabled program styles caps r hd.plain hon,
        Registry.addNames_eq r d (hd.hashable hon), hreg, firstRepeat_append]
      cases hfr : firstRepeat r.names d.registrations with
      | some t => rfl
      | none =>
        simp only [hg, Option.none_or]
        show List.foldlM _ _ _ = _
        rw [foldlM_add program styles caps ds _ hds]
        cases firstRepeat (r.names ++ d.registrations) (enabledRegistrations caps ds) <;>
          simp [hon, Descriptor.grammarOf?, hg, Except.toOption]

/-! ## What a built schema holds -/

/-- Registering the names of a command succeeds only when each can be a key. -/
theorem Registry.addNames_hashable {r r' : Registry} {d : Descriptor}
    (h : r.addNames d = .ok r') : ∀ x ∈ d.allNames, x.hashable = true := by
  unfold Registry.addNames at h
  generalize d.allNames = names at h
  induction names generalizing r with
  | nil => simp
  | cons x names ih =>
    rw [List.foldlM_cons] at h
    obtain ⟨r1, h1, h2⟩ := Except.bind_eq_ok.mp h
    have hx : x.hashable = true := by
      cases hx : x.hashable
      · simp [Registry.addName, hx] at h1
      · rfl
    intro y hy
    rcases List.mem_cons.mp hy with rfl | hy
    · exact hx
    · exact ih h2 y hy

/-- A step of the walk succeeds only on a descriptor the build can take. -/
theorem Registry.add_buildable {program : String} {styles : Styles} {caps : CapabilitySet}
    {r r' : Registry} {e : Entry} (h : Registry.add program styles caps r e = .ok r') :
    ∃ d, e = .descriptor d ∧ d.Buildable caps := by
  cases e with
  | foreign v => simp [Registry.add] at h
  | descriptor d =>
    have hplain : d.PlainRequirement := by
      intro v hv
      -- a requirement that is not a capability is never met, and then fails
      simp only [Registry.add, hv, CapabilitySet.admits] at h
      cases hh : v.hashable <;> simp [hh] at h
    refine ⟨d, rfl, hplain, fun hon => ?_, fun hon => ?_⟩
    · rw [Registry.add_of_enabled _ _ _ _ hplain hon] at h
      obtain ⟨r1, h1, -⟩ := Except.bind_eq_ok.mp h
      exact Registry.addNames_hashable h1
    · rw [Registry.add_of_enabled _ _ _ _ hplain hon] at h
      obtain ⟨r1, -, h2⟩ := Except.bind_eq_ok.mp h
      obtain ⟨g, hg, -⟩ := Except.bind_eq_ok.mp h2
      intro hbad
      simp [Descriptor.grammar, hbad] at hg

/-- A walk that succeeds went over descriptors only, each one the build can take. -/
theorem foldlM_add_descriptors {program : String} {styles : Styles} {caps : CapabilitySet} :
    ∀ {entries : List Entry} {r r' : Registry},
    entries.foldlM (Registry.add program styles caps) r = .ok r' →
    ∃ ds : List Descriptor, entries = ds.map .descriptor ∧ ∀ d ∈ ds, d.Buildable caps
  | [], _, _, _ => ⟨[], rfl, by simp⟩
  | e :: entries, r, r', h => by
    rw [List.foldlM_cons] at h
    obtain ⟨r1, h1, h2⟩ := Except.bind_eq_ok.mp h
    obtain ⟨d, rfl, hd⟩ := Registry.add_buildable h1
    obtain ⟨ds, rfl, hds⟩ := foldlM_add_descriptors h2
    refine ⟨d :: ds, rfl, fun d' hd' => ?_⟩
    rcases List.mem_cons.mp hd' with rfl | hd'
    · exact hd
    · exact hds d' hd'

theorem Schema.build_verify (cat : Catalog) (caps : CapabilitySet) (pres : Presentation)
    (verify : Bool) :
    Schema.build cat caps pres verify =
      (if verify then cat.check else pure ()) >>= fun _ => Schema.build cat caps pres := by
  cases verify <;> rfl

/-- A built schema is the registry of its catalog with a top-level grammar over its
listing. -/
theorem Schema.build_eq_ok {cat : Catalog} {caps : CapabilitySet} {pres : Presentation}
    {verify : Bool} {s : Schema} (h : Schema.build cat caps pres verify = .ok s) :
    ∃ r listing sections,
      cat.entries.foldlM (Registry.add pres.program pres.styles caps) {} = .ok r ∧
      listingOf pres r.descriptors = .ok listing ∧
      s = { catalog := cat, capabilities := caps, presentation := pres,
            descriptors := r.descriptors, names := r.names, grammars := r.grammars,
            top := topGrammar pres.program pres.styles sections (listedNames listing)
              (r.names.filterMap (·.1.asString?)) } := by
  rw [Schema.build_verify] at h
  obtain ⟨_, -, h⟩ := Except.bind_eq_ok.mp h
  simp only [Schema.build, Bool.false_eq_true, if_false] at h
  obtain ⟨r, hr, h⟩ := Except.bind_eq_ok.mp h
  obtain ⟨listing, hl, h⟩ := Except.bind_eq_ok.mp h
  obtain ⟨sections, -, h⟩ := Except.bind_eq_ok.mp h
  exact ⟨r, listing, sections, hr, hl, (Except.ok.inj h).symm⟩

theorem Schema.build_of_walk_error {cat : Catalog} {caps : CapabilitySet} {pres : Presentation}
    {f : Fault} (hr : cat.entries.foldlM (Registry.add pres.program pres.styles caps) {} = .error f) :
    Schema.build cat caps pres = .error f := by
  simp [Schema.build, hr]

/-- After a walk that succeeds and its listing, the build lays out the sections of the help
and assembles the schema. -/
theorem Schema.build_of_walk {cat : Catalog} {caps : CapabilitySet} {pres : Presentation}
    {r : Registry} {listing : List (Placement × List Descriptor)}
    (hr : cat.entries.foldlM (Registry.add pres.program pres.styles caps) {} = .ok r)
    (hl : listingOf pres r.descriptors = .ok listing) :
    Schema.build cat caps pres = (listingSections listing).map fun sections =>
      { catalog := cat, capabilities := caps, presentation := pres,
        descriptors := r.descriptors, names := r.names, grammars := r.grammars,
        top := topGrammar pres.program pres.styles sections (listedNames listing)
          (r.names.filterMap (·.1.asString?)) } := by
  simp only [Schema.build, Bool.false_eq_true, if_false, hr, hl, Except.ok_bind]
  cases listingSections listing <;> rfl

/-- What a successful build is: a catalog of descriptors the build can take, whose enabled
names repeat nothing, registered in catalog order with their grammars, and a top-level grammar
over a listing whose sections all have headings. -/
theorem Schema.build_parts {cat : Catalog} {caps : CapabilitySet} {pres : Presentation}
    {verify : Bool} {s : Schema} (h : Schema.build cat caps pres verify = .ok s) :
    ∃ ds listing sections, cat.entries = ds.map .descriptor ∧ (∀ d ∈ ds, d.Buildable caps) ∧
      firstRepeat [] (enabledRegistrations caps ds) = none ∧
      listingOf pres (ds.filter (·.enabledIn caps)) = .ok listing ∧
      listingSections listing = .ok sections ∧
      s = { catalog := cat, capabilities := caps, presentation := pres,
            descriptors := ds.filter (·.enabledIn caps), names := enabledRegistrations caps ds,
            grammars := (ds.filter (·.enabledIn caps)).filterMap
              (·.grammarOf? pres.program pres.styles),
            top := topGrammar pres.program pres.styles sections (listedNames listing)
              ((enabledRegistrations caps ds).filterMap (·.1.asString?)) } := by
  rw [Schema.build_verify] at h
  obtain ⟨_, -, h⟩ := Except.bind_eq_ok.mp h
  simp only [Schema.build, Bool.false_eq_true, if_false] at h
  obtain ⟨r, hr, h⟩ := Except.bind_eq_ok.mp h
  obtain ⟨listing, hl, h⟩ := Except.bind_eq_ok.mp h
  obtain ⟨sections, hs, h⟩ := Except.bind_eq_ok.mp h
  cases h
  obtain ⟨ds, hds, hb⟩ := foldlM_add_descriptors hr
  rw [hds, foldlM_add _ _ _ ds {} hb] at hr
  cases hfr : firstRepeat [] (enabledRegistrations caps ds) with
  | some t => simp [hfr] at hr
  | none =>
    simp only [hfr, Except.ok.injEq] at hr
    subst hr
    exact ⟨ds, listing, sections, hds, hb, hfr, by simpa using hl, hs, by simp⟩

/-- What every built schema guarantees: its catalog is a list of descriptors the build can
take and its commands are the enabled ones, in catalog order; its names are exactly theirs,
distinct, each with its command's canonical name; it has one grammar per command; and its
top-level grammar chooses among exactly its names. -/
structure Schema.WellBuilt (s : Schema) : Prop where
  catalog : ∃ ds : List Descriptor, s.catalog.entries = ds.map .descriptor ∧
    (∀ d ∈ ds, d.Buildable s.capabilities) ∧ s.descriptors = ds.filter (·.enabledIn s.capabilities)
  names : s.names = s.descriptors.flatMap Descriptor.registrations
  distinct : Distinct (s.names.map Prod.fst)
  grammars : s.grammars = s.descriptors.filterMap (·.grammarOf? s.program s.presentation.styles)
  top : ∃ sections listed, s.top =
    topGrammar s.program s.presentation.styles sections listed (s.names.filterMap (·.1.asString?))

theorem Schema.build_wellBuilt {cat : Catalog} {caps : CapabilitySet} {pres : Presentation}
    {verify : Bool} {s : Schema} (h : Schema.build cat caps pres verify = .ok s) :
    s.WellBuilt := by
  obtain ⟨ds, listing, sections, hds, hb, hfr, -, -, rfl⟩ := Schema.build_parts h
  have hdist := (firstRepeat_eq_none_iff [] _ (by simp [Distinct])).mp hfr
  exact ⟨⟨ds, hds, hb, rfl⟩, by simp [enabledRegistrations], by simpa using hdist, rfl,
    ⟨sections, listedNames listing, rfl⟩⟩

/-! ## Lookups in a built schema -/

/-- The canonical names of a list of commands come in the same order among all their
names. -/
theorem map_name_sublist (ds : List Descriptor) :
    (ds.map (·.name)).Sublist ((ds.flatMap Descriptor.registrations).map Prod.fst) := by
  induction ds with
  | nil => simp
  | cons d ds ih =>
    simp only [List.map_cons, List.flatMap_cons, List.map_append, Descriptor.registrations_map_fst,
      Descriptor.allNames, List.cons_append]
    exact ih.trans (List.sublist_append_right _ _) |>.cons_cons _

/-- The grammar table has the canonical names for keys, one grammar per command. -/
theorem grammarOf?_keys (program : String) (styles : Styles) :
    ∀ ds : List Descriptor, (∀ d ∈ ds, d.args ≠ .bad) →
    (ds.filterMap (·.grammarOf? program styles)).map Prod.fst = ds.map (·.name)
  | [], _ => rfl
  | d :: ds, h => by
    obtain ⟨g, hg⟩ := Descriptor.grammar_ok (h d (by simp)) program styles
    have hd : d.grammarOf? program styles = some (d.name, g) := by
      simp [Descriptor.grammarOf?, hg, Except.toOption]
    have ih := grammarOf?_keys program styles ds fun d' hd' => h d' (by simp [hd'])
    rw [List.filterMap_cons, hd, List.map_cons, ih, List.map_cons]

theorem Schema.resolve?_eq_none {s : Schema} {x : Value} (hx : x.hashable = true)
    (h : ∀ y ∈ s.names, y.1.same x = false) : s.resolve? x = .ok none := by
  simp [Schema.resolve?, hx, find?_same_eq_none Prod.fst h]

namespace Schema.WellBuilt

variable {s : Schema} (hs : s.WellBuilt)
include hs

theorem enabled {d : Descriptor} (hd : d ∈ s.descriptors) : d.enabledIn s.capabilities = true := by
  obtain ⟨ds, -, -, hdesc⟩ := hs.catalog
  rw [hdesc] at hd
  exact (List.mem_filter.mp hd).2

theorem buildable {d : Descriptor} (hd : d ∈ s.descriptors) : d.Buildable s.capabilities := by
  obtain ⟨ds, -, hb, hdesc⟩ := hs.catalog
  rw [hdesc] at hd
  exact hb d (List.mem_filter.mp hd).1

theorem args {d : Descriptor} (hd : d ∈ s.descriptors) : d.args ≠ .bad :=
  (hs.buildable hd).args (hs.enabled hd)

theorem hashable {d : Descriptor} (hd : d ∈ s.descriptors) {x : Value} (hx : x ∈ d.allNames) :
    x.hashable = true :=
  (hs.buildable hd).hashable (hs.enabled hd) x hx

theorem mem_names {d : Descriptor} (hd : d ∈ s.descriptors) {x : Value} (hx : x ∈ d.allNames) :
    (x, d.name) ∈ s.names := by
  rw [hs.names]
  exact List.mem_flatMap.mpr ⟨d, hd, by simp [Descriptor.registrations, hx]⟩

theorem find_name {d : Descriptor} (hd : d ∈ s.descriptors) {x : Value} (hx : x ∈ d.allNames) :
    s.names.find? (·.1.same x) = some (x, d.name) :=
  find?_same_of_mem Prod.fst hs.distinct (hs.mem_names hd hx)

theorem resolve?_of_mem {d : Descriptor} (hd : d ∈ s.descriptors) {x : Value}
    (hx : x ∈ d.allNames) : s.resolve? x = .ok (some d.name) := by
  simp [Schema.resolve?, hs.hashable hd hx, hs.find_name hd hx]

theorem distinct_canonical : Distinct (s.descriptors.map (·.name)) :=
  hs.distinct.sublist (hs.names ▸ map_name_sublist s.descriptors)

theorem get?_of_mem {d : Descriptor} (hd : d ∈ s.descriptors) : s.get? d.name = .ok (some d) := by
  have hname : d.name.hashable = true := hs.hashable hd (by simp [Descriptor.allNames])
  simp [Schema.get?, hname, find?_same_of_mem (·.name) hs.distinct_canonical hd]

/-- The grammar of an enabled command is found under its canonical name. -/
theorem find_grammar {d : Descriptor} (hd : d ∈ s.descriptors) :
    ∃ g, d.grammar s.program s.presentation.styles = .ok g ∧
      s.grammars.find? (·.1.same d.name) = some (d.name, g) := by
  obtain ⟨g, hg⟩ := Descriptor.grammar_ok (hs.args hd) s.program s.presentation.styles
  have hkeys : s.grammars.map Prod.fst = s.descriptors.map (·.name) := by
    rw [hs.grammars]
    exact grammarOf?_keys _ _ _ fun d' hd' => hs.args hd'
  have hmem : (d.name, g) ∈ s.grammars := by
    rw [hs.grammars]
    exact List.mem_filterMap.mpr ⟨d, hd, by simp [Descriptor.grammarOf?, hg, Except.toOption]⟩
  refine ⟨g, hg, ?_⟩
  have hdist : Distinct (s.grammars.map Prod.fst) := hkeys ▸ hs.distinct_canonical
  exact find?_same_of_mem Prod.fst hdist hmem

/-- Every name of an enabled command with a true canonical name leads to the command's own
grammar. -/
theorem grammarFor?_of_mem {d : Descriptor} (hd : d ∈ s.descriptors) (htrue : d.name.truthy = true)
    {x : Value} (hx : x ∈ d.allNames) :
    ∃ g, d.grammar s.program s.presentation.styles = .ok g ∧ s.grammarFor? x = .ok (some g) := by
  obtain ⟨g, hg, hfind⟩ := hs.find_grammar hd
  refine ⟨g, hg, ?_⟩
  simp [Schema.grammarFor?, hs.resolve?_of_mem hd hx, htrue, hfind]

end Schema.WellBuilt

end CommandLine
